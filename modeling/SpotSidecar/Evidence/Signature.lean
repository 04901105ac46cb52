import SpotSidecar.Bus.RoundTrip
import SpotSidecar.Json.Distinct
import SpotSidecar.Json.Pretty
import SpotSidecar.Json.Unicode
import SpotSidecar.State.Values

/-! The signatures of the evidence that promotes a release to live trading. -/
namespace SpotSidecar.Evidence.Signature
open Json (Text Members Same Distinct isStr)
open Bus (Python say pyStr pyFloat equalsInt addSeconds above unsigned)

inductive Raised where
  | signatureError (text : String)
  | unicodeError
  | overflowError

/-- An Ed25519 key pair with the two codes of base64. -/
structure Scheme where
  sign : ByteArray → ByteArray
  verify : ByteArray → ByteArray → Bool
  encode : ByteArray → Text
  decode : Text → Option ByteArray

def refuse {α : Type} (text : String) : Except Raised α := .error (.signatureError text)

abbrev refuseIf (c : Prop) [Decidable c] (text : String) : Except Raised Unit :=
  Checks.refuseIf c (.signatureError text)

abbrev orRefuse {α : Type} (a : Option α) (text : String) : Except Raised α :=
  Checks.orRefuse a (.signatureError text)

section model
variable {F : Type} (py : Python F) (scheme : Scheme)

/-- `canonical_bytes`; none is an error of the encoding. -/
def canonicalBytes (v : Json F) : Option ByteArray :=
  (Json.dumpsRaw py.floats.toFloatFormat v).map fun cs => (String.ofList cs).toUTF8

def bodyOf (producer nonce : Text) (issued : F) (expires : Double F) (payload : Json F) :
    Members F :=
  [(say "evidence_version", .int 1), (say "algorithm", .str (say "Ed25519")),
    (say "producer", .str producer), (say "nonce", .str nonce),
    (say "issued_at", .float (.finite issued)), (say "expires_at", .float expires),
    (say "payload", payload)]

/-- The arguments of a call of the certifier; `token` is what `secrets.token_hex` gives. -/
structure Call (F : Type) where
  payload : Json F
  producer : Text
  validSeconds : ℤ
  now : Double F
  nonce : Option Text
  token : Text

/-- `expires_at` -/
def expiresAt (issued : F) (ttl : ℤ) : Except Raised (Double F) :=
  match addSeconds py issued ttl with
  | .ok expires => .ok expires
  | .error _ => .error .overflowError

/-- The body that `sign_document` signs. -/
def Call.body (call : Call F) : Except Raised (Members F) :=
  match call.payload with
  | .obj _ => do
    let issued ← orRefuse call.now.finite? "evidence validity must be between 5 minutes and 90 days"
    refuseIf (call.validSeconds < 300 ∨ 90 * 86400 < call.validSeconds)
      "evidence validity must be between 5 minutes and 90 days"
    let expires ← expiresAt py issued call.validSeconds
    let nonce := if call.nonce.getD [] ≠ [] then call.nonce.getD [] else call.token
    .ok (bodyOf call.producer nonce issued expires call.payload)
  | _ => refuse "evidence payload must be an object"

/-- `sign_document` -/
def signDocument (call : Call F) : Except Raised (Members F) := do
  let body ← call.body py
  match canonicalBytes py (.obj body) with
  | none => .error .unicodeError
  | some message =>
    .ok (body ++ [(Bus.Field.signature, .str (scheme.encode (scheme.sign message)))])

/-- `d < x` -/
def below (d : Double F) (x : F) : Bool :=
  match d with
  | .finite y => py.floats.value y < py.floats.value x
  | .nan => false
  | .infinity negative => negative

/-- The two times of a document against the clock. -/
def checkTimes (document : Members F) (now maxFutureSkew minRemaining : Double F) :
    Except Raised Unit := do
  let malformed := "evidence timestamps are malformed"
  let issued ← orRefuse ((document.lookup (say "issued_at")).bind (pyFloat py)) malformed
  let expires ← orRefuse ((document.lookup (say "expires_at")).bind (pyFloat py)) malformed
  let notFinite := "evidence timestamps must be finite"
  let issued ← orRefuse issued.finite? notFinite
  let expires ← orRefuse expires.finite? notFinite
  let current ← orRefuse now.finite? notFinite
  let outside := "minimum remaining validity is outside the allowed range"
  let remaining ← orRefuse minRemaining.finite? outside
  refuseIf (py.floats.value remaining < 0 ∨ 7 * 86400 < py.floats.value remaining) outside
  let invalid := "future-skew allowance is invalid"
  let skew ← orRefuse maxFutureSkew.finite? invalid
  refuseIf (py.floats.value skew < 0) invalid
  refuseIf (above py issued (py.floats.add current skew)) "evidence was issued in the future"
  refuseIf (py.floats.value expires ≤ py.floats.value issued ∨
    py.floats.value expires < py.floats.value current) "evidence is expired"
  refuseIf (below py (py.floats.sub expires current) remaining)
    "evidence expires before the required transaction margin"

/-- The signature over the rest of the document. -/
def checkSignature (document : Members F) : Except Raised Unit := do
  let supplied := pyStr py ((document.lookup Bus.Field.signature).getD (.str []))
  let signature ← orRefuse (scheme.decode supplied) "evidence signature is malformed"
  let failed := "evidence signature verification failed"
  let message ← orRefuse (canonicalBytes py (.obj (unsigned document))) failed
  refuseIf (scheme.verify message signature = false) failed

/-- `verify_document` -/
def verifyDocument (document : Json F) (expectedProducer : Text)
    (now maxFutureSkew minRemaining : Double F) : Except Raised (Members F) :=
  match document with
  | .obj document => do
    refuseIf (equalsInt py ((document.lookup (say "evidence_version")).getD .null) 1 = false)
      "unsupported evidence version"
    refuseIf ((document.lookup (say "algorithm")).any (isStr (say "Ed25519")) = false)
      "unsupported evidence signature algorithm"
    refuseIf ((document.lookup (say "producer")).any (isStr expectedProducer) = false)
      "unexpected evidence producer"
    checkTimes py document now maxFutureSkew minRemaining
    checkSignature py scheme document
    match document.lookup (say "payload") with
    | some (.obj payload) => .ok payload
    | _ => refuse "evidence payload must be an object"
  | _ => refuse "evidence document must be an object"

end model

/-! ### What a document carries -/

section documents
variable {F : Type} {py : Python F} {scheme : Scheme} {document : Members F}

theorem lookup_unsigned {k : Text} (hk : k ≠ Bus.Field.signature) :
    (unsigned document).lookup k = document.lookup k := by
  unfold Bus.unsigned
  induction document with
  | nil => rfl
  | cons m document ih =>
    obtain ⟨k', v⟩ := m
    by_cases hk' : k' = Bus.Field.signature
    · have hne : (k == k') = false := by
        rw [hk']
        exact beq_false_of_ne hk
      rw [List.filter_cons_of_neg (by simp [hk']), ih, List.lookup_cons, hne]
    · rw [List.filter_cons_of_pos (by simp [hk']), List.lookup_cons, List.lookup_cons, ih]

/-- What the verifier finds in a document that carries a body of the certifier. -/
structure Carried (producer : Text) (issued : F) (expires : Double F) (payload : Json F)
    (document : Members F) : Prop where
  version : document.lookup (say "evidence_version") = some (.int 1)
  algorithm : document.lookup (say "algorithm") = some (.str (say "Ed25519"))
  producer : document.lookup (say "producer") = some (.str producer)
  issuedAt : document.lookup (say "issued_at") = some (.float (.finite issued))
  expiresAt : document.lookup (say "expires_at") = some (.float expires)
  payload : ∃ w, document.lookup (say "payload") = some w ∧ Same payload w

theorem carried {producer nonce : Text} {issued : F} {expires : Double F} {payload : Json F}
    (h : Same (.obj (bodyOf producer nonce issued expires payload)) (.obj (unsigned document)))
    (hdistinct : Distinct (.obj document)) :
    Carried producer issued expires payload document := by
  have hkeys := (Json.distinct_obj.mp (Bus.distinct_unsigned hdistinct)).1
  constructor
  · rw [← lookup_unsigned (by decide)]
    exact h.lookup_scalar hkeys (by simp [bodyOf]) rfl
  · rw [← lookup_unsigned (by decide)]
    exact h.lookup_scalar hkeys (by simp [bodyOf]) rfl
  · rw [← lookup_unsigned (by decide)]
    exact h.lookup_scalar hkeys (by simp [bodyOf]) rfl
  · rw [← lookup_unsigned (by decide)]
    exact h.lookup_scalar hkeys (by simp [bodyOf]) rfl
  · rw [← lookup_unsigned (by decide)]
    exact h.lookup_scalar hkeys (by simp [bodyOf]) rfl
  · have hmem : (say "payload", payload) ∈ bodyOf producer nonce issued expires payload := by
      simp [bodyOf]
    obtain ⟨w, hw, hsame⟩ := h.mem hmem
    refine ⟨w, ?_, hsame⟩
    rw [← lookup_unsigned (by decide)]
    exact Json.lookup_of_mem hkeys hw

/-- The clock and the margins admit evidence of these times. -/
def Admits (py : Python F) (issued expires : F) (now skew minRemaining : Double F) : Prop :=
  ∃ current s remaining, now = .finite current ∧ skew = .finite s ∧
    minRemaining = .finite remaining ∧ 0 ≤ py.floats.value s ∧ 0 ≤ py.floats.value remaining ∧
    py.floats.value remaining ≤ 7 * 86400 ∧
    above py issued (py.floats.add current s) = false ∧
    py.floats.value issued < py.floats.value expires ∧
    py.floats.value current ≤ py.floats.value expires ∧
    below py (py.floats.sub expires current) remaining = false

theorem checkTimes_ok {issued : F} {expires now skew minRemaining : Double F}
    (hissued : document.lookup (say "issued_at") = some (.float (.finite issued)))
    (hexpires : document.lookup (say "expires_at") = some (.float expires)) :
    checkTimes py document now skew minRemaining = .ok () ↔
      ∃ e, expires = .finite e ∧ Admits py issued e now skew minRemaining := by
  simp only [checkTimes, hissued, hexpires, Option.bind_some, pyFloat, Checks.orRefuse_bind_eq_ok,
    Checks.refuseIf_bind_eq_ok, Checks.refuseIf_eq_ok, Option.some.injEq, Bus.finite?_eq_some,
    not_or, not_lt, not_le,
    Bool.not_eq_true]
  constructor
  · rintro ⟨_, rfl, _, rfl, _, hi, e, rfl, current, rfl, remaining, rfl, ⟨hlow, hhigh⟩, s, rfl,
      hskew, hfuture, ⟨horder, hcurrent⟩, hmargin⟩
    cases hi
    exact ⟨e, rfl, current, s, remaining, rfl, rfl, rfl, hskew, hlow, hhigh, hfuture, horder,
      hcurrent, hmargin⟩
  · rintro ⟨e, rfl, current, s, remaining, rfl, rfl, rfl, hskew, hlow, hhigh, hfuture, horder,
      hcurrent, hmargin⟩
    exact ⟨_, rfl, _, rfl, _, rfl, e, rfl, current, rfl, remaining, rfl, ⟨hlow, hhigh⟩, s, rfl,
      hskew, hfuture, ⟨horder, hcurrent⟩, hmargin⟩

theorem checkSignature_ok : checkSignature py scheme document = .ok () ↔
    ∃ signature message,
      scheme.decode (pyStr py ((document.lookup Bus.Field.signature).getD (.str []))) =
        some signature ∧
      canonicalBytes py (.obj (unsigned document)) = some message ∧
      scheme.verify message signature = true := by
  simp only [checkSignature, Checks.orRefuse_bind_eq_ok, Checks.refuseIf_eq_ok, Bool.not_eq_false]
  constructor
  · rintro ⟨signature, hdecode, message, hmessage, hverify⟩
    exact ⟨signature, message, hdecode, hmessage, hverify⟩
  · rintro ⟨signature, message, hdecode, hmessage, hverify⟩
    exact ⟨signature, hdecode, message, hmessage, hverify⟩

theorem Carried.accepted_iff {producer expected : Text} {issued : F}
    {expires now skew minRemaining : Double F} {payload : Json F} {found : Members F}
    (h : Carried producer issued expires payload document) :
    verifyDocument py scheme (.obj document) expected now skew minRemaining = .ok found ↔
      expected = producer ∧ (∃ e, expires = .finite e ∧ Admits py issued e now skew minRemaining) ∧
        checkSignature py scheme document = .ok () ∧
        document.lookup (say "payload") = some (.obj found) := by
  have hversion :
      equalsInt py ((document.lookup (say "evidence_version")).getD .null) 1 = true := by
    rw [h.version]
    rfl
  have halgorithm : (document.lookup (say "algorithm")).any (isStr (say "Ed25519")) = true := by
    rw [h.algorithm]
    simp [isStr]
  have hproducer : (document.lookup (say "producer")).any (isStr expected) = true ↔
      expected = producer := by
    rw [h.producer]
    simp [isStr, eq_comm]
  unfold verifyDocument
  dsimp only
  rw [Checks.refuseIf_bind_eq_ok, Checks.refuseIf_bind_eq_ok, Checks.refuseIf_bind_eq_ok,
    except_bind_eq_ok, hversion, halgorithm]
  simp only [Bool.not_eq_false, hproducer, true_and]
  constructor
  · rintro ⟨hexpected, _, htimes, h'⟩
    obtain ⟨_, hsignature, hpayload⟩ := except_bind_eq_ok.mp h'
    refine ⟨hexpected, (checkTimes_ok h.issuedAt h.expiresAt).mp htimes, hsignature, ?_⟩
    split at hpayload
    · next hlookup =>
      cases hpayload
      exact hlookup
    · cases hpayload
  · rintro ⟨hexpected, htimes, hsignature, hpayload⟩
    refine ⟨hexpected, (), (checkTimes_ok h.issuedAt h.expiresAt).mpr htimes, ?_⟩
    rw [except_bind_eq_ok]
    refine ⟨(), hsignature, ?_⟩
    rw [hpayload]

end documents

/-! ### What is signed -/

section signed
variable {F : Type} {py : Python F} {scheme : Scheme} {call : Call F} {document : Members F}

/-- What the certifier signs. -/
theorem body_eq_ok {body : Members F} (h : call.body py = .ok body) :
    ∃ payload nonce issued expires, call.payload = .obj payload ∧ call.now = .finite issued ∧
      300 ≤ call.validSeconds ∧ call.validSeconds ≤ 90 * 86400 ∧
      expiresAt py issued call.validSeconds = .ok expires ∧
      body = bodyOf call.producer nonce issued expires call.payload := by
  unfold Call.body at h
  split at h
  · next payload hpayload =>
    simp only [Checks.orRefuse_bind_eq_ok] at h
    obtain ⟨issued, hissued, h⟩ := h
    obtain ⟨hrange, h⟩ := Checks.refuseIf_bind_eq_ok.mp h
    obtain ⟨expires, hexpires, h⟩ := except_bind_eq_ok.mp h
    cases h
    rw [not_or, not_lt, not_lt] at hrange
    exact ⟨payload, _, issued, expires, hpayload, Bus.finite?_eq_some.mp hissued, hrange.1,
      hrange.2, hexpires, by rw [hpayload]⟩
  · cases h

theorem distinct_bodyOf {producer nonce : Text} {issued : F} {expires : Double F}
    {payload : Json F} (h : Distinct payload) :
    Distinct (.obj (bodyOf producer nonce issued expires payload)) := by
  rw [Json.distinct_obj]
  constructor
  · have hkeys : [say "evidence_version", say "algorithm", say "producer", say "nonce",
        say "issued_at", say "expires_at", say "payload"].Nodup := by decide
    exact hkeys
  · intro m hm
    simp only [bodyOf, List.mem_cons, List.not_mem_nil, or_false] at hm
    rcases hm with rfl | rfl | rfl | rfl | rfl | rfl | rfl
    all_goals first | exact h | trivial

theorem canonicalBytes_inj (hlaw : py.floats.toFloatFormat.Lawful) {v w : Json F}
    {message : ByteArray} (hv : Distinct v) (hw : Distinct w)
    (h : canonicalBytes py v = some message) (h' : canonicalBytes py w = some message) :
    Same v w := by
  obtain ⟨cs, hcs, rfl⟩ := Option.map_eq_some_iff.mp h
  obtain ⟨ds, hds, hsame⟩ := Option.map_eq_some_iff.mp h'
  have hchars : ds = cs := String.ofList_injective (String.toByteArray_inj.mp hsame)
  rw [hchars] at hds
  exact Json.dumpsRaw_inj hlaw hv hw hcs hds

theorem signDocument_eq_ok (h : signDocument py scheme call = .ok document) :
    ∃ body message, call.body py = .ok body ∧ canonicalBytes py (.obj body) = some message ∧
      document = body ++ [(Bus.Field.signature, .str (scheme.encode (scheme.sign message)))] := by
  unfold signDocument at h
  obtain ⟨body, hbody, h⟩ := except_bind_eq_ok.mp h
  split at h
  · cases h
  · next message hmessage =>
    cases h
    exact ⟨body, message, hbody, hmessage, rfl⟩

theorem signed_keys {producer nonce : Text} {issued : F} {expires : Double F} {payload v : Json F} :
    ((bodyOf producer nonce issued expires payload ++ [(Bus.Field.signature, v)]).map
      Prod.fst).Nodup := by
  have hkeys : [say "evidence_version", say "algorithm", say "producer", say "nonce",
      say "issued_at", say "expires_at", say "payload", Bus.Field.signature].Nodup := by decide
  exact hkeys

theorem unsigned_signed (producer nonce : Text) (issued : F) (expires : Double F)
    (payload v : Json F) :
    unsigned (bodyOf producer nonce issued expires payload ++ [(Bus.Field.signature, v)]) =
      bodyOf producer nonce issued expires payload := by
  have hkeys : ∀ k ∈ [say "evidence_version", say "algorithm", say "producer", say "nonce",
      say "issued_at", say "expires_at", say "payload"], k ≠ Bus.Field.signature := by decide
  have hbody : unsigned (bodyOf producer nonce issued expires payload) =
      bodyOf producer nonce issued expires payload := by
    rw [Bus.unsigned, List.filter_eq_self]
    intro m hm
    have hkey : m.1 ∈ (bodyOf producer nonce issued expires payload).map Prod.fst :=
      List.mem_map_of_mem hm
    simpa using hkeys m.1 hkey
  rw [Bus.unsigned] at hbody ⊢
  rw [List.filter_append, hbody]
  simp

theorem distinct_signed (producer nonce signature : Text) (issued : F) (expires : Double F)
    {payload : Json F} (h : Distinct payload) :
    Distinct (.obj (bodyOf producer nonce issued expires payload ++
      [(Bus.Field.signature, .str signature)])) := by
  rw [Json.distinct_obj]
  refine ⟨signed_keys, ?_⟩
  intro m hm
  rcases List.mem_append.mp hm with hbody | hlast
  · exact (Json.distinct_obj.mp (distinct_bodyOf h)).2 m hbody
  · rw [List.mem_singleton.mp hlast]
    trivial

/-- The signature holds wherever the members of the document have been put in another order. -/
theorem checkSignature_signed {producer nonce : Text} {issued : F} {expires : Double F}
    {payload : Json F} {message : ByteArray}
    (hcorrect : scheme.verify message (scheme.sign message) = true)
    (hcode : scheme.decode (scheme.encode (scheme.sign message)) = some (scheme.sign message))
    (hmessage : canonicalBytes py (.obj (bodyOf producer nonce issued expires payload)) =
      some message)
    (h : Same (.obj (bodyOf producer nonce issued expires payload ++
      [(Bus.Field.signature, .str (scheme.encode (scheme.sign message)))])) (.obj document))
    (hdistinct : Distinct (.obj document)) :
    Same (.obj (bodyOf producer nonce issued expires payload)) (.obj (unsigned document)) ∧
      checkSignature py scheme document = .ok () := by
  have hkeys := (Json.distinct_obj.mp hdistinct).1
  have hunsigned := Json.Same.filter (fun k => k ≠ Bus.Field.signature) h signed_keys
  have hbody := unsigned_signed producer nonce issued expires payload
    (.str (scheme.encode (scheme.sign message)))
  rw [Bus.unsigned] at hbody
  rw [hbody] at hunsigned
  refine ⟨hunsigned, ?_⟩
  have hsignature : document.lookup Bus.Field.signature =
      some (.str (scheme.encode (scheme.sign message))) :=
    h.lookup_scalar hkeys (List.mem_append_right _ List.mem_cons_self) rfl
  have hbytes : canonicalBytes py (.obj (unsigned document)) = some message := by
    rw [← hmessage, canonicalBytes, canonicalBytes, Bus.unsigned, Json.Same.dumpsRaw hunsigned]
  rw [checkSignature_ok, hsignature]
  exact ⟨scheme.sign message, message, hcode, hbytes, hcorrect⟩

theorem loads_line (hlaw : py.floats.toFloatFormat.Lawful) {v : Json F} (h : Distinct v) :
    Json.loads py.floats.toFloatFormat (Json.dumpsPretty py.floats.toFloatFormat v ++ ['\n']) =
      some (Json.ordered v) := by
  apply Json.loads_document hlaw ((Json.distinct_ordered v).mpr h)
  refine ⟨[], _, ['\n'], Json.blank_nil, Json.writes_pretty _ 0 (Json.ordered v),
    Json.blank_newline 0, ?_⟩
  simp [Json.dumpsPretty]

/-- The file of a signed document is read as one that carries the body and whose signature holds. -/
theorem read_signed (hlaw : py.floats.toFloatFormat.Lawful) {producer nonce : Text} {issued : F}
    {expires : Double F} {payload : Json F} {message : ByteArray}
    (hcorrect : scheme.verify message (scheme.sign message) = true)
    (hcode : scheme.decode (scheme.encode (scheme.sign message)) = some (scheme.sign message))
    (hmessage : canonicalBytes py (.obj (bodyOf producer nonce issued expires payload)) =
      some message) (hpayload : Distinct payload) :
    ∃ read, Json.loads py.floats.toFloatFormat (Json.dumpsPretty py.floats.toFloatFormat
        (.obj (bodyOf producer nonce issued expires payload ++
          [(Bus.Field.signature, .str (scheme.encode (scheme.sign message)))])) ++ ['\n']) =
        some (.obj read) ∧
      Carried producer issued expires payload read ∧ checkSignature py scheme read = .ok () := by
  have hdistinct := distinct_signed producer nonce (scheme.encode (scheme.sign message)) issued
    expires hpayload
  have hloads := loads_line hlaw hdistinct
  have hsame := (Json.same_ordered (.obj (bodyOf producer nonce issued expires payload ++
    [(Bus.Field.signature, .str (scheme.encode (scheme.sign message)))]))).symm
  have hread := (Json.distinct_ordered _).mpr hdistinct
  obtain ⟨read, hordered⟩ := hsame.exists_obj
  rw [hordered] at hloads hsame hread
  obtain ⟨hunsigned, hsignature⟩ := checkSignature_signed hcorrect hcode hmessage hsame hread
  exact ⟨read, hloads, carried hunsigned hread, hsignature⟩

end signed

/-! ### What is accepted -/

section accepted
variable {F : Type} {py : Python F} {scheme : Scheme} {call : Call F} {document : Members F}

/-- Whatever text the verifier is given: where nobody but the certifier can make signatures, what
it accepts is the payload of a call of the certifier, for the producer that is expected, and at a
time that the certificate admits. -/
theorem accepted_signed (hlaw : py.floats.toFloatFormat.Lawful) (calls : List (Call F))
    (hcalls : ∀ call ∈ calls, Distinct call.payload)
    (hsound : ∀ message signature, scheme.verify message signature = true →
      ∃ call ∈ calls, ∃ body, call.body py = .ok body ∧
        canonicalBytes py (.obj body) = some message)
    {text : List Char} {document : Json F} {producer : Text} {now skew minRemaining : Double F}
    {payload : Members F} (hread : Json.loads py.floats.toFloatFormat text = some document)
    (h : verifyDocument py scheme document producer now skew minRemaining = .ok payload) :
    ∃ call ∈ calls, call.producer = producer ∧ Same call.payload (.obj payload) ∧
      ∃ issued expires, call.now = .finite issued ∧ 300 ≤ call.validSeconds ∧
        call.validSeconds ≤ 90 * 86400 ∧
        expiresAt py issued call.validSeconds = .ok (.finite expires) ∧
        Admits py issued expires now skew minRemaining := by
  have hdistinct := Json.distinct_loads hread
  cases document with
  | obj document =>
    have hsignature : checkSignature py scheme document = .ok () := by
      have h := h
      unfold verifyDocument at h
      obtain ⟨-, h⟩ := Checks.refuseIf_bind_eq_ok.mp h
      obtain ⟨-, h⟩ := Checks.refuseIf_bind_eq_ok.mp h
      obtain ⟨-, h⟩ := Checks.refuseIf_bind_eq_ok.mp h
      obtain ⟨_, -, h⟩ := except_bind_eq_ok.mp h
      obtain ⟨_, hsignature, -⟩ := except_bind_eq_ok.mp h
      exact hsignature
    obtain ⟨signature, message, -, hmessage, hverify⟩ := checkSignature_ok.mp hsignature
    obtain ⟨call, hcall, body, hbody, hsigned⟩ := hsound message signature hverify
    obtain ⟨_, nonce, issued, expires, -, hissued, hlow, hhigh, hexpires, rfl⟩ := body_eq_ok hbody
    have hsame := canonicalBytes_inj hlaw (distinct_bodyOf (hcalls call hcall))
      (Bus.distinct_unsigned hdistinct) hsigned hmessage
    have hcarried := carried hsame hdistinct
    obtain ⟨hproducer, ⟨e, rfl, hadmits⟩, -, hpayload⟩ := hcarried.accepted_iff.mp h
    obtain ⟨w, hw, hwsame⟩ := hcarried.payload
    rw [hpayload] at hw
    cases hw
    exact ⟨call, hcall, hproducer.symm, hwsame, issued, e, hissued, hlow, hhigh, hexpires, hadmits⟩
  | _ => cases h

/-- The verifier expects the producer of a call, and its clock is one that the certificate of the
call admits. -/
def Call.ValidFor (py : Python F) (call : Call F) (producer : Text)
    (now skew minRemaining : Double F) : Prop :=
  producer = call.producer ∧ ∃ issued expires, call.now = .finite issued ∧
    expiresAt py issued call.validSeconds = .ok (.finite expires) ∧
    Admits py issued expires now skew minRemaining

/-- What the certifier has signed and written to a file is accepted by every verifier for which it
is valid, and gives it the payload; every other verifier refuses it. -/
theorem certified_accepted (hlaw : py.floats.toFloatFormat.Lawful)
    (hcorrect : ∀ message, scheme.verify message (scheme.sign message) = true)
    (hcode : ∀ bytes, scheme.decode (scheme.encode bytes) = some bytes)
    (hpayload : Distinct call.payload) (h : signDocument py scheme call = .ok document) :
    ∃ read, Json.loads py.floats.toFloatFormat
        (Json.dumpsPretty py.floats.toFloatFormat (.obj document) ++ ['\n']) = some read ∧
      ∀ producer now skew minRemaining,
        (call.ValidFor py producer now skew minRemaining →
          ∃ payload, verifyDocument py scheme read producer now skew minRemaining = .ok payload ∧
            Same call.payload (.obj payload)) ∧
        (¬call.ValidFor py producer now skew minRemaining →
          ∃ e, verifyDocument py scheme read producer now skew minRemaining = .error e) := by
  obtain ⟨body, message, hbody, hmessage, rfl⟩ := signDocument_eq_ok h
  obtain ⟨members, nonce, issued, expires, hmembers, hissued, -, -, hexpires, rfl⟩ :=
    body_eq_ok hbody
  obtain ⟨read, hloads, hcarried, hsignature⟩ :=
    read_signed hlaw (hcorrect message) (hcode _) hmessage hpayload
  refine ⟨.obj read, hloads, ?_⟩
  obtain ⟨w, hw, hsame⟩ := hcarried.payload
  intro producer now skew minRemaining
  constructor
  · rintro ⟨hproducer, issued', e, hissued', hexpires', hadmits⟩
    rw [hissued] at hissued'
    cases hissued'
    rw [hexpires] at hexpires'
    cases hexpires'
    rw [hmembers] at hsame
    obtain ⟨payload, rfl⟩ := hsame.exists_obj
    rw [← hmembers] at hsame
    exact ⟨payload, hcarried.accepted_iff.mpr ⟨hproducer, ⟨e, rfl, hadmits⟩, hsignature, hw⟩,
      hsame⟩
  · intro hinvalid
    cases hverdict : verifyDocument py scheme (.obj read) producer now skew minRemaining with
    | error e => exact ⟨e, rfl⟩
    | ok payload =>
      obtain ⟨hproducer, ⟨e, rfl, hadmits⟩, -, -⟩ := hcarried.accepted_iff.mp hverdict
      exact absurd ⟨hproducer, issued, e, hissued, hexpires, hadmits⟩ hinvalid

end accepted

section sample
open Bus (samplePython wholeFloats wholeFloats_exact)
open Json (CodeUnit)

def sampleCall : Call ℤ where
  payload := .obj [(say "release_hash", .str (say "ab"))]
  producer := say "release-certifier"
  validSeconds := 300
  now := .finite 1000
  nonce := some (say "n")
  token := []

def sampleBody : Members ℤ :=
  bodyOf (say "release-certifier") (say "n") 1000 (.finite 1300) sampleCall.payload

/-- The code of a byte is the unit with its number. -/
def encodeBytes (bytes : ByteArray) : Text := bytes.data.toList.map fun u => CodeUnit.ofNat u.toNat

def decodeBytes (s : Text) : Option ByteArray := some ⟨(s.map fun u => UInt8.ofNat u.val).toArray⟩

theorem decodeBytes_encodeBytes (bytes : ByteArray) :
    decodeBytes (encodeBytes bytes) = some bytes := by
  have hbyte : ∀ u : UInt8, UInt8.ofNat (CodeUnit.ofNat u.toNat).val = u := by
    intro u
    have hval : (CodeUnit.ofNat u.toNat).val = u.toNat := by
      have hlt := u.toNat_lt
      exact Nat.mod_eq_of_lt (by omega)
    rw [hval, UInt8.ofNat_toNat]
  have hlist : (encodeBytes bytes).map (fun u => UInt8.ofNat u.val) = bytes.data.toList := by
    rw [encodeBytes, List.map_map]
    conv_rhs => rw [← List.map_id bytes.data.toList]
    apply List.map_congr_left
    intro u _
    exact hbyte u
  rw [decodeBytes, hlist, Array.toArray_toList]

def sameBytes (a b : ByteArray) : Bool := a.data.toList = b.data.toList

theorem sameBytes_iff {a b : ByteArray} : sameBytes a b = true ↔ a = b := by
  rw [sameBytes, decide_eq_true_iff]
  constructor
  · intro h
    exact ByteArray.ext (Array.toList_inj.mp h)
  · intro h
    rw [h]

/-- A signature is the message. -/
def copying : Scheme where
  sign message := message
  verify message signature := sameBytes signature message
  encode := encodeBytes
  decode := decodeBytes

/-- Only the message of the sample can be signed. -/
def guarded : Scheme where
  sign message := message
  verify message signature :=
    (canonicalBytes samplePython (.obj sampleBody)).any (sameBytes message) &&
      sameBytes signature message
  encode := encodeBytes
  decode := decodeBytes

theorem sampleCall_body : sampleCall.body samplePython = .ok sampleBody := rfl

theorem sampleBody_bytes :
    ∃ message, canonicalBytes samplePython (.obj sampleBody) = some message := by
  have hencodable : Json.encodable (Json.ordered (.obj sampleBody)) = true := by decide
  rw [canonicalBytes, Json.dumpsRaw, if_pos hencodable]
  exact ⟨_, rfl⟩

theorem sample_admits :
    Admits samplePython 1000 1300 (.finite 1100) (.finite 30) (.finite 0) := by
  refine ⟨1100, 30, 0, rfl, rfl, rfl, ?_⟩
  simp only [samplePython, wholeFloats, above, below]
  norm_num

theorem samplePayload_distinct : Distinct sampleCall.payload := by
  simp [sampleCall, Distinct, Json.DistinctMembers]

/-- The evidence of the sample, in the file that the certifier has written. -/
def sampleFile (message : ByteArray) : List Char :=
  Json.dumpsPretty samplePython.floats.toFloatFormat (.obj (sampleBody ++
    [(Bus.Field.signature, .str (encodeBytes message))])) ++ ['\n']

theorem accepted_signed_sample : ∃ message document payload,
    Json.loads samplePython.floats.toFloatFormat (sampleFile message) = some document ∧
    verifyDocument samplePython guarded document (say "release-certifier") (.finite 1100)
      (.finite 30) (.finite 0) = .ok payload ∧
    ∃ call ∈ [sampleCall], call.producer = say "release-certifier" ∧
      Same call.payload (.obj payload) ∧
      ∃ issued expires, call.now = .finite issued ∧ 300 ≤ call.validSeconds ∧
        call.validSeconds ≤ 90 * 86400 ∧
        expiresAt samplePython issued call.validSeconds = .ok (.finite expires) ∧
        Admits samplePython issued expires (.finite 1100) (.finite 30) (.finite 0) := by
  have hlaw : samplePython.floats.toFloatFormat.Lawful := wholeFloats_exact.toLawful
  obtain ⟨message, hmessage⟩ := sampleBody_bytes
  have hverify : guarded.verify message (guarded.sign message) = true := by
    simp [guarded, hmessage, sameBytes_iff]
  obtain ⟨read, hloads, hcarried, hsignature⟩ := read_signed hlaw hverify
    (decodeBytes_encodeBytes _) hmessage samplePayload_distinct
  obtain ⟨w, hw, hsame⟩ := hcarried.payload
  obtain ⟨payload, rfl⟩ := hsame.exists_obj
  have haccepted := hcarried.accepted_iff.mpr ⟨rfl, ⟨1300, rfl, sample_admits⟩, hsignature, hw⟩
  have hsound : ∀ message signature, guarded.verify message signature = true →
      ∃ call ∈ [sampleCall], ∃ body, call.body samplePython = .ok body ∧
        canonicalBytes samplePython (.obj body) = some message := by
    intro message signature h
    simp only [guarded, Bool.and_eq_true, hmessage, Option.any_some, sameBytes_iff] at h
    obtain ⟨rfl, -⟩ := h
    exact ⟨sampleCall, List.mem_cons_self, sampleBody, sampleCall_body, hmessage⟩
  have hcalls : ∀ call ∈ [sampleCall], Distinct call.payload := by
    simp [samplePayload_distinct]
  exact ⟨message, .obj read, payload, hloads, haccepted,
    accepted_signed hlaw [sampleCall] hcalls hsound hloads haccepted⟩

theorem certified_accepted_sample : ∃ document read payload,
    signDocument samplePython copying sampleCall = .ok document ∧
    Json.loads samplePython.floats.toFloatFormat (Json.dumpsPretty
      samplePython.floats.toFloatFormat (.obj document) ++ ['\n']) = some read ∧
    verifyDocument samplePython copying read (say "release-certifier") (.finite 1100) (.finite 30)
      (.finite 0) = .ok payload ∧ Same sampleCall.payload (.obj payload) := by
  have hlaw : samplePython.floats.toFloatFormat.Lawful := wholeFloats_exact.toLawful
  obtain ⟨message, hmessage⟩ := sampleBody_bytes
  have hsigned : signDocument samplePython copying sampleCall =
      .ok (sampleBody ++ [(Bus.Field.signature, .str (encodeBytes message))]) := by
    rw [signDocument, sampleCall_body]
    simp only [bind, Except.bind, hmessage]
    rfl
  have hcorrect : ∀ message, copying.verify message (copying.sign message) = true := by
    simp [copying, sameBytes_iff]
  obtain ⟨read, hloads, haccepts⟩ :=
    certified_accepted hlaw hcorrect decodeBytes_encodeBytes samplePayload_distinct hsigned
  obtain ⟨payload, haccepted, hsame⟩ := (haccepts (say "release-certifier") (.finite 1100)
    (.finite 30) (.finite 0)).1 ⟨rfl, 1000, 1300, rfl, rfl, sample_admits⟩
  exact ⟨_, read, payload, hsigned, hloads, haccepted, hsame⟩

end sample

end SpotSidecar.Evidence.Signature
