import Mathlib.Tactic.Linarith
import Mathlib.Tactic.NormNum
import SpotSidecar.Bus.Envelope

/-! A signed envelope is verified from each of its texts while it is valid, and what is verified was
signed. -/
namespace SpotSidecar.Bus
open Json (Text Members Same Distinct Document)

variable {F : Type} {py : Python F}

theorem finite?_eq_some {d : Double F} {x : F} : d.finite? = some x ↔ d = .finite x := by
  cases d with
  | finite y => simp [Double.finite?]
  | nan => simp [Double.finite?]
  | infinity negative => simp [Double.finite?]

/-! What is in a signed envelope. -/
section Signing

theorem signEnvelope_ok {host : Host} {producer purpose : Text} {payload : Json F}
    {ttlSeconds : Option ℤ} {key : Option Key} {nonce : Option Text} {token : Text}
    {now : Double F} {signed : Members F}
    (h : signEnvelope py host producer purpose payload ttlSeconds key nonce token now =
      .ok signed) :
    ∃ bytes ttl created maximum expires nonce', resolveKey host purpose key = .ok bytes ∧
      installedReleaseHash host ≠ [] ∧ ttlSeconds = some ttl ∧ now = .finite created ∧
      maxTtlSeconds purpose = some maximum ∧ 1 ≤ ttl ∧ ttl ≤ maximum ∧
      addSeconds py created ttl = .ok expires ∧
      signed = bodyOf producer purpose nonce' (installedReleaseHash host) created expires payload ++
        [(Field.signature, .str (mac py bytes
          (bodyOf producer purpose nonce' (installedReleaseHash host) created expires
            payload)))] := by
  simp only [signEnvelope, except_bind_eq_ok, Checks.refuseIf_eq_ok, Checks.orRefuse_eq_ok,
    finite?_eq_some] at h
  obtain ⟨bytes, hkey, -, -, -, hrelease, ttl, httl, created, hnow, maximum, hmaximum, -, hrange,
    expires, hexpires, hsigned⟩ := h
  rw [not_or, not_lt, not_lt] at hrange
  exact ⟨bytes, ttl, created, maximum, expires, _, hkey, hrelease, httl, hnow, hmaximum, hrange.1,
    hrange.2, hexpires, (Except.ok.inj hsigned).symm⟩

variable (producer purpose nonce release : Text) (created : F) (expires : Double F)
  (payload : Json F)

theorem bodyOf_keys : ((bodyOf producer purpose nonce release created expires payload).map
    Prod.fst ++ [Field.signature]).Nodup := by
  show [Field.envelopeVersion, Field.producer, Field.purpose, Field.nonce, Field.createdAt,
    Field.expiresAt, Field.releaseHash, Field.payload, Field.signature].Nodup
  decide

theorem signed_keys (v : Json F) :
    ((bodyOf producer purpose nonce release created expires payload ++
    [(Field.signature, v)]).map Prod.fst).Nodup := by
  rw [List.map_append]
  exact bodyOf_keys producer purpose nonce release created expires payload

theorem unsigned_signed (v : Json F) :
    unsigned (bodyOf producer purpose nonce release created expires payload ++
      [(Field.signature, v)]) =
    bodyOf producer purpose nonce release created expires payload := by
  have hkeys := bodyOf_keys producer purpose nonce release created expires payload
  have hbody : (bodyOf producer purpose nonce release created expires payload).filter
      (fun m => m.1 ≠ Field.signature) =
      bodyOf producer purpose nonce release created expires payload := by
    rw [List.filter_eq_self]
    intro m hm
    rw [decide_eq_true_iff]
    exact (List.nodup_append.mp hkeys).2.2 _ (List.mem_map_of_mem hm) _ (List.mem_singleton_self _)
  rw [unsigned, List.filter_append, hbody]
  simp

theorem Same.mac {body body' : Members F} (h : Same (.obj body) (.obj body')) (key : ByteArray) :
    mac py key body = mac py key body' := by
  rw [Bus.mac, Bus.mac, canonicalBytes, canonicalBytes, Json.Same.dumps h]

end Signing

/-- What the verifier finds in an envelope that was signed. -/
structure Carried (py : Python F) (key : ByteArray) (producer purpose release : Text)
    (created expires : F) (payload envelope : Members F) : Prop where
  version : envelope.lookup Field.envelopeVersion = some (.int envelopeVersion)
  producer : envelope.lookup Field.producer = some (.str producer)
  purpose : envelope.lookup Field.purpose = some (.str purpose)
  createdAt : envelope.lookup Field.createdAt = some (.float (.finite created))
  expiresAt : envelope.lookup Field.expiresAt = some (.float (.finite expires))
  releaseHash : envelope.lookup Field.releaseHash = some (.str release)
  signature : envelope.lookup Field.signature = some (.str (mac py key (unsigned envelope)))
  payload : ∃ p, envelope.lookup Field.payload = some (.obj p) ∧ Same (.obj payload) (.obj p)

theorem carried {key : ByteArray} {producer purpose nonce release : Text} {created expires : F}
    {payload envelope : Members F}
    (h : Same
      (.obj (bodyOf producer purpose nonce release created (.finite expires) (.obj payload) ++
      [(Field.signature, .str (mac py key
        (bodyOf producer purpose nonce release created (.finite expires) (.obj payload))))]))
      (.obj envelope)) (hkeys : (envelope.map Prod.fst).Nodup) :
    Carried py key producer purpose release created expires payload envelope := by
  have hsigned := signed_keys producer purpose nonce release created (.finite expires)
    (.obj payload) (.str (mac py key
      (bodyOf producer purpose nonce release created (.finite expires) (.obj payload))))
  have hunsigned := Same.filter (fun k => k ≠ Field.signature) h hsigned
  have hrest := unsigned_signed producer purpose nonce release created (.finite expires)
    (.obj payload) (.str (mac py key
      (bodyOf producer purpose nonce release created (.finite expires) (.obj payload))))
  rw [unsigned] at hrest
  rw [hrest] at hunsigned
  generalize hbody : bodyOf producer purpose nonce release created (.finite expires)
    (.obj payload) =
    body at h hunsigned
  have hmem : ∀ m ∈ body, m ∈ body ++ [(Field.signature, .str (mac py key body))] := by
    intro m hm
    exact List.mem_append_left _ hm
  have hscalar : ∀ k v, (k, v) ∈ body → Json.isScalar v = true → envelope.lookup k = some v := by
    intro k v hkv hv
    exact h.lookup_scalar hkeys (hmem _ hkv) hv
  constructor
  · exact hscalar _ _ (by rw [← hbody]; simp [bodyOf]) rfl
  · exact hscalar _ _ (by rw [← hbody]; simp [bodyOf]) rfl
  · exact hscalar _ _ (by rw [← hbody]; simp [bodyOf]) rfl
  · exact hscalar _ _ (by rw [← hbody]; simp [bodyOf]) rfl
  · exact hscalar _ _ (by rw [← hbody]; simp [bodyOf]) rfl
  · exact hscalar _ _ (by rw [← hbody]; simp [bodyOf]) rfl
  · rw [unsigned, ← Same.mac hunsigned]
    exact h.lookup_scalar hkeys (List.mem_append_right _ (List.mem_singleton_self _)) rfl
  · have hpayload : (Field.payload, Json.obj payload) ∈ body := by
      rw [← hbody]
      simp [bodyOf]
    obtain ⟨w, hw, hsame⟩ := h.mem (hmem _ hpayload)
    obtain ⟨p, rfl⟩ := hsame.exists_obj
    exact ⟨p, Json.lookup_of_mem hkeys hw, hsame⟩

/-! The clock of the verifier. -/
section Times

theorem maxTtlSeconds_eq {purpose : Text} {maximum : ℤ} (h : maxTtlSeconds purpose = some maximum) :
    maximum = 3600 := by
  obtain ⟨before, after, hentries, -⟩ := List.lookup_eq_some_iff.mp h
  have hmem : (purpose, maximum) ∈ [(busSignal, (3600 : ℤ)), (busCommand, 3600)] := by
    rw [hentries]
    simp
  simp only [List.mem_cons, Prod.mk.injEq, List.not_mem_nil, or_false] at hmem
  omega

/-- The times that the messages are about are floats without rounding. -/
def ExactTimes (floats : Floats F) (now : Double F) (ttlSeconds : Option ℤ) (clock : Double F) :
    Prop :=
  (∀ created ttl, now = .finite created → ttlSeconds = some ttl →
    ∃ z, floats.value z = floats.value created + ttl) ∧
  ∀ x, clock = .finite x → ∃ z, floats.value z = floats.value x + 30

/-- `created_at - 30 <= now <= expires_at` -/
def InWindow (floats : Floats F) (now : Double F) (ttlSeconds : Option ℤ) (clock : Double F) :
    Prop :=
  ∃ created ttl x, now = .finite created ∧ ttlSeconds = some ttl ∧ clock = .finite x ∧
    floats.value created - 30 ≤ floats.value x ∧ floats.value x ≤ floats.value created + ttl

variable (hfloats : py.floats.Exact)
include hfloats

theorem addSeconds_exact {created : F} {ttl : ℤ} {expires : Double F} (hlow : 1 ≤ ttl)
    (hhigh : ttl ≤ 3600) (hexact : ∃ z, py.floats.value z = py.floats.value created + ttl)
    (h : addSeconds py created ttl = .ok expires) :
    ∃ w, expires = .finite w ∧ py.floats.value w = py.floats.value created + ttl := by
  obtain ⟨y, hy, hvalue⟩ := hfloats.ofInt ttl (by omega) hhigh
  obtain ⟨z, hz⟩ := hexact
  rw [← hvalue] at hz
  obtain ⟨w, hadd, hw⟩ := hfloats.add created y z hz
  rw [addSeconds, hy] at h
  refine ⟨w, ?_, ?_⟩
  · rw [← hadd]
    exact (Except.ok.inj h).symm
  · rw [hw, hz, hvalue]

theorem checkTimes_ok {envelope : Members F} {purpose : Text} {created expires skew : F}
    {clock : Double F} {ttl maximum : ℤ}
    (hcreated : envelope.lookup Field.createdAt = some (.float (.finite created)))
    (hexpires : envelope.lookup Field.expiresAt = some (.float (.finite expires)))
    (hmaximum : maxTtlSeconds purpose = some maximum) (hlow : 1 ≤ ttl) (hhigh : ttl ≤ maximum)
    (hvalue : py.floats.value expires = py.floats.value created + ttl)
    (hskew : py.floats.value skew = 30)
    (hclock : ∀ x, clock = .finite x → ∃ z, py.floats.value z = py.floats.value x + 30) :
    checkTimes py envelope purpose clock (.finite skew) = .ok () ↔
      ∃ x, clock = .finite x ∧ py.floats.value created - 30 ≤ py.floats.value x ∧
        py.floats.value x ≤ py.floats.value expires := by
  have hmax := maxTtlSeconds_eq hmaximum
  have hlowq : (1 : ℚ) ≤ ttl := by exact_mod_cast hlow
  have hhighq : (ttl : ℚ) ≤ maximum := by exact_mod_cast hhigh
  obtain ⟨y, -, hy⟩ := hfloats.ofInt ttl (by omega) (by omega)
  obtain ⟨d, hd, hdvalue⟩ := hfloats.sub expires created y (by rw [hy, hvalue]; linarith)
  have hexceeds : exceeds py (py.floats.sub expires created) maximum = false := by
    rw [hd, exceeds, hdvalue, hy]
    exact decide_eq_false (not_lt.mpr hhighq)
  have hfuture : ∀ x, clock = .finite x →
      (above py created (py.floats.add x skew) = true ↔
        py.floats.value x + 30 < py.floats.value created) := by
    intro x hx
    obtain ⟨z, hz⟩ := hclock x hx
    obtain ⟨w, hw, hwvalue⟩ := hfloats.add x skew z (by rw [hz, hskew])
    rw [hw, above, hwvalue, hz, decide_eq_true_iff]
  simp only [checkTimes, hcreated, hexpires, hmaximum, Option.bind_some, pyFloat,
    Checks.orRefuse_bind_eq_ok, Checks.refuseIf_bind_eq_ok, Checks.refuseIf_eq_ok,
    Option.some.injEq, finite?_eq_some, Option.all_some]
  constructor
  · rintro ⟨_, rfl, _, rfl, x, rfl, _, hc, _, he, _, hs, -, -, -, habove, hexpired⟩
    cases hc
    cases he
    cases hs
    rw [hfuture x rfl, not_lt] at habove
    rw [not_lt] at hexpired
    exact ⟨x, rfl, by linarith, hexpired⟩
  · rintro ⟨x, rfl, hstart, hend⟩
    refine ⟨_, rfl, _, rfl, x, rfl, created, rfl, expires, rfl, skew, rfl, ?_, ?_, ?_, ?_, ?_⟩
    · rw [hskew]
      norm_num
    · rw [hvalue]
      linarith
    · rw [hexceeds]
      exact Bool.false_ne_true
    · rw [hfuture x rfl]
      linarith
    · exact not_lt.mpr hend

end Times

/-! The other checks. -/
section Accepting
variable {key : ByteArray} {envelope payload : Members F}

theorem checkSignature_ok : checkSignature py key envelope = .ok () ↔
    equalsInt py ((envelope.lookup Field.envelopeVersion).getD .null) envelopeVersion = true ∧
      suppliedSignature py envelope ≠ [] ∧
      asciiText (suppliedSignature py envelope) = true ∧
      suppliedSignature py envelope = mac py key (unsigned envelope) := by
  simp only [checkSignature, Checks.refuseIf_bind_eq_ok, Bool.not_eq_false]
  apply and_congr_right
  intro _
  apply and_congr_right
  intro _
  by_cases hascii : (asciiText (suppliedSignature py envelope) &&
      asciiText (mac py key (unsigned envelope))) = false
  · rw [if_pos hascii]
    constructor
    · intro h
      cases h
    · rintro ⟨hsupplied, hmac⟩
      rw [← hmac, hsupplied] at hascii
      cases hascii
  · rw [if_neg hascii, Checks.refuseIf_eq_ok, not_not]
    rw [Bool.not_eq_false, Bool.and_eq_true] at hascii
    constructor
    · intro h
      exact ⟨hascii.1, h⟩
    · intro h
      exact h.2

theorem verifyEnvelope_ok {host : Host} {purpose : Text} {producers : List Text}
    {key : Option Key} {now skew : Double F} :
    verifyEnvelope py host (.obj envelope) purpose producers key now skew = .ok payload ↔
      ∃ bytes, resolveKey host purpose key = .ok bytes ∧
        checkSignature py bytes envelope = .ok () ∧
        checkSender py envelope purpose producers = .ok () ∧
        checkTimes py envelope purpose now skew = .ok () ∧
        checkRelease py host envelope = .ok () ∧
        envelope.lookup Field.payload = some (.obj payload) := by
  simp only [verifyEnvelope, except_bind_eq_ok]
  constructor
  · rintro ⟨bytes, hkey, _, hsignature, _, hsender, _, htimes, _, hrelease, hpayload⟩
    refine ⟨bytes, hkey, hsignature, hsender, htimes, hrelease, ?_⟩
    split at hpayload
    · rename_i hlookup
      rw [hlookup, Except.ok.inj hpayload]
    · cases hpayload
  · rintro ⟨bytes, hkey, hsignature, hsender, htimes, hrelease, hpayload⟩
    refine ⟨bytes, hkey, _, hsignature, _, hsender, _, htimes, _, hrelease, ?_⟩
    rw [hpayload]

variable {producer purpose release : Text} {created expires : F}
  (h : Carried py key producer purpose release created expires payload envelope)
include h

theorem Carried.signature_ok
    (hdigest : ∀ k m, py.hexdigest k m ≠ [] ∧ asciiText (py.hexdigest k m) = true) :
    checkSignature py key envelope = .ok () := by
  have hsupplied : suppliedSignature py envelope = mac py key (unsigned envelope) := by
    rw [suppliedSignature, h.signature]
    rfl
  rw [checkSignature_ok, hsupplied, h.version]
  refine ⟨?_, (hdigest _ _).1, (hdigest _ _).2, rfl⟩
  show decide (envelopeVersion = envelopeVersion) = true
  exact decide_eq_true rfl

theorem Carried.sender_ok {producers : List Text} (hproducer : producer ∈ producers) :
    checkSender py envelope purpose producers = .ok () := by
  simp only [checkSender, Checks.refuseIf_bind_eq_ok, Checks.refuseIf_eq_ok, textAt,
    h.producer, h.purpose]
  refine ⟨?_, ?_⟩
  · intro hne
    exact hne rfl
  · intro hnot
    exact hnot hproducer

theorem Carried.release_ok {host : Host} (hrelease : installedReleaseHash host = release)
    (hne : release ≠ []) : checkRelease py host envelope = .ok () := by
  simp only [checkRelease, Checks.refuseIf_eq_ok, h.releaseHash, hrelease]
  rintro (hempty | hempty | hother)
  · exact hne hempty
  · exact hne hempty
  · exact hother rfl

end Accepting

theorem lookup_payload_inj {envelope p q : Members F}
    (hp : envelope.lookup Field.payload = some (.obj p))
    (hq : envelope.lookup Field.payload = some (.obj q)) : p = q := by
  rw [hp] at hq
  exact Json.obj.inj (Option.some.inj hq)

theorem distinct_signed (producer purpose nonce release : Text) (created : F) (expires : Double F)
    {payload : Json F} (signature : Text) (h : Distinct payload) :
    Distinct (.obj (bodyOf producer purpose nonce release created expires payload ++
      [(Field.signature, .str signature)])) := by
  rw [Json.distinct_obj]
  constructor
  · exact signed_keys producer purpose nonce release created expires payload _
  · simp [bodyOf, h, Distinct]

theorem InWindow_iff {floats : Floats F} {created : F} {ttl : ℤ} {clock : Double F} :
    InWindow floats (.finite created) (some ttl) clock ↔ ∃ x, clock = .finite x ∧
      floats.value created - 30 ≤ floats.value x ∧ floats.value x ≤ floats.value created + ttl := by
  constructor
  · rintro ⟨_, _, x, hcreated, httl, hx, hstart, hend⟩
    cases hcreated
    cases httl
    exact ⟨x, hx, hstart, hend⟩
  · rintro ⟨x, hx, hstart, hend⟩
    exact ⟨created, ttl, x, rfl, rfl, hx, hstart, hend⟩

/-- A signed envelope, its members in any order, is accepted in its window only, and with the
payload that was signed. -/
theorem verifyEnvelope_signed (hfloats : py.floats.Exact)
    (hdigest : ∀ k m, py.hexdigest k m ≠ [] ∧ asciiText (py.hexdigest k m) = true)
    {host host' : Host} {producer purpose : Text} {payload signed envelope : Members F}
    {ttlSeconds : Option ℤ} {key key' : Option Key} {nonce : Option Text} {token : Text}
    {now clock : Double F} {skew : F} {producers : List Text}
    (hsigned : signEnvelope py host producer purpose (.obj payload) ttlSeconds key nonce token now =
      .ok signed)
    (hkey : resolveKey host' purpose key' = resolveKey host purpose key)
    (hrelease : installedReleaseHash host' = installedReleaseHash host)
    (hproducer : producer ∈ producers) (hexact : ExactTimes py.floats now ttlSeconds clock)
    (hskew : py.floats.value skew = 30) (hsame : Same (.obj signed) (.obj envelope))
    (hkeys : (envelope.map Prod.fst).Nodup) :
    ∃ p, Same (.obj p) (.obj payload) ∧ ∀ q,
      verifyEnvelope py host' (.obj envelope) purpose producers key' clock (.finite skew) = .ok q ↔
        q = p ∧ InWindow py.floats now ttlSeconds clock := by
  obtain ⟨bytes, ttl, created, maximum, expires, nonce, hbytes, hne, rfl, rfl,
    hmaximum, hlow, hhigh, hexpires, rfl⟩ := signEnvelope_ok hsigned
  have hmax := maxTtlSeconds_eq hmaximum
  obtain ⟨w, rfl, hw⟩ := addSeconds_exact hfloats hlow (by omega) (hexact.1 _ _ rfl rfl) hexpires
  have hcarried := carried hsame hkeys
  have htimes := checkTimes_ok hfloats hcarried.createdAt hcarried.expiresAt hmaximum hlow hhigh hw
    hskew hexact.2
  rw [hw] at htimes
  obtain ⟨p, hp, hpayload⟩ := hcarried.payload
  refine ⟨p, hpayload.symm, fun q => ?_⟩
  rw [verifyEnvelope_ok, InWindow_iff, ← htimes]
  constructor
  · rintro ⟨_, -, -, -, hchecked, -, hq⟩
    exact ⟨lookup_payload_inj hq hp, hchecked⟩
  · rintro ⟨rfl, hchecked⟩
    exact ⟨bytes, hkey.trans hbytes, hcarried.signature_ok hdigest, hcarried.sender_ok hproducer,
      hchecked, hcarried.release_ok hrelease hne, hp⟩

/-- The keyed hash tells the bodies apart that are not equal as JSON. -/
theorem mac_inj (hlaw : py.floats.toFloatFormat.Lawful)
    (hinj : ∀ k, Function.Injective (py.hexdigest k)) {key : ByteArray} {body body' : Members F}
    (hbody : Distinct (.obj body)) (hbody' : Distinct (.obj body'))
    (h : mac py key body = mac py key body') : Same (.obj body) (.obj body') := by
  have hbytes : canonicalBytes py (.obj body) = canonicalBytes py (.obj body') := hinj key h
  have hstring : String.ofList (Json.dumps py.floats.toFloatFormat (.obj body)) =
      String.ofList (Json.dumps py.floats.toFloatFormat (.obj body')) :=
    String.toByteArray_inj.mp hbytes
  exact Json.dumps_inj hlaw hbody hbody' (String.ofList_injective hstring)

theorem distinct_unsigned {envelope : Members F} (h : Distinct (.obj envelope)) :
    Distinct (.obj (unsigned envelope)) := by
  rw [Json.distinct_obj] at h ⊢
  constructor
  · exact h.1.sublist ((List.filter_sublist).map Prod.fst)
  · intro m hm
    exact h.2 m (List.mem_of_mem_filter hm)

/-- What `signEnvelope` signs is the rest of the envelope, and the signature is its keyed hash. -/
theorem signEnvelope_mac {host : Host} {producer purpose : Text} {payload : Json F}
    {ttlSeconds : Option ℤ} {key : Option Key} {nonce : Option Text} {token : Text}
    {now : Double F} {signed : Members F} {bytes : ByteArray} (hdistinct : Distinct payload)
    (hkey : resolveKey host purpose key = .ok bytes)
    (h : signEnvelope py host producer purpose payload ttlSeconds key nonce token now =
      .ok signed) :
    Distinct (.obj (unsigned signed)) ∧
    suppliedSignature py signed = mac py bytes (unsigned signed) := by
  obtain ⟨bytes', ttl, created, maximum, expires, nonce, hbytes, -, -, -, -, -, -, -, rfl⟩ :=
    signEnvelope_ok h
  rw [hkey] at hbytes
  cases hbytes
  have hsigned := distinct_signed producer purpose nonce (installedReleaseHash host) created expires
    (mac py bytes
      (bodyOf producer purpose nonce (installedReleaseHash host) created expires payload))
    hdistinct
  refine ⟨distinct_unsigned hsigned, ?_⟩
  rw [suppliedSignature, unsigned_signed,
    Json.lookup_of_mem (Json.distinct_obj.mp hsigned).1
      (List.mem_append_right _ (List.mem_singleton_self _))]
  rfl

theorem verifyEnvelope_obj {host : Host} {purpose : Text} {producers : List Text}
    {key : Option Key} {now skew : Double F} {envelope : Json F} {payload : Members F}
    (h : verifyEnvelope py host envelope purpose producers key now skew = .ok payload) :
    ∃ ms, envelope = .obj ms := by
  cases envelope with
  | obj ms => exact ⟨ms, rfl⟩
  | null | bool | int | float | str | arr =>
    rw [verifyEnvelope, except_bind_eq_ok] at h
    obtain ⟨_, -, hrefused⟩ := h
    cases hrefused

/-- The round trip of a signed envelope through any of its texts, and that an accepted envelope has
the body that its signature was made of. -/
theorem readVerifiedFile_signed (py : Python F) (hfloats : py.floats.Exact)
    (hdigest : ∀ k m, py.hexdigest k m ≠ [] ∧ asciiText (py.hexdigest k m) = true) :
    (∀ (host host' : Host) (producer purpose : Text) (payload signed : Members F)
        (ttlSeconds : Option ℤ) (key key' : Option Key) (nonce : Option Text) (token : Text)
        (now clock : Double F) (skew : F) (producers : List Text) (envelope : Json F)
        (text : List Char),
      Distinct (.obj payload) →
      signEnvelope py host producer purpose (.obj payload) ttlSeconds key nonce token now =
        .ok signed →
      resolveKey host' purpose key' = resolveKey host purpose key →
      installedReleaseHash host' = installedReleaseHash host →
      producer ∈ producers →
      ExactTimes py.floats now ttlSeconds clock →
      py.floats.value skew = 30 →
      Same (.obj signed) envelope →
      Document py.floats.toFloatFormat envelope text →
      (InWindow py.floats now ttlSeconds clock → ∃ p, Same (.obj p) (.obj payload) ∧
        readVerifiedFile py host' text purpose producers key' clock (.finite skew) = .ok p) ∧
      (¬ InWindow py.floats now ttlSeconds clock → ∃ e,
        readVerifiedFile py host' text purpose producers key' clock (.finite skew) = .error e)) ∧
    ((∀ k, Function.Injective (py.hexdigest k)) →
      ∀ (host : Host) (purpose : Text) (producers : List Text) (key : Option Key)
        (clock skew : Double F) (envelope : Json F) (payload : Members F),
      Distinct envelope →
      verifyEnvelope py host envelope purpose producers key clock skew = .ok payload →
      ∃ ms bytes, envelope = .obj ms ∧ resolveKey host purpose key = .ok bytes ∧
        suppliedSignature py ms = mac py bytes (unsigned ms) ∧
        (∀ body, Distinct (.obj body) → mac py bytes body = suppliedSignature py ms →
          Same (.obj (unsigned ms)) (.obj body)) ∧
        ∀ host' producer' purpose' payload' ttlSeconds' key' nonce' token' now' signed,
          Distinct payload' → resolveKey host' purpose' key' = .ok bytes →
          signEnvelope py host' producer' purpose' payload' ttlSeconds' key' nonce' token' now' =
            .ok signed →
          suppliedSignature py signed = suppliedSignature py ms →
          Same (.obj (unsigned ms)) (.obj (unsigned signed))) := by
  constructor
  · intro host host' producer purpose payload signed ttlSeconds key key' nonce token now clock skew
      producers envelope text hdistinct hsigned hkey hrelease hproducer hexact hskew hsame htext
    obtain ⟨envelope, rfl⟩ := hsame.exists_obj
    have hobj : Distinct (.obj signed) := by
      obtain ⟨bytes, ttl, created, maximum, expires, nonce, -, -, -, -, -, -, -, -, rfl⟩ :=
        signEnvelope_ok hsigned
      exact distinct_signed _ _ _ _ _ _ _ hdistinct
    have hread := hsame.distinct hobj
    obtain ⟨p, hp, hverify⟩ := verifyEnvelope_signed hfloats hdigest hsigned hkey hrelease hproducer
      hexact hskew hsame (Json.distinct_obj.mp hread).1
    have hloads := Json.loads_document hfloats.toLawful hread htext
    have hfile : readVerifiedFile py host' text purpose producers key' clock (.finite skew) =
        verifyEnvelope py host' (.obj envelope) purpose producers key' clock (.finite skew) := by
      rw [readVerifiedFile, hloads]
    rw [hfile]
    constructor
    · intro hwindow
      exact ⟨p, hp, (hverify p).mpr ⟨rfl, hwindow⟩⟩
    · intro hwindow
      cases hresult : verifyEnvelope py host' (.obj envelope) purpose producers key' clock
          (.finite skew) with
      | error e => exact ⟨e, rfl⟩
      | ok q => exact absurd ((hverify q).mp hresult).2 hwindow
  · intro hinj host purpose producers key clock skew envelope payload hdistinct haccepted
    obtain ⟨ms, rfl⟩ := verifyEnvelope_obj haccepted
    obtain ⟨bytes, hkey, hchecked, -, -, -, -⟩ := verifyEnvelope_ok.mp haccepted
    obtain ⟨-, -, -, hmac⟩ := checkSignature_ok.mp hchecked
    have hunique : ∀ body, Distinct (.obj body) → mac py bytes body = suppliedSignature py ms →
        Same (.obj (unsigned ms)) (.obj body) := by
      intro body hbody hsame
      exact mac_inj hfloats.toLawful hinj (distinct_unsigned hdistinct) hbody
        (hmac.symm.trans hsame.symm)
    refine ⟨ms, bytes, rfl, hkey, hmac, hunique, ?_⟩
    intro host' producer' purpose' payload' ttlSeconds' key' nonce' token' now' signed
      hpayload hkey'
      hsigned hsignature
    obtain ⟨hbody, hsigned_mac⟩ := signEnvelope_mac hpayload hkey' hsigned
    exact hunique _ hbody (hsigned_mac.symm.trans hsignature)

/-! The floats that are whole numbers, and a keyed hash that writes out key and message. -/
section Sample

def wholeFloats : Floats ℤ where
  token n := Json.intToken n ++ ['.', '0']
  read cs := .finite (Json.intOf cs.dropLast.dropLast)
  value n := n
  ofInt := some
  ofText _ := none
  add x y := .finite (x + y)
  sub x y := .finite (x - y)

theorem wholeFloats_exact : wholeFloats.Exact := by
  constructor
  · constructor
    · intro n c hc
      rcases List.mem_append.mp hc with htoken | hrest
      · exact Json.numberChar_intToken htoken
      · have hall : (['.', '0'].all Json.numberChar) = true := by decide
        exact List.all_eq_true.mp hall c hrest
    · intro n
      have hinteger : Json.integer (wholeFloats.token n) = some ['.', '0'] := by
        apply Json.integer_append
        intro c hc
        cases hc
        decide
      rw [Json.isFloat, Json.isInteger, hinteger]
      decide
    · intro n
      show Double.finite (Json.intOf (Json.intToken n ++ ['.', '0']).dropLast.dropLast) = .finite n
      have hdrop : (Json.intToken n ++ ['.', '0']).dropLast.dropLast = Json.intToken n := by simp
      rw [hdrop, Json.intOf_intToken]
  · intro n _ _
    exact ⟨n, rfl, rfl⟩
  · intro x y z hz
    refine ⟨x + y, rfl, ?_⟩
    rw [hz]
    exact Int.cast_add x y
  · intro x y z hz
    refine ⟨x - y, rfl, ?_⟩
    rw [hz]
    exact Int.cast_sub x y

def hexUnit (d : ℕ) : Json.CodeUnit := .ofNat (Hex.lower d).toNat

def hexBytes (bytes : List UInt8) : Text :=
  bytes.flatMap fun b => [hexUnit (b.toNat / 16), hexUnit (b.toNat % 16)]

theorem hexUnit_inj {a b : ℕ} (ha : a < 16) (hb : b < 16) (h : hexUnit a = hexUnit b) : a = b := by
  have hall : ∀ a < 16, ∀ b < 16, hexUnit a = hexUnit b → a = b := by decide
  exact hall a ha b hb h

theorem hexUnit_ascii {a : ℕ} (ha : a < 16) : (hexUnit a).val < 128 := by
  have hall : ∀ a < 16, (hexUnit a).val < 128 := by decide
  exact hall a ha

theorem hexBytes_inj {xs ys : List UInt8} (h : hexBytes xs = hexBytes ys) : xs = ys := by
  induction xs generalizing ys with
  | nil =>
    cases ys with
    | nil => rfl
    | cons y ys => cases h
  | cons x xs ih =>
    cases ys with
    | nil => cases h
    | cons y ys =>
      obtain ⟨hhigh, hrest⟩ := List.cons.inj h
      obtain ⟨hlow, htail⟩ := List.cons.inj hrest
      have hx := x.toNat_lt
      have hy := y.toNat_lt
      have hdiv : x.toNat / 16 = y.toNat / 16 := hexUnit_inj (by omega) (by omega) hhigh
      have hmod : x.toNat % 16 = y.toNat % 16 := hexUnit_inj (by omega) (by omega) hlow
      have hnat : x.toNat = y.toNat := by omega
      rw [UInt8.toNat_inj.mp hnat, ih htail]

theorem hexBytes_ascii (bytes : List UInt8) : asciiText (hexBytes bytes) = true := by
  rw [asciiText, List.all_eq_true]
  intro u hu
  rw [hexBytes, List.mem_flatMap] at hu
  obtain ⟨b, -, hb⟩ := hu
  have hlt := b.toNat_lt
  apply decide_eq_true
  simp only [List.mem_cons, List.not_mem_nil, or_false] at hb
  rcases hb with rfl | rfl
  · exact hexUnit_ascii (by omega)
  · exact hexUnit_ascii (by omega)

/-- A Python whose keyed hash writes out the message, after a zero. -/
def samplePython : Python ℤ where
  floats := wholeFloats
  shown _ := say "None"
  repr _ := say "None"
  decodeError _ := []
  hexdigest _ message := hexUnit 0 :: hexBytes message.data.toList

theorem samplePython_digest (key message : ByteArray) :
    samplePython.hexdigest key message ≠ [] ∧
      asciiText (samplePython.hexdigest key message) = true := by
  constructor
  · intro h
    cases h
  · show (decide ((hexUnit 0).val < 128) && asciiText (hexBytes message.data.toList)) = true
    rw [hexBytes_ascii, decide_eq_true (hexUnit_ascii (by omega))]
    rfl

theorem samplePython_injective (key : ByteArray) :
    Function.Injective (samplePython.hexdigest key) := by
  intro m n h
  have hlist : m.data.toList = n.data.toList := hexBytes_inj (List.cons.inj h).2
  exact ByteArray.ext (Array.toList_inj.mp hlist)

def sampleHost : Host where
  getenv name := if name = "ENVELOPE_RELEASE_HASH" then some " r1 " else none
  releaseFile := none

def sampleKey : Option Key := some (.str "0123456789abcdef0123456789abcdef")

def samplePayload : Members ℤ :=
  [(say "command", .str (say "status")), (say "args", .obj [(say "n", .float (.finite 2))])]

def sampleBody : Members ℤ :=
  bodyOf (say "telegram-broker") busCommand (say "n1") (say "r1") 1000 (.finite 1150)
    (.obj samplePayload)

def sampleEnvelope : Members ℤ :=
  sampleBody ++ [(Field.signature, .str (mac samplePython
    ("0123456789abcdef0123456789abcdef").toUTF8 sampleBody))]

theorem sampleEnvelope_signed : signEnvelope samplePython sampleHost (say "telegram-broker")
    busCommand (.obj samplePayload) (some 150) sampleKey none (say "n1") (.finite 1000) =
      .ok sampleEnvelope := by
  rfl

theorem samplePayload_distinct : Distinct (.obj samplePayload) := by
  have hkeys : (samplePayload.map Prod.fst).Nodup := by decide
  exact ⟨hkeys, trivial, ⟨List.nodup_singleton _, trivial, trivial⟩, trivial⟩

theorem sampleEnvelope_distinct : Distinct (.obj sampleEnvelope) :=
  distinct_signed _ _ _ _ _ _ _ samplePayload_distinct

theorem sampleTimes_exact (clock : Double ℤ) :
    ExactTimes wholeFloats (.finite 1000) (some 150) clock := by
  constructor
  · intro created ttl _ _
    exact ⟨created + ttl, Int.cast_add created ttl⟩
  · intro x _
    exact ⟨x + 30, Int.cast_add x 30⟩

theorem sampleEnvelope_window : InWindow wholeFloats (.finite 1000) (some 150) (.finite 1100) := by
  refine ⟨1000, 150, 1100, rfl, rfl, rfl, ?_, ?_⟩
  · show ((1000 : ℤ) : ℚ) - 30 ≤ ((1100 : ℤ) : ℚ)
    norm_num
  · show ((1100 : ℤ) : ℚ) ≤ ((1000 : ℤ) : ℚ) + ((150 : ℤ) : ℚ)
    norm_num

theorem sampleSkew : wholeFloats.value 30 = 30 := by
  show ((30 : ℤ) : ℚ) = 30
  norm_num

theorem readVerifiedFile_signed_sample :
    (∃ p, Same (.obj p) (.obj samplePayload) ∧
      readVerifiedFile samplePython sampleHost
        (Json.render wholeFloats.toFloatFormat (.obj sampleEnvelope)) busCommand
        [say "telegram-broker", say "deploy-installer"] sampleKey (.finite 1100) (.finite 30) =
          .ok p) ∧
    Same (.obj (unsigned sampleEnvelope)) (.obj sampleBody) := by
  have hproducer : say "telegram-broker" ∈ [say "telegram-broker", say "deploy-installer"] :=
    List.mem_cons_self
  obtain ⟨hround, hauthentic⟩ :=
    readVerifiedFile_signed samplePython wholeFloats_exact samplePython_digest
  constructor
  · have hboth := hround sampleHost sampleHost (say "telegram-broker") busCommand samplePayload
      sampleEnvelope (some 150) sampleKey sampleKey none (say "n1") (.finite 1000) (.finite 1100) 30
      _ (.obj sampleEnvelope) _ samplePayload_distinct sampleEnvelope_signed rfl rfl hproducer
      (sampleTimes_exact _) sampleSkew (Same.refl _) (Json.document_render _)
    exact hboth.1 sampleEnvelope_window
  · obtain ⟨p, -, hverify⟩ := verifyEnvelope_signed wholeFloats_exact samplePython_digest
      sampleEnvelope_signed rfl rfl hproducer (sampleTimes_exact _) sampleSkew (Same.refl _)
      (Json.distinct_obj.mp sampleEnvelope_distinct).1
    have haccepted := (hverify p).mpr ⟨rfl, sampleEnvelope_window⟩
    obtain ⟨ms, bytes, hms, hkey, -, hunique, -⟩ :=
      hauthentic samplePython_injective _ _ _ _ _ _ _ _
      sampleEnvelope_distinct haccepted
    cases hms
    cases hkey
    exact hunique sampleBody (distinct_unsigned sampleEnvelope_distinct) rfl

end Sample

end SpotSidecar.Bus
