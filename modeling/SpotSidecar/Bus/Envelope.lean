import Mathlib.Data.List.DropRight
import Mathlib.Algebra.Order.Ring.Rat
import SpotSidecar.Collections.Checks
import SpotSidecar.Json.RoundTrip

/-! The signed envelopes of the signal bus and the command bus. -/
namespace SpotSidecar.Bus
open Json (Text Members FloatFormat)

/-- The floats of Python: how they are written and read, and their arithmetic. -/
structure Floats (F : Type) extends FloatFormat F where
  value : F → ℚ
  /-- `float` of an integer; none is an overflow error. -/
  ofInt : ℤ → Option F
  /-- `float` of a string; none is a value error. -/
  ofText : Text → Option (Double F)
  add : F → F → Double F
  sub : F → F → Double F

/-- Small integers are floats, and a result that a float can hold is exact. -/
structure Floats.Exact {F : Type} (floats : Floats F) :
    Prop extends floats.toFloatFormat.Lawful where
  ofInt : ∀ n : ℤ, 0 ≤ n → n ≤ 3600 → ∃ x, floats.ofInt n = some x ∧ floats.value x = n
  add : ∀ x y z, floats.value z = floats.value x + floats.value y →
    ∃ w, floats.add x y = .finite w ∧ floats.value w = floats.value z
  sub : ∀ x y z, floats.value z = floats.value x - floats.value y →
    ∃ w, floats.sub x y = .finite w ∧ floats.value w = floats.value z

/-- What the module takes from Python. -/
structure Python (F : Type) where
  floats : Floats F
  /-- `str` of a value that is no string -/
  shown : Json F → Text
  repr : Json F → Text
  /-- the text of the error of `json.loads` -/
  decodeError : List Char → Text
  /-- `hmac.new(key, message, hashlib.sha256).hexdigest()` -/
  hexdigest : ByteArray → ByteArray → Text

/-- What the module reads of the container it runs in. -/
structure Host where
  getenv : String → Option String
  /-- The text of `RELEASE_SHA256.txt`; none when it cannot be read. -/
  releaseFile : Option String

inductive Raised
  | envelopeError (text : Text)
  | typeError (text : Text)
  | overflowError (text : Text)

abbrev Result (α : Type) := Except Raised α

def refuse {α : Type} (text : Text) : Result α := .error (.envelopeError text)

abbrev refuseIf (c : Prop) [Decidable c] (text : Text) : Result Unit :=
  Checks.refuseIf c (.envelopeError text)

abbrev orRefuse {α : Type} (a : Option α) (text : Text) : Result α :=
  Checks.orRefuse a (.envelopeError text)

def say (text : String) : Text := Text.ofString text

def asciiText (s : Text) : Bool := s.all fun u => u.val < 128

def envelopeVersion : ℤ := 1

def minKeyLength : ℕ := 32

def busSignal : Text := say "signal"

def busCommand : Text := say "command"

def maxTtlSeconds (purpose : Text) : Option ℤ :=
  [(busSignal, 3600), (busCommand, 3600)].lookup purpose

def keyEnv (purpose : Text) : Option String :=
  [(busSignal, "SIGNAL_HMAC_KEY"), (busCommand, "COMMAND_HMAC_KEY")].lookup purpose

/-- A character that `str.strip` and `str.split` take for space. -/
def isPySpace (c : Char) : Bool :=
  let n := c.toNat
  (9 ≤ n && n ≤ 13) || (28 ≤ n && n ≤ 32) || n = 0x85 || n = 0xA0 || n = 0x1680 ||
    (0x2000 ≤ n && n ≤ 0x200A) || n = 0x2028 || n = 0x2029 || n = 0x202F || n = 0x205F || n = 0x3000

def strip (s : String) : List Char := (s.toList.dropWhile isPySpace).rdropWhile isPySpace

/-- `s.split()[0]`, and nothing where there is no word. -/
def firstWord (s : String) : List Char :=
  (s.toList.dropWhile isPySpace).takeWhile fun c => !isPySpace c

/-- `installed_release_hash` -/
def installedReleaseHash (host : Host) : Text :=
  let explicit := strip ((host.getenv "ENVELOPE_RELEASE_HASH").getD "")
  if explicit ≠ [] then Text.ofChars explicit
  else match host.releaseFile with
    | some content => Text.ofChars (firstWord content)
    | none => []

/-- `load_key` -/
def loadKey (host : Host) (purpose : Text) : Result ByteArray :=
  match keyEnv purpose with
  | none => refuse (say "unknown envelope purpose: " ++ purpose)
  | some envName =>
    let key := strip ((host.getenv envName).getD "")
    if key = [] then
      refuse (say (envName ++ " is required and empty — bus is fail-closed"))
    else if key.length < minKeyLength then
      refuse (say s!"{envName} must be at least {minKeyLength} characters")
    else .ok (String.ofList key).toUTF8

/-- The `key` argument of `sign_envelope` and `verify_envelope`. -/
inductive Key
  | bytes (key : ByteArray)
  | str (key : String)

def resolveKey (host : Host) (purpose : Text) : Option Key → Result ByteArray
  | none => loadKey host purpose
  | some (.bytes key) => .ok key
  | some (.str key) => .ok key.toUTF8

namespace Field

def envelopeVersion : Text := say "envelope_version"
def producer : Text := say "producer"
def purpose : Text := say "purpose"
def nonce : Text := say "nonce"
def createdAt : Text := say "created_at"
def expiresAt : Text := say "expires_at"
def releaseHash : Text := say "release_hash"
def payload : Text := say "payload"
def signature : Text := say "signature"

end Field

variable {F : Type} (py : Python F)

/-- `canonical_bytes` -/
def canonicalBytes (v : Json F) : ByteArray :=
  (String.ofList (Json.dumps py.floats.toFloatFormat v)).toUTF8

/-- The signature of a body. -/
def mac (key : ByteArray) (body : Members F) : Text :=
  py.hexdigest key (canonicalBytes py (.obj body))

/-- `created + ttl` -/
def addSeconds (x : F) (n : ℤ) : Result (Double F) :=
  match py.floats.ofInt n with
  | none => .error (.overflowError (say "int too large to convert to float"))
  | some y => .ok (py.floats.add x y)

def bodyOf (producer purpose nonce release : Text) (created : F) (expires : Double F)
    (payload : Json F) : Members F :=
  [(Field.envelopeVersion, .int envelopeVersion), (Field.producer, .str producer),
    (Field.purpose, .str purpose), (Field.nonce, .str nonce),
    (Field.createdAt, .float (.finite created)), (Field.expiresAt, .float expires),
    (Field.releaseHash, .str release), (Field.payload, payload)]

/-- `sign_envelope`. `ttlSeconds` is what `int` makes of the argument, none where it raises, and
`now` the float of the clock; `token` is what `secrets.token_hex` gives. -/
def signEnvelope (host : Host) (producer purpose : Text) (payload : Json F)
    (ttlSeconds : Option ℤ) (key : Option Key) (nonce : Option Text) (token : Text)
    (now : Double F) : Result (Members F) := do
  let key ← resolveKey host purpose key
  refuseIf (key.size = 0) (say "signing key is empty")
  let release := installedReleaseHash host
  refuseIf (release = [])
    (say "installed release hash unavailable; refusing to sign an unbound envelope")
  let ttl ← orRefuse ttlSeconds (say "envelope TTL must be an integer")
  let created ← orRefuse now.finite? (say "envelope created_at must be finite")
  let maximum ← orRefuse (maxTtlSeconds purpose) (say "unknown envelope purpose: " ++ purpose)
  refuseIf (ttl < 1 ∨ maximum < ttl) (say s!"envelope TTL must be between 1 and {maximum} seconds")
  let expires ← addSeconds py created ttl
  let nonce := if nonce.getD [] ≠ [] then nonce.getD [] else token
  let body := bodyOf producer purpose nonce release created expires payload
  .ok (body ++ [(Field.signature, .str (mac py key body))])

/-- `str` -/
def pyStr : Json F → Text
  | .str s => s
  | v => py.shown v

/-- `str(envelope.get(k))` -/
def textAt (envelope : Members F) (k : Text) : Text := pyStr py ((envelope.lookup k).getD .null)

/-- `v == n` -/
def equalsInt (v : Json F) (n : ℤ) : Bool :=
  match v with
  | .int m => m = n
  | .bool b => (if b then 1 else 0) = n
  | .float (.finite x) => py.floats.value x = n
  | _ => false

/-- `float(v)`; none where it raises. -/
def pyFloat : Json F → Option (Double F)
  | .bool b => (py.floats.ofInt (if b then 1 else 0)).map .finite
  | .int n => (py.floats.ofInt n).map .finite
  | .float x => some x
  | .str s => py.floats.ofText s
  | .null | .arr _ | .obj _ => none

/-- `d > n` -/
def exceeds (d : Double F) (n : ℤ) : Bool :=
  match d with
  | .finite x => n < py.floats.value x
  | .nan => false
  | .infinity negative => !negative

/-- `x > d` -/
def above (x : F) : Double F → Bool
  | .finite y => py.floats.value y < py.floats.value x
  | .nan => false
  | .infinity negative => negative

def unsigned (envelope : Members F) : Members F := envelope.filter fun m => m.1 ≠ Field.signature

/-- `str(envelope.get('signature', ''))` -/
def suppliedSignature (envelope : Members F) : Text :=
  pyStr py ((envelope.lookup Field.signature).getD (.str []))

/-- The version and the signature. -/
def checkSignature (key : ByteArray) (envelope : Members F) : Result Unit := do
  refuseIf
    (equalsInt py ((envelope.lookup Field.envelopeVersion).getD .null) envelopeVersion = false)
    (say "unsupported envelope version")
  let supplied := suppliedSignature py envelope
  refuseIf (supplied = []) (say "missing signature")
  let expected := mac py key (unsigned envelope)
  if (asciiText supplied && asciiText expected) = false then
    .error (.typeError (say "comparing strings with non-ASCII characters is not supported"))
  else refuseIf (supplied ≠ expected) (say "signature verification failed")

/-- The purpose and the producer. -/
def checkSender (envelope : Members F) (purpose : Text) (expectedProducers : List Text) :
    Result Unit := do
  refuseIf (textAt py envelope Field.purpose ≠ purpose)
    (say "purpose mismatch: " ++ py.repr ((envelope.lookup Field.purpose).getD .null) ++
      say " != " ++ py.repr (.str purpose))
  refuseIf (textAt py envelope Field.producer ∉ expectedProducers)
    (say "unexpected producer: " ++ py.repr ((envelope.lookup Field.producer).getD .null))

/-- The two timestamps, against each other and against the clock. -/
def checkTimes (envelope : Members F) (purpose : Text) (now maxFutureSkew : Double F) :
    Result Unit := do
  let malformed := say "malformed envelope timestamps"
  let createdAt ← orRefuse ((envelope.lookup Field.createdAt).bind (pyFloat py)) malformed
  let expiresAt ← orRefuse ((envelope.lookup Field.expiresAt).bind (pyFloat py)) malformed
  let notFinite := say "envelope timestamps and skew must be finite"
  let current ← orRefuse now.finite? notFinite
  let createdAt ← orRefuse createdAt.finite? notFinite
  let expiresAt ← orRefuse expiresAt.finite? notFinite
  let skew ← orRefuse maxFutureSkew.finite? notFinite
  refuseIf (py.floats.value skew < 0) (say "max_future_skew must not be negative")
  refuseIf (py.floats.value expiresAt ≤ py.floats.value createdAt)
    (say "envelope expires_at must be after created_at")
  refuseIf ((maxTtlSeconds purpose).all (exceeds py (py.floats.sub expiresAt createdAt)))
    (say "envelope validity window exceeds the allowed maximum")
  refuseIf (above py createdAt (py.floats.add current skew))
    (say "envelope created_at is in the future")
  refuseIf (py.floats.value expiresAt < py.floats.value current) (say "envelope expired")

def checkRelease (host : Host) (envelope : Members F) : Result Unit :=
  let release := installedReleaseHash host
  let envelopeRelease := pyStr py ((envelope.lookup Field.releaseHash).getD (.str []))
  refuseIf (release = [] ∨ envelopeRelease = [] ∨ envelopeRelease ≠ release)
    (say "release hash binding failed (cross-release replay rejected)")

/-- `verify_envelope` -/
def verifyEnvelope (host : Host) (envelope : Json F) (purpose : Text)
    (expectedProducers : List Text) (key : Option Key) (now maxFutureSkew : Double F) :
    Result (Members F) := do
  let key ← resolveKey host purpose key
  match envelope with
  | .obj envelope =>
    checkSignature py key envelope
    checkSender py envelope purpose expectedProducers
    checkTimes py envelope purpose now maxFutureSkew
    checkRelease py host envelope
    match envelope.lookup Field.payload with
    | some (.obj payload) => .ok payload
    | _ => refuse (say "payload must be a JSON object")
  | _ => refuse (say "envelope must be a JSON object")

/-- `read_verified_file` of a file with the text `raw`; `now` is the clock, and `maxFutureSkew` the
default of `verify_envelope`. -/
def readVerifiedFile (host : Host) (raw : List Char) (purpose : Text)
    (expectedProducers : List Text) (key : Option Key) (now maxFutureSkew : Double F) :
    Result (Members F) :=
  match Json.loads py.floats.toFloatFormat raw with
  | none => refuse (say "envelope file is not valid JSON: " ++ py.decodeError raw)
  | some envelope => verifyEnvelope py host envelope purpose expectedProducers key now maxFutureSkew

end SpotSidecar.Bus
