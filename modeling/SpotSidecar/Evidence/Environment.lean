import SpotSidecar.Rounding.Significant
import SpotSidecar.Adapter.Queries

/-! The environment and its readers. A text is what it denotes: the readers of numbers agree on the
value of every text that they accept, and a zero has no sign. -/
namespace SpotSidecar.Evidence
open Rounding

/-- A variable of the environment. -/
inductive Setting where
  | absent
  /-- nothing but blanks -/
  | blank
  | int (n : ℤ)
  /-- a number that is not written as an integer -/
  | num (q : ℚ)
  /-- a text for NaN or an infinity -/
  | nonFinite
  /-- a text that is the name of the mode without its blanks and in upper case -/
  | mode (m : ProtectionMode) (padded : Bool)
  /-- a text that is `true` or `false` without its blanks and in lower case -/
  | flag (b : Bool) (padded : Bool)
  | other
  deriving DecidableEq, Repr

def Setting.number : Setting → Option ℚ
  | .int n => some n
  | .num q => some q
  | _ => none

abbrev Environment := String → Setting

/-- The precision of the default context of decimals -/
def context : Format := decimal 27 (-1000026)

/-- `Decimal(str(value))` of a float -/
def decimalOf (value : ℚ) : ℚ :=
  double.shortest ((List.range 17).map fun n => decimal n (-400)) value

namespace Environment
variable (env : Environment)

/-- `int(os.getenv(name, default))` -/
def integer (name : String) (default : ℤ) : Except Exc ℤ :=
  match env name with
  | .absent => .ok default
  | .int n => .ok n
  | _ => .error (.of .value "invalid literal for int()")

/-- `_number_text`: the number that the text of the policy is for -/
def numberText (name : String) (default : ℚ) : Except Exc ℚ :=
  match env name with
  | .absent => .ok (context.round default)
  | s =>
    match s.number with
    | some q => .ok (context.round q)
    | none => .error (.of .runtime (name ++ " is not a finite decimal"))

/-- `_boolean` -/
def boolean (name : String) (default : Bool) : Except Exc Bool :=
  match env name with
  | .absent => .ok default
  | .flag b _ => .ok b
  | _ => .error (.of .runtime (name ++ " must be true or false"))

/-- The text that `env_int` reads, or its default -/
def intText (name : String) (default : ℤ) : Except Exc ℤ :=
  match env name with
  | .absent | .blank => .ok default
  | .int n => .ok n
  | _ => .error (.of .value (name ++ " must be an integer"))

/-- `env_int` -/
def envInt (name : String) (default minimum maximum : ℤ) : Except Exc ℤ := do
  let value ← env.intText name default
  if minimum ≤ value ∧ value ≤ maximum then return value
  else .error (.of .value (name ++ " outside safe bounds"))

/-- The text that `env_float` reads, or its default -/
def floatText (name : String) (default : ℚ) : Except Exc ℚ :=
  match env name with
  | .absent | .blank => .ok (double.round default)
  | .nonFinite => .error (.of .value (name ++ " must be finite"))
  | s =>
    match s.number with
    | some q => .ok (double.round q)
    | none => .error (.of .value (name ++ " must be a number"))

/-- `env_float` -/
def envFloat (name : String) (default minimum maximum : ℚ) : Except Exc ℚ := do
  let value ← env.floatText name default
  if 2 ^ 1024 ≤ |value| then .error (.of .value (name ++ " must be finite"))
  else if double.round minimum ≤ value ∧ value ≤ double.round maximum then return value
  else .error (.of .value (name ++ " outside safe bounds"))

/-- `Decimal(str(env_float(...)))` -/
def envDecimal (name : String) (default minimum maximum : ℚ) : Except Exc ℚ :=
  (env.envFloat name default minimum maximum).map decimalOf

end Environment
end SpotSidecar.Evidence
