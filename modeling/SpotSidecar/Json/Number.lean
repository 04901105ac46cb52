import Mathlib.Data.List.TakeWhile
import SpotSidecar.Json.Value

/-! The numbers of JSON: their grammar, and the tokens of integers and floats. -/
namespace Json
variable {F : Type}

def numberChar (c : Char) : Bool :=
  c.isDigit || c = '-' || c = '+' || c = '.' || c = 'e' || c = 'E'

/-! Each reads one part of a number and leaves the rest of the text. -/

/-- `[0-9]+` -/
def digits : List Char → Option (List Char)
  | [] => none
  | c :: cs => if c.isDigit then some (cs.dropWhile Char.isDigit) else none

/-- `0|[1-9][0-9]*` -/
def natural : List Char → Option (List Char)
  | [] => none
  | c :: cs => if c = '0' then some cs else digits (c :: cs)

/-- `-?(0|[1-9][0-9]*)` -/
def integer : List Char → Option (List Char)
  | [] => none
  | c :: cs => if c = '-' then natural cs else natural (c :: cs)

/-- `(\.[0-9]+)?` -/
def fraction : List Char → Option (List Char)
  | [] => some []
  | c :: cs => if c = '.' then digits cs else some (c :: cs)

/-- `([eE][-+]?[0-9]+)?` -/
def exponent : List Char → Option (List Char)
  | [] => some []
  | c :: cs =>
    if c = 'e' || c = 'E' then
      match cs with
      | [] => none
      | s :: ds => if s = '-' || s = '+' then digits ds else digits (s :: ds)
    else some (c :: cs)

def isInteger (token : List Char) : Bool := integer token == some []

/-- A number with a fraction or an exponent. -/
def isFloat (token : List Char) : Bool :=
  !isInteger token && ((integer token).bind fraction).bind exponent == some []

def intToken : ℤ → List Char
  | .ofNat n => Nat.toDigits 10 n
  | .negSucc n => '-' :: Nat.toDigits 10 (n + 1)

def intOf : List Char → ℤ
  | [] => 0
  | c :: cs =>
    if c = '-' then -(Nat.ofDigitChars 10 cs 0 : ℤ) else (Nat.ofDigitChars 10 (c :: cs) 0 : ℤ)

/-- How finite floats are written and read. -/
structure FloatFormat (F : Type) where
  /-- `float.__repr__` -/
  token : F → List Char
  /-- `float` of a token that has a fraction or an exponent -/
  read : List Char → Double F

/-- What is written is a float of the grammar, and read as the same float. -/
structure FloatFormat.Lawful (floats : FloatFormat F) : Prop where
  chars : ∀ x, ∀ c ∈ floats.token x, numberChar c = true
  isFloat : ∀ x, isFloat (floats.token x) = true
  read : ∀ x, floats.read (floats.token x) = .finite x

def doubleToken (floats : FloatFormat F) : Double F → List Char
  | .finite x => floats.token x
  | .nan => ['N', 'a', 'N']
  | .infinity false => ['I', 'n', 'f', 'i', 'n', 'i', 't', 'y']
  | .infinity true => ['-', 'I', 'n', 'f', 'i', 'n', 'i', 't', 'y']

def numberOf (floats : FloatFormat F) (token : List Char) : Option (Json F) :=
  if isInteger token then some (.int (intOf token))
  else if isFloat token then some (.float (floats.read token))
  else none

/-- The number at the front of a text. -/
def number (floats : FloatFormat F) (cs : List Char) : Option (Json F × List Char) :=
  (numberOf floats (cs.takeWhile numberChar)).map fun v => (v, cs.dropWhile numberChar)

/-- No number goes on into this text. -/
def Delimited (rest : List Char) : Prop := ∀ c ∈ rest.head?, numberChar c = false

theorem takeWhile_token {token rest : List Char} (htoken : ∀ c ∈ token, numberChar c = true)
    (hrest : Delimited rest) :
    (token ++ rest).takeWhile numberChar = token ∧ (token ++ rest).dropWhile numberChar = rest := by
  rw [List.takeWhile_append_of_pos htoken, List.dropWhile_append_of_pos htoken]
  cases rest with
  | nil => simp
  | cons c cs =>
    have hc : numberChar c = false := hrest c rfl
    simp [hc]

theorem number_token {floats : FloatFormat F} {token rest : List Char} {v : Json F}
    (htoken : ∀ c ∈ token, numberChar c = true) (hrest : Delimited rest)
    (h : numberOf floats token = some v) : number floats (token ++ rest) = some (v, rest) := by
  obtain ⟨htake, hdrop⟩ := takeWhile_token htoken hrest
  rw [number, htake, hdrop, h]
  rfl

theorem toDigits_head {n : ℕ} (h : 0 < n) : ∃ c cs, Nat.toDigits 10 n = c :: cs ∧ c ≠ '0' := by
  induction n using Nat.strongRecOn with
  | ind n ih =>
    by_cases hsmall : n < 10
    · refine ⟨n.digitChar, [], Nat.toDigits_of_lt_base hsmall, ?_⟩
      have hall : ∀ d < 10, 0 < d → Nat.digitChar d ≠ '0' := by decide
      exact hall n hsmall h
    · obtain ⟨c, cs, hdigits, hc⟩ := ih (n / 10) (by omega) (by omega)
      have happend : Nat.toDigits 10 (n / 10) ++ Nat.toDigits 10 (n % 10) = Nat.toDigits 10 n := by
        rw [Nat.toDigits_append_toDigits (by omega) (by omega) (by omega)]
        congr 1
        omega
      exact ⟨c, cs ++ Nat.toDigits 10 (n % 10), by rw [← happend, hdigits]; rfl, hc⟩

theorem isDigit_toDigits {n : ℕ} {c : Char} (h : c ∈ Nat.toDigits 10 n) : c.isDigit = true :=
  Nat.isDigit_of_mem_toDigits (by omega) (by omega) h

/-- What follows a number does not go on with digits. -/
def NoDigit (rest : List Char) : Prop := ∀ c ∈ rest.head?, c.isDigit = false

theorem dropWhile_digits {cs rest : List Char} (hcs : ∀ c ∈ cs, c.isDigit = true)
    (hrest : NoDigit rest) : (cs ++ rest).dropWhile Char.isDigit = rest := by
  rw [List.dropWhile_append_of_pos hcs]
  cases rest with
  | nil => rfl
  | cons c ds =>
    have hc : c.isDigit = false := hrest c rfl
    simp [hc]

theorem natural_toDigits (n : ℕ) {rest : List Char} (hrest : NoDigit rest) :
    natural (Nat.toDigits 10 n ++ rest) = some rest := by
  by_cases hn : n = 0
  · subst hn
    rw [Nat.toDigits_zero, List.singleton_append, natural, if_pos rfl]
  · obtain ⟨c, cs, hdigits, hc⟩ := toDigits_head (Nat.pos_of_ne_zero hn)
    have hall : ∀ d ∈ c :: cs, d.isDigit = true := by
      intro d hd
      rw [← hdigits] at hd
      exact isDigit_toDigits hd
    have hdrop : (cs ++ rest).dropWhile Char.isDigit = rest :=
      dropWhile_digits (fun d hd => hall d (List.mem_cons_of_mem c hd)) hrest
    rw [hdigits, List.cons_append, natural, if_neg hc, digits, if_pos (hall c List.mem_cons_self),
      hdrop]

theorem toDigits_cons (n : ℕ) : ∃ c cs, Nat.toDigits 10 n = c :: cs ∧ c ≠ '-' := by
  cases hdigits : Nat.toDigits 10 n with
  | nil => exact absurd hdigits Nat.toDigits_ne_nil
  | cons c cs =>
    refine ⟨c, cs, rfl, ?_⟩
    rintro rfl
    have hdash : ('-').isDigit = true := by
      apply isDigit_toDigits (n := n)
      rw [hdigits]
      exact List.mem_cons_self
    exact absurd hdash (by decide)

theorem integer_append (n : ℤ) {rest : List Char} (hrest : NoDigit rest) :
    integer (intToken n ++ rest) = some rest := by
  cases n with
  | ofNat n =>
    obtain ⟨c, cs, hdigits, hc⟩ := toDigits_cons n
    have hnat := natural_toDigits n hrest
    rw [hdigits] at hnat
    rw [intToken, hdigits, List.cons_append, integer, if_neg hc, ← List.cons_append, hnat]
  | negSucc n =>
    rw [intToken, List.cons_append, integer, if_pos rfl, natural_toDigits (n + 1) hrest]

theorem integer_intToken (n : ℤ) : integer (intToken n) = some [] := by
  have hnil : NoDigit [] := by
    intro c hc
    cases hc
  have happend := integer_append n hnil
  rwa [List.append_nil] at happend

theorem intOf_intToken (n : ℤ) : intOf (intToken n) = n := by
  cases n with
  | ofNat n =>
    obtain ⟨c, cs, hdigits, hc⟩ := toDigits_cons n
    rw [intToken, hdigits, intOf, if_neg hc, ← hdigits, Nat.ofDigitChars_ten_toDigits]
    rfl
  | negSucc n =>
    rw [intToken, intOf, if_pos rfl, Nat.ofDigitChars_ten_toDigits]
    omega

theorem numberChar_intToken {n : ℤ} {c : Char} (h : c ∈ intToken n) : numberChar c = true := by
  have hdigit : ∀ m, c ∈ Nat.toDigits 10 m → numberChar c = true := by
    intro m hm
    simp [numberChar, isDigit_toDigits hm]
  cases n with
  | ofNat n => exact hdigit n h
  | negSucc n =>
    rcases List.mem_cons.mp h with rfl | htail
    · decide
    · exact hdigit _ htail

theorem numberOf_intToken (floats : FloatFormat F) (n : ℤ) :
    numberOf floats (intToken n) = some (.int n) := by
  have hinteger : isInteger (intToken n) = true := by
    rw [isInteger, integer_intToken]
    rfl
  rw [numberOf, if_pos hinteger, intOf_intToken]

theorem FloatFormat.Lawful.numberOf_token {floats : FloatFormat F} (h : floats.Lawful) (x : F) :
    numberOf floats (floats.token x) = some (.float (.finite x)) := by
  have hfloat := h.isFloat x
  have hinteger : isInteger (floats.token x) = false := by
    rw [Json.isFloat, Bool.and_eq_true, Bool.not_eq_true'] at hfloat
    exact hfloat.1
  rw [numberOf, hinteger, if_neg Bool.false_ne_true, if_pos (h.isFloat x), h.read]

end Json
