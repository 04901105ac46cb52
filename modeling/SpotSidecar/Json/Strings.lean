import SpotSidecar.Json.Text
import SpotSidecar.Text.Hex

/-! The strings of JSON: the spellings of a string, the one that writes ASCII only, and the
reader. -/
namespace Json

def quote : Char := Char.ofNat 34

def backslash : Char := Char.ofNat 92

/-- The escapes that have a letter, with the unit they stand for. -/
def shortEscapes : List (CodeUnit × Char) :=
  [(.ofNat 34, quote), (.ofNat 92, backslash), (.ofNat 10, 'n'), (.ofNat 13, 'r'), (.ofNat 9, 't'),
    (.ofNat 12, 'f'), (.ofNat 8, 'b')]

def hexDigit (c : Char) : Option ℕ :=
  if '0' ≤ c && c ≤ '9' then some (c.toNat - 48)
  else if 'a' ≤ c && c ≤ 'f' then some (c.toNat - 87)
  else if 'A' ≤ c && c ≤ 'F' then some (c.toNat - 55)
  else none

/-- The unit of four hexadecimal digits. -/
def unitOfHex (a b c d : Char) : Option CodeUnit := do
  let a ← hexDigit a
  let b ← hexDigit b
  let c ← hexDigit c
  let d ← hexDigit d
  some (CodeUnit.ofNat (((a * 16 + b) * 16 + c) * 16 + d))

def unitOfLetter (letter : Char) : Option CodeUnit :=
  (((CodeUnit.ofNat 47, '/') :: shortEscapes).find? fun e => e.2 = letter).map Prod.fst

/-- A unit as `ensure_ascii` writes it. -/
def escaped (u : CodeUnit) : List Char :=
  match shortEscapes.lookup u with
  | some letter => [backslash, letter]
  | none =>
    if 32 ≤ u.val ∧ u.val ≤ 126 then [Char.ofNat u.val]
    else backslash :: 'u' :: Hex.digits Hex.lower 4 u.val

/-- The rest of a string whose opening quote is read. -/
def string : List Char → Option (Text × List Char)
  | [] => none
  | c :: cs =>
    if c = quote then some ([], cs)
    else if c = backslash then
      match cs with
      | [] => none
      | letter :: cs =>
        if letter = 'u' then
          match cs with
          | a :: b :: c :: d :: cs => do
            let u ← unitOfHex a b c d
            let (s, rest) ← string cs
            some (u :: s, rest)
          | _ => none
        else do
          let u ← unitOfLetter letter
          let (s, rest) ← string cs
          some (u :: s, rest)
    else if c.toNat < 32 then none
    else do
      let (s, rest) ← string cs
      some (Text.ofChar c ++ s, rest)

/-- The text between the quotes spells the string. -/
inductive Spells : Text → List Char → Prop
  | nil : Spells [] []
  | raw {c : Char} {s : Text} {t : List Char} (hcontrol : 32 ≤ c.toNat) (hquote : c ≠ quote)
      (hslash : c ≠ backslash) (h : Spells s t) : Spells (Text.ofChar c ++ s) (c :: t)
  | short {letter : Char} {u : CodeUnit} {s : Text} {t : List Char}
      (hletter : unitOfLetter letter = some u) (h : Spells s t) :
      Spells (u :: s) (backslash :: letter :: t)
  | hex {a b c d : Char} {u : CodeUnit} {s : Text} {t : List Char}
      (hunit : unitOfHex a b c d = some u) (h : Spells s t) :
      Spells (u :: s) (backslash :: 'u' :: a :: b :: c :: d :: t)

section Equations
variable {c : Char} (cs : List Char)

theorem string_quote : string (quote :: cs) = some ([], cs) := by
  rw [string.eq_def]
  simp only [if_pos]

theorem string_raw (hcontrol : 32 ≤ c.toNat) (hquote : c ≠ quote) (hslash : c ≠ backslash) :
    string (c :: cs) = (string cs).map fun r => (Text.ofChar c ++ r.1, r.2) := by
  have hlow : ¬ c.toNat < 32 := by omega
  rw [string.eq_def]
  simp only [if_neg hquote, if_neg hslash, if_neg hlow]
  cases string cs <;> rfl

theorem string_short {u : CodeUnit} (hletter : unitOfLetter c = some u) :
    string (backslash :: c :: cs) = (string cs).map fun r => (u :: r.1, r.2) := by
  have hc : c ≠ 'u' := by
    rintro rfl
    have hnone : unitOfLetter 'u' = none := by decide
    rw [hnone] at hletter
    cases hletter
  have hslash : backslash ≠ quote := by decide
  rw [string.eq_def]
  simp only [if_neg hslash, if_pos, if_neg hc, hletter]
  cases string cs <;> rfl

theorem string_hex {a b d : Char} {u : CodeUnit} (hunit : unitOfHex a b c d = some u) :
    string (backslash :: 'u' :: a :: b :: c :: d :: cs) =
      (string cs).map fun r => (u :: r.1, r.2) := by
  have hslash : backslash ≠ quote := by decide
  rw [string.eq_def]
  simp only [if_neg hslash, if_pos, hunit]
  cases string cs <;> rfl

end Equations

/-- Every spelling of a string is read as that string. -/
theorem string_spells {s : Text} {t : List Char} (h : Spells s t) (rest : List Char) :
    string (t ++ quote :: rest) = some (s, rest) := by
  induction h with
  | nil => exact string_quote rest
  | raw hcontrol hquote hslash h ih =>
    rw [List.cons_append, string_raw _ hcontrol hquote hslash, ih]
    rfl
  | short hletter h ih =>
    rw [List.cons_append, List.cons_append, string_short _ hletter, ih]
    rfl
  | hex hunit h ih =>
    simp only [List.cons_append]
    rw [string_hex _ hunit, ih]
    rfl

theorem hexDigit_lower {n : ℕ} (h : n < 16) : hexDigit (Hex.lower n) = some n := by
  have hall : ∀ n < 16, hexDigit (Hex.lower n) = some n := by decide
  exact hall n h

theorem exists_digits_lower (u : CodeUnit) :
    ∃ a b c d, Hex.digits Hex.lower 4 u.val = [a, b, c, d] ∧ unitOfHex a b c d = some u := by
  refine ⟨_, _, _, _, rfl, ?_⟩
  have hu := u.isLt
  simp only [unitOfHex, hexDigit_lower (Nat.mod_lt _ (by omega : 16 > 0)), Option.bind_eq_bind,
    Option.bind_some, Option.some.injEq]
  apply Fin.ext
  show _ % 65536 = _
  omega

theorem unitOfLetter_lookup {u : CodeUnit} {letter : Char}
    (h : shortEscapes.lookup u = some letter) :
    unitOfLetter letter = some u := by
  have hall : (shortEscapes.all fun e => unitOfLetter e.2 = some e.1) = true := by decide
  obtain ⟨before, after, hescapes, -⟩ := List.lookup_eq_some_iff.mp h
  have hmem : (u, letter) ∈ shortEscapes := by
    rw [hescapes]
    simp
  exact of_decide_eq_true (List.all_eq_true.mp hall _ hmem)

theorem ascii_char {n : ℕ} (h : n ≤ 126) :
    (Char.ofNat n).toNat = n ∧ (Char.ofNat n = quote → n = 34) ∧
      (Char.ofNat n = backslash → n = 92) := by
  have hall : ∀ n < 127, (Char.ofNat n).toNat = n ∧ (Char.ofNat n = quote → n = 34) ∧
      (Char.ofNat n = backslash → n = 92) := by decide
  exact hall n (by omega)

theorem spells_ascii {u : CodeUnit} (hshort : shortEscapes.lookup u = none)
    (hlow : 32 ≤ u.val) (hhigh : u.val ≤ 126) {s : Text} {t : List Char} (h : Spells s t) :
    Spells (u :: s) (Char.ofNat u.val :: t) := by
  obtain ⟨hnat, hquote, hslash⟩ := ascii_char hhigh
  have hunits : u :: s = Text.ofChar (Char.ofNat u.val) ++ s := by
    simp [Text.ofChar, hnat, Text.unitsOfPoint_val]
  rw [hunits]
  apply Spells.raw (by omega) ?_ ?_ h
  · intro heq
    have hu : u = CodeUnit.ofNat 34 := Fin.ext (hquote heq)
    rw [hu] at hshort
    exact absurd hshort (by decide)
  · intro heq
    have hu : u = CodeUnit.ofNat 92 := Fin.ext (hslash heq)
    rw [hu] at hshort
    exact absurd hshort (by decide)

theorem spells_escaped (s : Text) : Spells s (s.flatMap escaped) := by
  induction s with
  | nil => exact .nil
  | cons u s ih =>
    rw [List.flatMap_cons, escaped]
    cases hshort : shortEscapes.lookup u with
    | some letter => exact .short (unitOfLetter_lookup hshort) ih
    | none =>
      by_cases hascii : 32 ≤ u.val ∧ u.val ≤ 126
      · simp only [if_pos hascii]
        exact spells_ascii hshort hascii.1 hascii.2 ih
      · obtain ⟨a, b, c, d, hdigits, hunit⟩ := exists_digits_lower u
        simp only [if_neg hascii, hdigits]
        exact .hex hunit ih

end Json
