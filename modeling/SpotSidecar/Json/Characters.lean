import SpotSidecar.Json.Text

/-! The characters of a string of JSON. A surrogate that stands alone is no character. -/
namespace Json.Text

def charsOfPoints : List ℕ → Option (List Char)
  | [] => some []
  | p :: ps => if p.isValidChar then (charsOfPoints ps).map (Char.ofNat p :: ·) else none

/-- The characters, where the string has no lone surrogate. -/
def chars (s : Text) : Option (List Char) := charsOfPoints (points s)

theorem points_pair {u w : CodeUnit} (s : Text) (h : (isHigh u && isLow w) = true) :
    points (u :: w :: s) =
      (0x10000 + (u.val - 0xD800) * 0x400 + (w.val - 0xDC00)) :: points s := by
  rw [points, if_pos h]

theorem points_single {u : CodeUnit} (s : Text) (h : isHigh u = false) :
    points (u :: s) = u.val :: points s := by
  cases s with
  | nil => rfl
  | cons w s => rw [points, h, Bool.false_and, if_neg (by simp)]

theorem points_ofChar (c : Char) (s : Text) : points (ofChar c ++ s) = c.toNat :: points s := by
  have hvalid : c.toNat < 0xD800 ∨ 0xDFFF < c.toNat ∧ c.toNat < 0x110000 := c.valid
  unfold ofChar unitsOfPoint
  by_cases hsmall : c.toNat < 0x10000
  · rw [if_pos hsmall]
    have hval : (CodeUnit.ofNat c.toNat).val = c.toNat := Nat.mod_eq_of_lt hsmall
    have hlow : isHigh (CodeUnit.ofNat c.toNat) = false := by
      rw [isHigh, hval, Bool.and_eq_false_iff]
      simp only [decide_eq_false_iff_not]
      omega
    rw [List.map_singleton, List.singleton_append, points_single s hlow, hval]
  · rw [if_neg hsmall]
    have hhigh : (CodeUnit.ofNat (0xD800 + (c.toNat - 0x10000) / 0x400)).val =
        0xD800 + (c.toNat - 0x10000) / 0x400 := Nat.mod_eq_of_lt (by omega)
    have hlow : (CodeUnit.ofNat (0xDC00 + (c.toNat - 0x10000) % 0x400)).val =
        0xDC00 + (c.toNat - 0x10000) % 0x400 := Nat.mod_eq_of_lt (by omega)
    have hpair : (isHigh (CodeUnit.ofNat (0xD800 + (c.toNat - 0x10000) / 0x400)) &&
        isLow (CodeUnit.ofNat (0xDC00 + (c.toNat - 0x10000) % 0x400))) = true := by
      simp only [isHigh, isLow, hhigh, hlow, Bool.and_eq_true, decide_eq_true_eq]
      omega
    simp only [List.map_cons, List.map_nil, List.cons_append, List.nil_append]
    rw [points_pair s hpair, hhigh, hlow]
    have hpoint : 0x10000 + (0xD800 + (c.toNat - 0x10000) / 0x400 - 0xD800) * 0x400 +
        (0xDC00 + (c.toNat - 0x10000) % 0x400 - 0xDC00) = c.toNat := by omega
    rw [hpoint]

theorem chars_ofString (s : String) : chars (ofString s) = some s.toList := by
  unfold ofString chars
  induction s.toList with
  | nil => rfl
  | cons c cs ih =>
    have hvalid : c.toNat.isValidChar := c.valid
    rw [List.flatMap_cons, points_ofChar, charsOfPoints, if_pos hvalid, ih, Char.ofNat_toNat]
    rfl

end Json.Text
