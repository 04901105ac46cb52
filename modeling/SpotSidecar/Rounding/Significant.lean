import Mathlib.Data.Int.Log
import Mathlib.Data.Rat.Floor
import Mathlib.Tactic.Linarith
import Mathlib.Tactic.NormNum
import Mathlib.Tactic.FieldSimp
import Mathlib.Tactic.Positivity

/-! Rounding a rational to a number of significant digits in a base, with a least exponent. -/
namespace Rounding

/-- The nearest integer; of two that are equally near, the even one. -/
def halfEven (q : ℚ) : ℤ :=
  if q - ⌊q⌋ < 1 / 2 ∨ (q - ⌊q⌋ = 1 / 2 ∧ ⌊q⌋ % 2 = 0) then ⌊q⌋ else ⌊q⌋ + 1

theorem halfEven_intCast (n : ℤ) : halfEven n = n := by
  rw [halfEven, Int.floor_intCast, sub_self, if_pos (.inl (by norm_num))]

/-- Rounding does not pass an integer. -/
theorem halfEven_le {q : ℚ} {n : ℤ} (h : q ≤ n) : halfEven q ≤ n := by
  have hfloor : ⌊q⌋ ≤ n := by exact_mod_cast (Int.floor_le q).trans h
  rw [halfEven]
  split
  · exact hfloor
  · next hfar =>
    by_contra hlt
    obtain rfl : ⌊q⌋ = n := by omega
    have heq : q = ⌊q⌋ := le_antisymm h (Int.floor_le q)
    exact hfar (.inl (by rw [← heq, sub_self]; norm_num))

theorem le_halfEven {q : ℚ} {n : ℤ} (h : n ≤ q) : n ≤ halfEven q := by
  have hfloor : n ≤ ⌊q⌋ := Int.le_floor.mpr h
  rw [halfEven]
  split
  · exact hfloor
  · omega

theorem halfEven_mono {q r : ℚ} (h : q ≤ r) : halfEven q ≤ halfEven r := by
  have hfloor : ⌊q⌋ ≤ ⌊r⌋ := Int.floor_le_floor h
  have hbelow : ⌊r⌋ ≤ halfEven r := le_halfEven (Int.floor_le r)
  have habove : halfEven q ≤ ⌊q⌋ + 1 := by
    rw [halfEven]
    split <;> omega
  by_cases hsame : ⌊q⌋ = ⌊r⌋
  · -- Both are rounded between the same two integers.
    rw [halfEven, halfEven, ← hsame]
    split
    · split <;> omega
    · next hfar =>
      rw [if_neg]
      intro hnear
      apply hfar
      obtain hlt | ⟨heq, heven⟩ := hnear
      · exact .inl (by linarith)
      · obtain hlt | heq' := lt_or_eq_of_le (show q - ⌊q⌋ ≤ 1 / 2 by linarith)
        · exact .inl hlt
        · exact .inr ⟨heq', heven⟩
  · omega

theorem abs_halfEven_le {q : ℚ} {n : ℤ} (h : |q| ≤ n) : |halfEven q| ≤ n := by
  obtain ⟨hlo, hhi⟩ := abs_le.mp h
  refine abs_le.mpr ⟨le_halfEven ?_, halfEven_le hhi⟩
  push_cast
  exact hlo

/-- A number format: numbers with `digits` digits in base `base`, in units of `base ^ least`. -/
structure Format where
  base : ℕ
  digits : ℕ
  least : ℤ
  one_lt : 1 < base := by decide
  digits_pos : 0 < digits := by decide

namespace Format
variable (F : Format)

/-- The exponent of the last digit that is kept. -/
def unit (q : ℚ) : ℤ := max (Int.log F.base |q| - (F.digits - 1)) F.least

def round (q : ℚ) : ℚ := halfEven (q / (F.base : ℚ) ^ F.unit q) * (F.base : ℚ) ^ F.unit q

theorem base_pos : (0 : ℚ) < F.base := by
  have := F.one_lt
  exact_mod_cast (by omega : 0 < F.base)

theorem unit_pos (e : ℤ) : (0 : ℚ) < (F.base : ℚ) ^ e := zpow_pos F.base_pos e

/-- A multiple of the unit is kept as it is. -/
theorem round_eq_self {q : ℚ} {n : ℤ} (h : q = n * (F.base : ℚ) ^ F.unit q) : F.round q = q := by
  have hquot : q / (F.base : ℚ) ^ F.unit q = n := by
    rw [div_eq_iff (F.unit_pos _).ne']
    exact h
  rw [round, hquot, halfEven_intCast]
  exact h.symm

theorem abs_lt_unit (q : ℚ) : |q| < (F.base : ℚ) ^ (F.unit q + F.digits) := by
  have hlog : Int.log F.base |q| + 1 ≤ F.unit q + F.digits := by
    have := le_max_left (Int.log F.base |q| - (F.digits - 1)) F.least
    rw [unit]
    omega
  have hbase : (1 : ℚ) ≤ F.base := by
    have := F.one_lt
    exact_mod_cast this.le
  exact (Int.lt_zpow_succ_log_self F.one_lt _).trans_le (zpow_le_zpow_right₀ hbase hlog)

/-- The digits of a rounded number. -/
theorem abs_halfEven_unit (q : ℚ) :
    |halfEven (q / (F.base : ℚ) ^ F.unit q)| ≤ (F.base : ℤ) ^ F.digits := by
  refine abs_halfEven_le ?_
  rw [abs_div, abs_of_pos (F.unit_pos _), div_le_iff₀ (F.unit_pos _)]
  have hlt := (F.abs_lt_unit q).le
  rw [add_comm, zpow_add₀ F.base_pos.ne', zpow_natCast] at hlt
  push_cast
  exact hlt

theorem round_zero : F.round 0 = 0 :=
  F.round_eq_self (n := 0) (by rw [Int.cast_zero, zero_mul])

theorem round_nonpos {q : ℚ} (h : q ≤ 0) : F.round q ≤ 0 := by
  have hquot : q / (F.base : ℚ) ^ F.unit q ≤ (0 : ℤ) := by
    rw [Int.cast_zero]
    exact div_nonpos_of_nonpos_of_nonneg h (F.unit_pos _).le
  have hdigits : (halfEven (q / (F.base : ℚ) ^ F.unit q) : ℚ) ≤ 0 := by
    exact_mod_cast halfEven_le hquot
  exact mul_nonpos_of_nonpos_of_nonneg hdigits (F.unit_pos _).le

/-- A number with the digits of the format is kept as it is. -/
theorem round_of_digits {n e : ℤ} (hn : |n| < (F.base : ℤ) ^ F.digits) (he : F.least ≤ e) :
    F.round (n * (F.base : ℚ) ^ e) = n * (F.base : ℚ) ^ e := by
  rcases eq_or_ne n 0 with rfl | hne
  · rw [Int.cast_zero, zero_mul, round_zero]
  · set r := (n : ℚ) * (F.base : ℚ) ^ e with hr
    have hpos : 0 < |r| := by
      rw [hr, abs_pos]
      exact mul_ne_zero (by exact_mod_cast hne) (F.unit_pos e).ne'
    have hlt : |r| < (F.base : ℚ) ^ (F.digits + e) := by
      rw [hr, abs_mul, abs_of_pos (F.unit_pos e), zpow_add₀ F.base_pos.ne', zpow_natCast]
      exact mul_lt_mul_of_pos_right (by exact_mod_cast hn) (F.unit_pos e)
    have hunit : F.unit r ≤ e := by
      have := (Int.lt_zpow_iff_log_lt F.one_lt hpos).mp hlt
      exact max_le (by omega) he
    obtain ⟨k, hk⟩ : ∃ k : ℕ, e = k + F.unit r := ⟨(e - F.unit r).toNat, by omega⟩
    refine F.round_eq_self (n := n * (F.base : ℤ) ^ k) ?_
    have hsplit : (F.base : ℚ) ^ e = (F.base : ℚ) ^ k * (F.base : ℚ) ^ F.unit r := by
      conv_lhs => rw [hk]
      rw [zpow_add₀ F.base_pos.ne', zpow_natCast]
    push_cast
    rw [mul_assoc, ← hsplit]

/-- Rounding twice is rounding once. -/
theorem round_round (q : ℚ) : F.round (F.round q) = F.round q := by
  set e := F.unit q with he
  set n := halfEven (q / (F.base : ℚ) ^ e) with hn
  have hround : F.round q = n * (F.base : ℚ) ^ e := rfl
  have hleast : F.least ≤ e := le_max_right _ _
  rw [hround]
  rcases lt_or_eq_of_le (F.abs_halfEven_unit q) with hlt | heq
  · exact F.round_of_digits hlt hleast
  · -- the digits overflow, and the number is a power of the base with one unit more
    obtain ⟨d, hd⟩ : ∃ d, F.digits = d + 1 := ⟨F.digits - 1, by have := F.digits_pos; omega⟩
    have hsign : n = n.sign * (F.base : ℤ) ^ d * F.base := by
      rw [mul_assoc, ← pow_succ, ← hd, ← heq]
      exact (Int.sign_mul_abs n).symm
    have hsame : (n : ℚ) * (F.base : ℚ) ^ e =
        ((n.sign * (F.base : ℤ) ^ d : ℤ) : ℚ) * (F.base : ℚ) ^ (e + 1) := by
      conv_lhs => rw [hsign]
      rw [zpow_add_one₀ F.base_pos.ne']
      push_cast
      ring
    rw [hsame]
    refine F.round_of_digits ?_ (by omega)
    have hbase : (0 : ℤ) < F.base := by exact_mod_cast F.base_pos
    have hne : n ≠ 0 := by
      rintro hzero
      rw [← hn, hzero, abs_zero] at heq
      exact (pow_pos hbase F.digits).ne heq
    rw [abs_mul, Int.abs_sign_of_ne_zero hne, one_mul, abs_of_pos (pow_pos hbase d), hd]
    exact pow_lt_pow_right₀ (by exact_mod_cast F.one_lt) (Nat.lt_succ_self d)

/-- A number of the format as the first of some decimals of it that is read as that number. -/
def shortest (candidates : List Format) (x : ℚ) : ℚ :=
  ((candidates.map (·.round x)).find? (F.round · = x)).getD x

theorem round_shortest (candidates : List Format) {x : ℚ} (hx : F.round x = x) :
    F.round (F.shortest candidates x) = x := by
  rw [shortest]
  cases h : (candidates.map (·.round x)).find? (F.round · = x) with
  | none => exact hx
  | some d =>
    rw [Option.getD_some]
    have hd := List.find?_some h
    exact of_decide_eq_true hd

/-- The decimals tell the numbers of the format apart. -/
theorem shortest_inj (candidates : List Format) {x y : ℚ} (hx : F.round x = x)
    (hy : F.round y = y) (h : F.shortest candidates x = F.shortest candidates y) : x = y := by
  rw [← F.round_shortest candidates hx, h, F.round_shortest candidates hy]

end Format

/-- Double precision; of its numbers none is larger than the bound that the source checks. -/
def double : Format := { base := 2, digits := 53, least := -1074 }

def decimal (n : ℕ) (least : ℤ) : Format :=
  { base := 10, digits := n + 1, least := least, digits_pos := n.succ_pos }

end Rounding
