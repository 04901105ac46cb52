import Mathlib.Data.List.Basic
import Mathlib.Algebra.Group.Nat.Defs

/-! Hexadecimal numerals of a fixed width. -/
namespace Hex

def lower (d : ℕ) : Char := "0123456789abcdef".toList.getD d '0'

def upper (d : ℕ) : Char := "0123456789ABCDEF".toList.getD d '0'

/-- The last `w` digits of `n`, padded with zeros in front. -/
def digits (digit : ℕ → Char) : ℕ → ℕ → List Char
  | 0, _ => []
  | w + 1, n => digits digit w (n / 16) ++ [digit (n % 16)]

theorem upper_inj {a b : ℕ} (ha : a < 16) (hb : b < 16) (h : upper a = upper b) : a = b := by
  have hall : ∀ a < 16, ∀ b < 16, upper a = upper b → a = b := by decide
  exact hall a ha b hb h

variable {digit : ℕ → Char}

@[simp] theorem length_digits (w n : ℕ) : (digits digit w n).length = w := by
  induction w generalizing n with
  | zero => rfl
  | succ w ih => simp [digits, ih]

theorem digits_inj (hdigit : ∀ a b, a < 16 → b < 16 → digit a = digit b → a = b) {w m n : ℕ}
    (hm : m < 16 ^ w) (hn : n < 16 ^ w) (h : digits digit w m = digits digit w n) : m = n := by
  induction w generalizing m n with
  | zero => omega
  | succ w ih =>
    simp only [digits] at h
    obtain ⟨hinit, hlast⟩ := List.append_inj' h rfl
    have hmod : m % 16 = n % 16 :=
      hdigit _ _ (by omega) (by omega) (List.cons.inj hlast).1
    have hpow : 16 ^ (w + 1) = 16 * 16 ^ w := Nat.pow_succ'
    have hdiv : m / 16 = n / 16 := ih (by omega) (by omega) hinit
    omega

theorem mem_digits {w n : ℕ} {c : Char} (h : c ∈ digits digit w n) :
    ∃ d < 16, c = digit d := by
  induction w generalizing n with
  | zero => simp [digits] at h
  | succ w ih =>
    rcases List.mem_append.mp h with hinit | hlast
    · exact ih hinit
    · exact ⟨n % 16, by omega, List.mem_singleton.mp hlast⟩

end Hex
