import Mathlib.Data.List.Basic
import Mathlib.Logic.Function.Basic
import Mathlib.Order.Lattice

/-! Numbered slots that are filled at 0 and shifted upwards, one operation after another. -/
namespace Rotation
variable {α β : Type}

abbrev Slots (α : Type) := ℕ → Option α

inductive Op where
  | drop (i : ℕ)
  | shift (i : ℕ)
  deriving DecidableEq

/-- A shift of an empty slot does nothing; one of a filled slot replaces the next. -/
def Op.run (f : Slots α) : Op → Slots α
  | .drop i => Function.update f i none
  | .shift i =>
    match f i with
    | none => f
    | some a => Function.update (Function.update f i none) (i + 1) (some a)

def runAll (f : Slots α) (ops : List Op) : Slots α := ops.foldl Op.run f

/-- The shifts of the slots below `k`, the highest first. -/
def shifts : ℕ → List Op
  | 0 => []
  | k + 1 => .shift k :: shifts k

/-- Make room at 0; what is in slot `k` is lost. -/
def plan (k : ℕ) : List Op := .drop k :: shifts k

/-- What the slots from `k` down to 0 hold. -/
def contents (f : Slots α) : ℕ → List α
  | 0 => (f 0).toList
  | k + 1 => (f (k + 1)).toList ++ contents f k

/-- The slots from `c` to below `k` have moved up by one. -/
def moved (c k : ℕ) (f : Slots α) : Slots α := fun i =>
  if i < c then f i else if i = c then none else if i ≤ k then f (i - 1) else f i

section Contents
variable {f g : Slots α} {c j k : ℕ}

theorem contents_congr (h : ∀ i ≤ k, f i = g i) : contents f k = contents g k := by
  induction k with
  | zero => rw [contents, contents, h 0 (Nat.le_refl 0)]
  | succ k ih =>
    rw [contents, contents, h (k + 1) (Nat.le_refl _), ih fun i hi => h i (Nat.le_succ_of_le hi)]

theorem contents_moved_of_lt (h : j < c) : contents (moved c k f) j = contents f j :=
  contents_congr fun i hi => if_pos (by omega)

/-- Over the gap, each slot holds what the one below it held. -/
theorem contents_moved_of_le (hgap : c ≤ j + 1) (hk : j + 1 ≤ k) :
    contents (moved c k f) (j + 1) = contents f j := by
  induction j with
  | zero =>
    obtain rfl | rfl : c = 0 ∨ c = 1 := by omega
    · have hk' : 1 ≤ k := hk
      simp [contents, moved, hk']
    · simp [contents, moved]
  | succ j ih =>
    rw [contents]
    by_cases hc : c = j + 2
    · subst hc
      rw [contents_moved_of_lt (by omega)]
      simp [moved]
    · have habove : moved c k f (j + 1 + 1) = f (j + 1) := by
        unfold moved
        rw [if_neg (by omega), if_neg (by omega), if_pos hk, Nat.add_sub_cancel]
      rw [ih (by omega) (by omega), habove, contents]

/-- What was in the slots up to `j` is in the slots up to `j + 1` now. -/
theorem contents_suffix_moved (hk : j + 1 ≤ k) :
    contents f j <:+ contents (moved c k f) (j + 1) := by
  by_cases hgap : c ≤ j + 1
  · exact ⟨[], (contents_moved_of_le hgap hk).symm⟩
  · rw [contents_moved_of_lt (by omega), contents]
    exact List.suffix_append _ _

end Contents

/-! ### Interrupted plans -/

theorem run_shift {f : Slots α} {k : ℕ} (hempty : f (k + 1) = none) :
    (Op.shift k).run f = moved k (k + 1) f := by
  cases hslot : f k with
  | none =>
    simp only [Op.run, hslot]
    funext i
    unfold moved
    split
    · rfl
    · split
      · next heq => rw [heq, hslot]
      · split
        · next hne _ =>
          obtain rfl : i = k + 1 := by omega
          rw [hempty, Nat.add_sub_cancel, hslot]
        · rfl
  | some a =>
    simp only [Op.run, hslot]
    funext i
    unfold moved
    by_cases hlt : i < k
    · rw [if_pos hlt, Function.update_of_ne (by omega), Function.update_of_ne (by omega)]
    · rw [if_neg hlt]
      by_cases heq : i = k
      · rw [if_pos heq, heq, Function.update_of_ne (by omega), Function.update_self]
      · rw [if_neg heq]
        by_cases hnext : i = k + 1
        · rw [if_pos (by omega), hnext, Function.update_self, Nat.add_sub_cancel, hslot]
        · rw [if_neg (by omega), Function.update_of_ne hnext, Function.update_of_ne heq]

theorem moved_moved {f : Slots α} {c k : ℕ} (hc : c ≤ k) :
    moved c k (moved k (k + 1) f) = moved c (k + 1) f := by
  funext i
  unfold moved
  grind

/-- The shifts that were done before the rest was given up. -/
theorem runAll_shifts (f : Slots α) (k cut : ℕ) (hempty : f k = none) :
    runAll f ((shifts k).take cut) = moved (k - cut) k f := by
  induction k generalizing f cut with
  | zero =>
    funext i
    cases i with
    | zero => simp [shifts, runAll, moved, hempty]
    | succ i => simp [shifts, runAll, moved]
  | succ k ih =>
    cases cut with
    | zero =>
      funext i
      simp only [shifts, List.take_zero, runAll, List.foldl_nil, moved, Nat.sub_zero]
      grind
    | succ cut =>
      rw [shifts, List.take_succ_cons, runAll, List.foldl_cons, run_shift hempty, ← runAll,
        ih _ cut (by simp [moved]), moved_moved (by omega)]
      rw [Nat.add_sub_add_right]

/-- A plan given up after its first operation: the gap is where it stopped. -/
theorem runAll_plan (f : Slots α) (k cut : ℕ) :
    runAll f ((plan k).take (cut + 1)) = moved (k - cut) k f := by
  have hmoved : moved (k - cut) k ((Op.drop k).run f) = moved (k - cut) k f := by
    funext i
    simp only [moved, Op.run]
    grind
  rw [plan, List.take_succ_cons, runAll, List.foldl_cons, ← runAll,
    runAll_shifts _ k cut (by simp [Op.run]), hmoved]

/-! ### What the slots hold, seen through a function -/

theorem run_map (h : α → β) (f : Slots α) (op : Op) :
    op.run (fun i => (f i).map h) = fun i => (op.run f i).map h := by
  cases op with
  | drop k =>
    funext i
    simp only [Op.run, Function.update_apply]
    split <;> rfl
  | shift k =>
    simp only [Op.run]
    cases f k with
    | none => rfl
    | some a =>
      funext i
      simp only [Option.map_some, Function.update_apply]
      split
      · rfl
      · split <;> rfl

theorem runAll_map (h : α → β) (f : Slots α) (ops : List Op) :
    runAll (fun i => (f i).map h) ops = fun i => (runAll f ops i).map h := by
  induction ops generalizing f with
  | nil => rfl
  | cons op rest ih =>
    rw [runAll, List.foldl_cons, run_map, ← runAll, ih, runAll, runAll, List.foldl_cons]

end Rotation
