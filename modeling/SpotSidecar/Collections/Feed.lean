import Mathlib.Data.List.Sort
import Mathlib.Order.Defs.LinearOrder

/-! Reading a table from a cursor on: the rows past the cursor by their places, some at a time. -/
namespace Feed
variable {α ρ : Type} [LinearOrder ρ] (place : α → ρ)

def Precedes (a b : α) : Prop := place a ≤ place b

instance : DecidableRel (Precedes place) :=
  fun a b => inferInstanceAs (Decidable (place a ≤ place b))

instance : Std.Total (Precedes place) := ⟨fun a b => le_total (place a) (place b)⟩

instance : IsTrans α (Precedes place) := ⟨fun _ _ _ => le_trans⟩

def past (cursor : ρ) (rows : List α) : List α :=
  (rows.filter fun a => cursor < place a).insertionSort (Precedes place)

/-- `WHERE place > cursor ORDER BY place LIMIT limit` -/
def next (cursor : ρ) (limit : ℕ) (rows : List α) : List α := (past place cursor rows).take limit

variable {place} {cursor : ρ} {limit : ℕ} {rows : List α}

theorem mem_past {a : α} : a ∈ past place cursor rows ↔ a ∈ rows ∧ cursor < place a := by
  have hperm := List.perm_insertionSort (Precedes place) (rows.filter fun a => cursor < place a)
  rw [past, hperm.mem_iff]
  simp

theorem past_ordered : (past place cursor rows).Pairwise (Precedes place) :=
  List.pairwise_insertionSort _ _

theorem next_ordered : (next place cursor limit rows).Pairwise (Precedes place) :=
  past_ordered.sublist (List.take_sublist _ _)

/-- A row past the cursor is read, or all that is read comes before it. -/
theorem mem_next_or {a : α} (ha : a ∈ rows) (hpast : cursor < place a) :
    a ∈ next place cursor limit rows ∨ ∀ b ∈ next place cursor limit rows, Precedes place b a := by
  have hmem : a ∈ past place cursor rows := mem_past.mpr ⟨ha, hpast⟩
  have hsplit := List.take_append_drop limit (past place cursor rows)
  rw [← hsplit, List.mem_append] at hmem
  obtain h | h := hmem
  · exact .inl h
  · right
    intro b hb
    have hordered : (past place cursor rows).Pairwise (Precedes place) := past_ordered
    rw [← hsplit, List.pairwise_append] at hordered
    exact hordered.2.2 b hb a h

end Feed
