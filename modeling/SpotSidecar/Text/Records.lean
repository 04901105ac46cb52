import Mathlib.Data.List.TakeWhile

/-! Texts of records that end in a delimiter, and fields around the first separator. -/
namespace Records
variable {α : Type} [DecidableEq α]

/-- The records of a text; a last record may lack its delimiter. -/
def split (d : α) : List α → List (List α)
  | [] => []
  | c :: cs =>
    if c = d then [] :: split d cs
    else match split d cs with
      | [] => [[c]]
      | r :: rs => (c :: r) :: rs

/-- What stands before and after the first separator. -/
def cut (d : α) (l : List α) : List α × List α :=
  (l.takeWhile (· ≠ d), (l.dropWhile (· ≠ d)).tail)

variable {d c : α} {l r rest : List α}

theorem split_record (h : d ∉ r) : split d (r ++ d :: rest) = r :: split d rest := by
  induction r with
  | nil => simp [split]
  | cons c r ih =>
    have hne : c ≠ d := fun hcd => h (hcd ▸ List.mem_cons_self)
    have htail : d ∉ r := fun hd => h (List.mem_cons_of_mem c hd)
    rw [List.cons_append, split, if_neg hne, ih htail]

theorem mem_of_split (hr : r ∈ split d l) (hc : c ∈ r) : c ∈ l := by
  induction l generalizing r with
  | nil => simp [split] at hr
  | cons x l ih =>
    rw [split] at hr
    split at hr
    · rcases List.mem_cons.mp hr with rfl | hr
      · cases hc
      · exact List.mem_cons_of_mem x (ih hr hc)
    · split at hr
      · rw [List.mem_singleton.mp hr] at hc
        rw [List.mem_singleton.mp hc]
        exact List.mem_cons_self
      · next first others hsplit =>
        rcases List.mem_cons.mp hr with rfl | hr
        · rcases List.mem_cons.mp hc with rfl | hc
          · exact List.mem_cons_self
          · apply List.mem_cons_of_mem x
            apply ih _ hc
            rw [hsplit]
            exact List.mem_cons_self
        · apply List.mem_cons_of_mem x
          apply ih _ hc
          rw [hsplit]
          exact List.mem_cons_of_mem first hr

theorem cut_append (h : d ∉ r) : cut d (r ++ d :: rest) = (r, rest) := by
  have hall : ∀ c ∈ r, (decide (c ≠ d)) = true := by
    intro c hc
    simp only [decide_eq_true_eq]
    exact fun hcd => h (hcd ▸ hc)
  rw [cut, List.takeWhile_append_of_pos hall, List.dropWhile_append_of_pos hall]
  simp

theorem notMem_cut_fst : d ∉ (cut d l).1 := by
  intro h
  have hd := List.mem_takeWhile_imp h
  simp at hd

/-- Texts without the separator are found again in front of it. -/
theorem append_separator_inj {r' rest' : List α} (h : d ∉ r) (h' : d ∉ r')
    (heq : r ++ d :: rest = r' ++ d :: rest') : r = r' ∧ rest = rest' := by
  have hcut := congrArg (cut d) heq
  rw [cut_append h, cut_append h'] at hcut
  exact Prod.mk.inj hcut

end Records
