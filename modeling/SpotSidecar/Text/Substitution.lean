import Mathlib.Data.List.Infix

/-! Replacing parts of a text, and which words the result contains. -/
namespace Substitution
variable {α : Type}

/-- A word without `b` that stands across a `b` stands on one side of it. -/
theorem infix_or_infix {w x y : List α} {b : α} (hb : b ∉ w) (h : w <:+: x ++ b :: y) :
    w <:+: x ∨ w <:+: y := by
  obtain ⟨u, v, heq⟩ := h
  obtain ⟨after, hx, -⟩ | ⟨before, huw, hy⟩ := List.append_eq_append_iff.mp heq
  · exact .inl ⟨u, after, hx.symm⟩
  · cases before with
    | nil =>
      rw [List.append_nil] at huw
      exact .inl ⟨u, [], by rw [List.append_nil, huw]⟩
    | cons c before =>
      rw [List.cons_append] at hy
      obtain ⟨rfl, htail⟩ := List.cons_eq_cons.mp hy
      obtain ⟨inside, -, hw⟩ | ⟨outside, hu, hw⟩ := List.append_eq_append_iff.mp huw
      · exact absurd (by rw [hw]; simp) hb
      · cases outside with
        | nil =>
          rw [List.nil_append] at hw
          exact absurd (by rw [← hw]; simp) hb
        | cons d outside =>
          rw [List.cons_append] at hw
          obtain ⟨-, hbefore⟩ := List.cons_eq_cons.mp hw
          exact .inr ⟨outside, v, by rw [htail, hbefore]⟩

/-! ### Words that a replacement cannot make -/

/-- The replacement is set off by two letters that the word lacks, and does not hold the word. -/
def Fenced (w r : List α) : Prop :=
  ∃ first middle last, r = first :: (middle ++ [last]) ∧ first ∉ w ∧ last ∉ w ∧ ¬w <:+: middle

theorem Fenced.infix {w r x y : List α} (hr : Fenced w r) (h : w <:+: x ++ (r ++ y)) :
    w <:+: x ∨ w <:+: y := by
  obtain ⟨first, middle, last, rfl, hfirst, hlast, hmiddle⟩ := hr
  rw [List.cons_append, List.append_assoc, List.singleton_append] at h
  obtain hx | h := infix_or_infix hfirst h
  · exact .inl hx
  · obtain hm | hy := infix_or_infix hlast h
    · exact absurd hm hmiddle
    · exact .inr hy

/-! ### Every occurrence of a word -/

/-- The parts with the replacement between them. -/
def fill (r : List α) (parts : List α × List (List α)) : List α :=
  parts.1 ++ parts.2.flatMap fun part => r ++ part

theorem infix_of_fill {v r : List α} (hr : Fenced v r) {parts : List α × List (List α)}
    (h : v <:+: fill r parts) : v <:+: parts.1 ∨ ∃ part ∈ parts.2, v <:+: part := by
  obtain ⟨first, others⟩ := parts
  unfold fill at h
  induction others generalizing first with
  | nil =>
    rw [List.flatMap_nil, List.append_nil] at h
    exact .inl h
  | cons part others ih =>
    rw [List.flatMap_cons, List.append_assoc] at h
    obtain hfirst | hrest := hr.infix h
    · exact .inl hfirst
    · obtain hpart | ⟨other, hother, hinfix⟩ := ih part hrest
      · exact .inr ⟨part, List.mem_cons_self, hpart⟩
      · exact .inr ⟨other, List.mem_cons_of_mem _ hother, hinfix⟩

section Replace
variable [DecidableEq α]

/-- The parts of a text between the occurrences of a word, found from the left, after `n` letters
that belong to the last one: the first part, and the others. -/
def cut (w : List α) : ℕ → List α → List α × List (List α)
  | _, [] => ([], [])
  | n + 1, _ :: t => cut w n t
  | 0, c :: t =>
    if w <+: c :: t then ([], (cut w (w.length - 1) t).1 :: (cut w (w.length - 1) t).2)
    else (c :: (cut w 0 t).1, (cut w 0 t).2)

/-- `text.replace(word, r)` -/
def replace (w r t : List α) : List α := fill r (cut w 0 t)

variable {w r t : List α}

theorem cut_first_prefix (w : List α) (n : ℕ) (t : List α) : (cut w n t).1 <+: t.drop n := by
  induction t generalizing n with
  | nil => cases n <;> exact List.prefix_rfl
  | cons c t ih =>
    cases n with
    | succ n => exact ih n
    | zero =>
      unfold cut
      split
      · exact List.nil_prefix
      · exact List.cons_prefix_cons.mpr ⟨rfl, ih 0⟩

theorem cut_infix (w : List α) (n : ℕ) (t : List α) :
    (cut w n t).1 <:+: t ∧ ∀ part ∈ (cut w n t).2, part <:+: t := by
  induction t generalizing n with
  | nil =>
    refine ⟨?_, ?_⟩
    · cases n <;> exact List.infix_rfl
    · intro part hpart
      cases n <;> cases hpart
  | cons c t ih =>
    cases n with
    | succ n =>
      obtain ⟨hfirst, hothers⟩ := ih n
      exact ⟨List.infix_cons hfirst, fun part hpart => List.infix_cons (hothers part hpart)⟩
    | zero =>
      unfold cut
      split
      · obtain ⟨hfirst, hothers⟩ := ih (w.length - 1)
        refine ⟨List.nil_infix, ?_⟩
        intro part hpart
        obtain rfl | hpart := List.mem_cons.mp hpart
        · exact List.infix_cons hfirst
        · exact List.infix_cons (hothers part hpart)
      · obtain ⟨-, hothers⟩ := ih 0
        refine ⟨?_, fun part hpart => List.infix_cons (hothers part hpart)⟩
        exact (List.cons_prefix_cons.mpr ⟨rfl, cut_first_prefix w 0 t⟩).isInfix

/-- No part holds the word. -/
theorem cut_free (hw : w ≠ []) (n : ℕ) (t : List α) :
    ¬w <:+: (cut w n t).1 ∧ ∀ part ∈ (cut w n t).2, ¬w <:+: part := by
  induction t generalizing n with
  | nil =>
    refine ⟨?_, ?_⟩
    · intro h
      apply hw
      cases n <;> exact List.infix_nil.mp h
    · intro part hpart
      cases n <;> cases hpart
  | cons c t ih =>
    cases n with
    | succ n => exact ih n
    | zero =>
      unfold cut
      split
      · obtain ⟨hfirst, hothers⟩ := ih (w.length - 1)
        refine ⟨fun h => hw (List.infix_nil.mp h), ?_⟩
        intro part hpart
        obtain rfl | hpart := List.mem_cons.mp hpart
        · exact hfirst
        · exact hothers part hpart
      · next hno =>
        obtain ⟨hfirst, hothers⟩ := ih 0
        refine ⟨?_, hothers⟩
        intro h
        obtain hhead | hinfix := List.infix_cons_iff.mp h
        · have hwhole : c :: (cut w 0 t).1 <+: c :: t :=
            List.cons_prefix_cons.mpr ⟨rfl, cut_first_prefix w 0 t⟩
          exact hno (hhead.trans hwhole)
        · exact hfirst hinfix

/-- A replaced word is gone. -/
theorem not_infix_replace (hw : w ≠ []) (hr : Fenced w r) : ¬w <:+: replace w r t := by
  intro h
  obtain ⟨hfirst, hothers⟩ := cut_free hw 0 t
  obtain hinfix | ⟨part, hpart, hinfix⟩ := infix_of_fill hr h
  · exact hfirst hinfix
  · exact hothers part hpart hinfix

/-- A word that is not there does not come about. -/
theorem infix_of_replace {v : List α} (hr : Fenced v r) (h : v <:+: replace w r t) : v <:+: t := by
  obtain ⟨hfirst, hothers⟩ := cut_infix w 0 t
  obtain hinfix | ⟨part, hpart, hinfix⟩ := infix_of_fill hr h
  · exact hinfix.trans hfirst
  · exact hinfix.trans (hothers part hpart)

end Replace

/-! ### The matches of a pattern -/

/-- A pattern that keeps the first group of a match: for each match what is kept up to the end of
the group, and what is dropped; and the rest of the text. -/
structure Pattern (α : Type) where
  find : List α → List (List α × List α) × List α
  join : ∀ t, ((find t).1.flatMap fun m => m.1 ++ m.2) ++ (find t).2 = t

/-- `pattern.sub(r"\\1" + r, text)` -/
def Pattern.sub (p : Pattern α) (r t : List α) : List α :=
  ((p.find t).1.flatMap fun m => m.1 ++ r) ++ (p.find t).2

theorem Pattern.infix_of_sub (p : Pattern α) {v r t : List α} (hr : Fenced v r)
    (h : v <:+: p.sub r t) : v <:+: t := by
  have hall : ∀ (found : List (List α × List α)) (rest : List α),
      v <:+: (found.flatMap fun m => m.1 ++ r) ++ rest →
        v <:+: (found.flatMap fun m => m.1 ++ m.2) ++ rest := by
    intro found rest
    induction found with
    | nil => exact id
    | cons m found ih =>
      intro hsub
      rw [List.flatMap_cons, List.append_assoc, List.append_assoc] at hsub
      rw [List.flatMap_cons, List.append_assoc, List.append_assoc]
      obtain hkept | hrest := hr.infix hsub
      · exact hkept.trans (List.infix_append [] m.1 _)
      · refine (ih hrest).trans ?_
        exact ⟨m.1 ++ m.2, [], by simp⟩
  have hfound := hall _ _ h
  rwa [p.join] at hfound

end Substitution
