import Mathlib.Data.List.Infix

/-! A log to which events are added at the end: what holds of every event with the events before
it, and the last event of one kind. -/
namespace History
variable {α β : Type}

/-- Every event of the log is allowed after the events before it. -/
def Lawful (allowed : List α → α → Prop) (log : List α) : Prop :=
  ∀ past e, past ++ [e] <+: log → allowed past e

section lawful
variable {allowed : List α → α → Prop} {log : List α} {e : α}

theorem Lawful.nil : Lawful allowed [] := by
  intro past e h
  have hnil := List.prefix_nil.mp h
  simp at hnil

theorem Lawful.concat (h : Lawful allowed log) (he : allowed log e) :
    Lawful allowed (log ++ [e]) := by
  intro past e' hprefix
  rcases List.prefix_concat_iff.mp hprefix with hlast | hearlier
  · obtain ⟨rfl, hsame⟩ := List.append_inj' hlast rfl
    cases hsame
    exact he
  · exact h past e' hearlier

/-- An event of the log has a place in it. -/
theorem exists_past (he : e ∈ log) : ∃ past, past ++ [e] <+: log := by
  obtain ⟨past, later, rfl⟩ := List.append_of_mem he
  exact ⟨past, later, by simp⟩

end lawful

/-- The last mark of a log. -/
def latest (mark : α → Option β) (log : List α) : Option β := (log.filterMap mark).getLast?

variable {mark : α → Option β} {log : List α} {e : α} {m : β}

theorem latest_mark (h : mark e = some m) : latest mark (log ++ [e]) = some m := by
  simp [latest, h]

theorem latest_other (h : mark e = none) : latest mark (log ++ [e]) = latest mark log := by
  simp [latest, h]

end History
