import SpotSidecar.Json.Read

/-! Whatever `loads` reads, no object of it has a key twice. -/
namespace Json
variable {F : Type} {floats : FloatFormat F}

theorem mem_setMember {k : Text} {v : Json F} {d : Members F} {m : Text × Json F}
    (h : m ∈ setMember k v d) : m = (k, v) ∨ m ∈ d := by
  induction d with
  | nil => exact .inl (List.mem_singleton.mp h)
  | cons m' d ih =>
    rw [setMember] at h
    split at h
    · rcases List.mem_cons.mp h with rfl | hlater
      · exact .inl rfl
      · exact .inr (List.mem_cons_of_mem m' hlater)
    · rcases List.mem_cons.mp h with rfl | hlater
      · exact .inr List.mem_cons_self
      · exact (ih hlater).imp_right (List.mem_cons_of_mem m')

theorem distinct_setMember {k : Text} {v : Json F} {d : Members F} (hv : Distinct v)
    (h : Distinct (.obj d)) : Distinct (.obj (setMember k v d)) := by
  rw [distinct_obj] at h ⊢
  obtain ⟨hkeys, hvalues⟩ := h
  constructor
  · clear hvalues
    induction d with
    | nil => simp [setMember]
    | cons m d ih =>
      rw [List.map_cons, List.nodup_cons] at hkeys
      rw [setMember]
      split
      · next hk =>
        rw [List.map_cons, List.nodup_cons, ← hk]
        exact hkeys
      · next hk =>
        rw [List.map_cons, List.nodup_cons]
        refine ⟨?_, ih hkeys.2⟩
        intro hmem
        obtain ⟨m', hm', hsame⟩ := List.mem_map.mp hmem
        rcases mem_setMember hm' with rfl | hold
        · exact hk hsame.symm
        · exact hkeys.1 (List.mem_map.mpr ⟨m', hold, hsame⟩)
  · intro m hm
    rcases mem_setMember hm with rfl | hold
    · exact hv
    · exact hvalues m hold

theorem distinct_toDict {ms : Members F} (h : DistinctMembers ms) :
    Distinct (.obj (toDict ms)) := by
  rw [distinctMembers_iff] at h
  apply List.foldlRecOn (motive := fun d => Distinct (.obj d)) ms
  · rw [distinct_obj]
    simp
  · intro d hd m hm
    exact distinct_setMember (h m hm) hd

/-- With fuel `n`, the reader gives only values of which no object has a key twice. -/
structure ReadsDistinct (floats : FloatFormat F) (n : ℕ) : Prop where
  value : ∀ {cs v rest}, value floats n cs = some (v, rest) → Distinct v
  items : ∀ {cs vs rest}, items floats n cs = some (vs, rest) → DistinctItems vs
  members : ∀ {cs ms rest}, members floats n cs = some (ms, rest) → DistinctMembers ms

theorem distinct_literal {cs rest : List Char} {v : Json F} (h : literal cs = some (v, rest)) :
    Distinct v := by
  unfold literal at h
  split at h
  all_goals cases h <;> trivial

theorem distinct_number {cs rest : List Char} {v : Json F}
    (h : number floats cs = some (v, rest)) : Distinct v := by
  obtain ⟨w, hw, hsame⟩ := Option.map_eq_some_iff.mp h
  cases hsame
  unfold numberOf at hw
  split at hw
  · cases hw
    trivial
  · split at hw
    · cases hw
      trivial
    · cases hw

section step
variable {n : ℕ} (h : ReadsDistinct floats n)
include h

theorem ReadsDistinct.step_value {cs rest : List Char} {v : Json F}
    (hread : Json.value floats (n + 1) cs = some (v, rest)) : Distinct v := by
  cases cs with
  | nil => cases hread
  | cons c cs =>
    unfold Json.value at hread
    split at hread
    · obtain ⟨⟨s, rest'⟩, -, hread⟩ := Option.bind_eq_some_iff.mp hread
      cases hread
      trivial
    · split at hread
      · split at hread
        · cases hread
          trivial
        · obtain ⟨⟨vs, rest'⟩, hvs, hread⟩ := Option.bind_eq_some_iff.mp hread
          cases hread
          exact h.items hvs
      · split at hread
        · split at hread
          · cases hread
            exact ⟨List.nodup_nil, trivial⟩
          · obtain ⟨⟨ms, rest'⟩, hms, hread⟩ := Option.bind_eq_some_iff.mp hread
            cases hread
            exact distinct_toDict (h.members hms)
        · split at hread
          · next r hnumber =>
            cases hread
            exact distinct_number hnumber
          · exact distinct_literal hread

theorem ReadsDistinct.step_items {cs rest : List Char} {vs : List (Json F)}
    (hread : Json.items floats (n + 1) cs = some (vs, rest)) : DistinctItems vs := by
  unfold Json.items at hread
  obtain ⟨⟨v, cs⟩, hv, hread⟩ := Option.bind_eq_some_iff.mp hread
  have hfirst := h.value hv
  dsimp only at hread
  split at hread
  · obtain ⟨⟨vs', rest'⟩, hvs, hread⟩ := Option.bind_eq_some_iff.mp hread
    cases hread
    exact ⟨hfirst, h.items hvs⟩
  · cases hread
    exact ⟨hfirst, trivial⟩
  · cases hread

theorem ReadsDistinct.step_members {cs rest : List Char} {ms : Members F}
    (hread : Json.members floats (n + 1) cs = some (ms, rest)) : DistinctMembers ms := by
  cases cs with
  | nil => cases hread
  | cons c cs =>
    unfold Json.members at hread
    split at hread
    · obtain ⟨⟨k, cs⟩, -, hread⟩ := Option.bind_eq_some_iff.mp hread
      dsimp only at hread
      split at hread
      · obtain ⟨⟨v, cs⟩, hv, hread⟩ := Option.bind_eq_some_iff.mp hread
        have hfirst := h.value hv
        dsimp only at hread
        split at hread
        · obtain ⟨⟨ms', rest'⟩, hms, hread⟩ := Option.bind_eq_some_iff.mp hread
          cases hread
          exact ⟨hfirst, h.members hms⟩
        · cases hread
          exact ⟨hfirst, trivial⟩
        · cases hread
      · cases hread
    · cases hread

end step

theorem readsDistinct (n : ℕ) : ReadsDistinct floats n := by
  induction n with
  | zero => constructor <;> intro cs _ _ hread <;> cases hread
  | succ n ih =>
    constructor
    · exact ih.step_value
    · exact ih.step_items
    · exact ih.step_members

/-- Whatever is read, no object of it has a key twice. -/
theorem distinct_loads {text : List Char} {v : Json F} (h : loads floats text = some v) :
    Distinct v := by
  unfold loads at h
  split at h
  · next hread =>
    split at h
    · cases h
      exact (readsDistinct _).value hread
    · cases h
  · cases h

end Json
