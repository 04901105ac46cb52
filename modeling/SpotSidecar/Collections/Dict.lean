import Mathlib.Data.List.AList

/-! Dictionaries with values of one type, and the part of a dictionary whose values pass a test. -/
abbrev Dict (κ ν : Type) := AList fun _ : κ => ν

namespace Dict
variable {κ ν : Type}

/-- `{k: v for k, v in d.items() if keep(v)}` -/
def filter (keep : ν → Bool) (d : Dict κ ν) : Dict κ ν :=
  ⟨d.entries.filter fun e => keep e.2,
    d.nodupKeys.sublist (List.filter_sublist)⟩

variable [DecidableEq κ] {d : Dict κ ν} {keep : ν → Bool} {k k' : κ} {v : ν}

theorem lookup_filter :
    (d.filter keep).lookup k = some v ↔ d.lookup k = some v ∧ keep v = true := by
  have hfilter : v ∈ (d.filter keep).lookup k ↔ Sigma.mk k v ∈ (d.filter keep).entries :=
    AList.mem_lookup_iff
  have hdict : v ∈ d.lookup k ↔ Sigma.mk k v ∈ d.entries := AList.mem_lookup_iff
  rw [← Option.mem_def, ← Option.mem_def, hfilter, hdict]
  simp [filter]

theorem lookup_erase_some :
    (d.erase k').lookup k = some v ↔ k ≠ k' ∧ d.lookup k = some v := by
  by_cases h : k = k'
  · subst h
    simp
  · rw [AList.lookup_erase_ne h]
    simp [h]

theorem lookup_insert_some {v' : ν} :
    (AList.insert k' v' d).lookup k = some v ↔
      k = k' ∧ v' = v ∨ k ≠ k' ∧ d.lookup k = some v := by
  by_cases h : k = k'
  · subst h
    simp
  · rw [AList.lookup_insert_ne h]
    simp [h]

/-- A dictionary with no value is empty. -/
theorem eq_empty_of_lookup (h : ∀ k, d.lookup k = none) : d = ∅ := by
  apply AList.ext
  show d.entries = []
  rw [List.eq_nil_iff_forall_not_mem]
  intro e he
  have hlookup : e.2 ∈ d.lookup e.1 := AList.mem_lookup_iff.mpr he
  rw [h] at hlookup
  cases hlookup

end Dict
