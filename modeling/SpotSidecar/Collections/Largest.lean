import Mathlib.Algebra.BigOperators.Group.Finset.Basic
import Mathlib.Data.Finset.Dedup
import Mathlib.Data.List.Dedup

/-! Keeping the largest entry of every key, as a dictionary that is updated entry by entry. -/
namespace Largest
variable {α κ ρ : Type} [DecidableEq κ] [LinearOrder ρ] (key : α → κ) (rank : α → ρ)

/-- Assign an entry to its key, unless a larger one is there. Keys stay in the order of their first
assignment. -/
def keep (kept : List α) (a : α) : List α :=
  if kept.any (fun b => key b = key a) then
    kept.map fun b => if key b = key a ∧ rank b ≤ rank a then a else b
  else kept ++ [a]

def largest (l : List α) : List α := l.foldl (keep key rank) []

/-- `kept` has one entry of `l` for each key of `l`, and none of its key is larger. -/
structure Of (l kept : List α) : Prop where
  nodup : (kept.map key).Nodup
  mem : ∀ b ∈ kept, b ∈ l
  covers : ∀ a ∈ l, ∃ b ∈ kept, key b = key a ∧ rank a ≤ rank b

variable {key rank}

theorem Of.keep {l kept : List α} (h : Of key rank l kept) (a : α) :
    Of key rank (l ++ [a]) (keep key rank kept a) := by
  unfold Largest.keep
  split
  · next hany =>
    have hkey : ∀ b, key (if key b = key a ∧ rank b ≤ rank a then a else b) = key b := by
      intro b
      split
      · next hb => exact hb.1.symm
      · rfl
    constructor
    · rw [List.map_map]
      have : key ∘ (fun b => if key b = key a ∧ rank b ≤ rank a then a else b) = key := funext hkey
      rw [this]
      exact h.nodup
    · intro c hc
      obtain ⟨b, hb, rfl⟩ := List.mem_map.mp hc
      split
      · simp
      · exact List.mem_append_left _ (h.mem b hb)
    · intro c hc
      obtain ⟨b, hb, hbc, hrank⟩ : ∃ b ∈ kept, key b = key c ∧ (rank c ≤ rank b ∨ c = a) := by
        obtain hc | hc := List.mem_append.mp hc
        · obtain ⟨b, hb, hbc, hrank⟩ := h.covers c hc
          exact ⟨b, hb, hbc, .inl hrank⟩
        · obtain ⟨b, hb, hba⟩ := List.any_eq_true.mp hany
          cases List.mem_singleton.mp hc
          exact ⟨b, hb, by simpa using hba, .inr rfl⟩
      refine ⟨_, List.mem_map_of_mem hb, (hkey b).trans hbc, ?_⟩
      split
      · next hb =>
        obtain hrank | rfl := hrank
        · exact hrank.trans hb.2
        · exact le_rfl
      · next hb =>
        obtain hrank | rfl := hrank
        · exact hrank
        · exact (le_total (rank b) (rank c)).resolve_left fun hle => hb ⟨hbc, hle⟩
  · next hany =>
    have hnew : ∀ b ∈ kept, key b ≠ key a := by simpa using hany
    constructor
    · rw [List.map_append]
      apply List.Nodup.append h.nodup (List.nodup_singleton _)
      intro k hk hka
      obtain ⟨b, hb, rfl⟩ := List.mem_map.mp hk
      exact hnew b hb (by simpa using hka)
    · intro c hc
      obtain hc | hc := List.mem_append.mp hc
      · exact List.mem_append_left _ (h.mem c hc)
      · exact List.mem_append_right _ hc
    · intro c hc
      obtain hc | hc := List.mem_append.mp hc
      · obtain ⟨b, hb, hbc, hrank⟩ := h.covers c hc
        exact ⟨b, List.mem_append_left _ hb, hbc, hrank⟩
      · exact ⟨c, List.mem_append_right _ hc, rfl, le_rfl⟩

theorem of_foldl (rest : List α) {l kept : List α} (h : Of key rank l kept) :
    Of key rank (l ++ rest) (rest.foldl (Largest.keep key rank) kept) := by
  induction rest generalizing l kept with
  | nil =>
    rw [List.append_nil]
    exact h
  | cons a rest ih => simpa using ih (h.keep a)

theorem of_largest (l : List α) : Of key rank l (largest key rank l) := by
  have hnil : Of key rank [] [] := by
    constructor <;> simp
  exact of_foldl l hnil

omit [DecidableEq κ] in
theorem Of.inj {l kept : List α} (h : Of key rank l kept) {b c : α} (hb : b ∈ kept) (hc : c ∈ kept)
    (hkey : key b = key c) : b = c :=
  List.inj_on_of_nodup_map h.nodup hb hc hkey

section values
variable {β : Type} {value : α → β} {l l' kept kept' : List α}

/-- The value of an entry is determined by its key and its rank. -/
def Determined (key : α → κ) (rank : α → ρ) (value : α → β) (l : List α) : Prop :=
  ∀ a ∈ l, ∀ b ∈ l, key a = key b → rank a = rank b → value a = value b

omit [DecidableEq κ] in
/-- The kept values depend on which entries there are, not on their order or number. -/
theorem Of.perm (h : Of key rank l kept) (h' : Of key rank l' kept')
    (hmem : ∀ a, a ∈ l ↔ a ∈ l') (hvalue : Determined key rank value l) :
    (kept.map fun b => (key b, rank b, value b)).Perm
      (kept'.map fun b => (key b, rank b, value b)) := by
  have hsub : ∀ {l l' kept kept' : List α}, Of key rank l kept → Of key rank l' kept' →
      (∀ a, a ∈ l ↔ a ∈ l') → Determined key rank value l →
      ∀ b ∈ kept, ∃ c ∈ kept', (key b, rank b, value b) = (key c, rank c, value c) := by
    intro l l' kept kept' h h' hmem hvalue b hb
    obtain ⟨c, hc, hcb, hbc⟩ := h'.covers b ((hmem b).mp (h.mem b hb))
    have hcl : c ∈ l := (hmem c).mpr (h'.mem c hc)
    obtain ⟨d, hd, hdc, hcd⟩ := h.covers c hcl
    obtain rfl := h.inj hd hb (hdc.trans hcb)
    have hrank : rank d = rank c := le_antisymm hbc hcd
    refine ⟨c, hc, ?_⟩
    rw [hcb, hrank, hvalue d (h.mem d hd) c hcl hcb.symm hrank]
  have hnodup : ∀ {l kept : List α}, Of key rank l kept →
      (kept.map fun b => (key b, rank b, value b)).Nodup := by
    intro l kept h
    apply List.Nodup.of_map Prod.fst
    rw [List.map_map]
    exact h.nodup
  rw [List.perm_ext_iff_of_nodup (hnodup h) (hnodup h')]
  have hvalue' : Determined key rank value l' := fun a ha b hb =>
    hvalue a ((hmem a).mpr ha) b ((hmem b).mpr hb)
  intro t
  constructor
  · intro ht
    obtain ⟨b, hb, rfl⟩ := List.mem_map.mp ht
    obtain ⟨c, hc, heq⟩ := hsub h h' hmem hvalue b hb
    exact List.mem_map.mpr ⟨c, hc, heq.symm⟩
  · intro ht
    obtain ⟨b, hb, rfl⟩ := List.mem_map.mp ht
    obtain ⟨c, hc, heq⟩ := hsub h' h (fun a => (hmem a).symm) hvalue' b hb
    exact List.mem_map.mpr ⟨c, hc, heq.symm⟩

end values

/-- What a key has in the end: the value of a largest entry, and zero where there is none. -/
def Final {β : Type} [Zero β] (key : α → κ) (rank : α → ρ) (value : α → β) (l : List α) (k : κ)
    (v : β) : Prop :=
  ((∀ a ∈ l, key a ≠ k) ∧ v = 0) ∨
    ∃ a ∈ l, key a = k ∧ v = value a ∧ ∀ b ∈ l, key b = k → rank b ≤ rank a

/-- The sum over the kept entries is the sum of what the keys have in the end. -/
theorem Of.sum {β : Type} [AddCommMonoid β] {value : α → β} {l kept : List α}
    (h : Of key rank l kept) (hvalue : Determined key rank value l) {keys : Finset κ}
    (hkeys : ∀ a ∈ l, key a ∈ keys) {final : κ → β}
    (hfinal : ∀ k ∈ keys, Final key rank value l k (final k)) :
    (kept.map value).sum = ∑ k ∈ keys, final k := by
  have hkept : ∀ b ∈ kept, value b = final (key b) := by
    intro b hb
    obtain ⟨hnone, -⟩ | ⟨a, ha, hab, hv, hmax⟩ := hfinal (key b) (hkeys b (h.mem b hb))
    · exact absurd rfl (hnone b (h.mem b hb))
    · obtain ⟨c, hc, hca, hac⟩ := h.covers a ha
      obtain rfl := h.inj hc hb (hca.trans hab)
      rw [hv]
      exact hvalue c (h.mem c hc) a ha hca (le_antisymm (hmax c (h.mem c hc) rfl) hac)
  calc (kept.map value).sum = (kept.map (final ∘ key)).sum := by
        rw [List.map_congr_left hkept]
        rfl
    _ = ∑ k ∈ (kept.map key).toFinset, final k := by
        rw [List.sum_toFinset _ h.nodup, List.map_map]
    _ = ∑ k ∈ keys, final k := by
        apply Finset.sum_subset
        · intro k hk
          obtain ⟨b, hb, rfl⟩ := List.mem_map.mp (List.mem_toFinset.mp hk)
          exact hkeys b (h.mem b hb)
        · intro k hk hno
          obtain ⟨-, hzero⟩ | ⟨a, ha, hak, -, -⟩ := hfinal k hk
          · exact hzero
          · obtain ⟨b, hb, hba, -⟩ := h.covers a ha
            apply absurd _ hno
            exact List.mem_toFinset.mpr (List.mem_map.mpr ⟨b, hb, hba.trans hak⟩)

end Largest
