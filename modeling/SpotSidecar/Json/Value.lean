import SpotSidecar.Json.Text

/-! The values of JSON over a type `F` of finite floats, and when two are equal as JSON. -/

/-- A float: a finite one, or one of the three that JSON has no number for. -/
inductive Double (F : Type)
  | finite (x : F)
  | nan
  | infinity (negative : Bool)
  deriving DecidableEq

def Double.finite? {F : Type} : Double F → Option F
  | .finite x => some x
  | .nan | .infinity _ => none

inductive Json (F : Type)
  | null
  | bool (b : Bool)
  | int (n : ℤ)
  | float (x : Double F)
  | str (s : Json.Text)
  | arr (items : List (Json F))
  | obj (members : List (Json.Text × Json F))

namespace Json
variable {F : Type}

abbrev Members (F : Type) := List (Text × Json F)

def isStr (s : Text) : Json F → Bool
  | .str t => t = s
  | _ => false

/-! The value with the members of every object in key order. -/
mutual

def ordered : Json F → Json F
  | .arr items => .arr (orderedItems items)
  | .obj members => .obj (sortKeys (orderedMembers members))
  | .null => .null
  | .bool b => .bool b
  | .int n => .int n
  | .float x => .float x
  | .str s => .str s

def orderedItems : List (Json F) → List (Json F)
  | [] => []
  | v :: vs => ordered v :: orderedItems vs

def orderedMembers : Members F → Members F
  | [] => []
  | (k, v) :: ms => (k, ordered v) :: orderedMembers ms

end

theorem orderedItems_eq (vs : List (Json F)) : orderedItems vs = vs.map ordered := by
  induction vs with
  | nil => rfl
  | cons v vs ih => simp [orderedItems, ih]

theorem orderedMembers_eq (ms : Members F) : orderedMembers ms = ms.map (Prod.map id ordered) := by
  induction ms with
  | nil => rfl
  | cons m ms ih => simp [orderedMembers, ih, Prod.map]

/-! No object has a key twice. -/
mutual

def Distinct : Json F → Prop
  | .arr items => DistinctItems items
  | .obj members => (members.map Prod.fst).Nodup ∧ DistinctMembers members
  | .null | .bool _ | .int _ | .float _ | .str _ => True

def DistinctItems : List (Json F) → Prop
  | [] => True
  | v :: vs => Distinct v ∧ DistinctItems vs

def DistinctMembers : Members F → Prop
  | [] => True
  | (_, v) :: ms => Distinct v ∧ DistinctMembers ms

end

theorem distinctItems_iff (vs : List (Json F)) : DistinctItems vs ↔ ∀ v ∈ vs, Distinct v := by
  induction vs with
  | nil => simp [DistinctItems]
  | cons v vs ih => simp [DistinctItems, ih]

theorem distinctMembers_iff (ms : Members F) : DistinctMembers ms ↔ ∀ m ∈ ms, Distinct m.2 := by
  induction ms with
  | nil => simp [DistinctMembers]
  | cons m ms ih => simp [DistinctMembers, ih]

theorem map_fst_orderedMembers (ms : Members F) :
    (orderedMembers ms).map Prod.fst = ms.map Prod.fst := by
  rw [orderedMembers_eq, List.map_map]
  rfl

theorem distinct_obj {ms : Members F} :
    Distinct (.obj ms) ↔ (ms.map Prod.fst).Nodup ∧ ∀ m ∈ ms, Distinct m.2 := by
  rw [Distinct, distinctMembers_iff]

theorem distinct_obj_perm {ms ns : Members F} (h : ms.Perm ns) :
    Distinct (.obj ms) ↔ Distinct (.obj ns) := by
  rw [distinct_obj, distinct_obj, (h.map Prod.fst).nodup_iff]
  apply and_congr_right
  intro _
  constructor
  · intro hall m hm
    exact hall m (h.mem_iff.mpr hm)
  · intro hall m hm
    exact hall m (h.mem_iff.mp hm)

mutual

theorem distinct_ordered : ∀ v : Json F, Distinct (ordered v) ↔ Distinct v
  | .arr items => distinct_orderedItems items
  | .obj members => by
    rw [ordered, distinct_obj_perm (sortKeys_perm _), Distinct, Distinct, map_fst_orderedMembers,
      distinct_orderedMembers members]
  | .null | .bool _ | .int _ | .float _ | .str _ => Iff.rfl

theorem distinct_orderedItems :
    ∀ vs : List (Json F), DistinctItems (orderedItems vs) ↔ DistinctItems vs
  | [] => Iff.rfl
  | v :: vs => and_congr (distinct_ordered v) (distinct_orderedItems vs)

theorem distinct_orderedMembers :
    ∀ ms : Members F, DistinctMembers (orderedMembers ms) ↔ DistinctMembers ms
  | [] => Iff.rfl
  | (_, v) :: ms => and_congr (distinct_ordered v) (distinct_orderedMembers ms)

end

/-- Equality as JSON: equal up to the order of the members of objects. -/
def Same (v w : Json F) : Prop := ordered v = ordered w

namespace Same
variable {v w x : Json F}

theorem refl (v : Json F) : Same v v := Eq.refl (ordered v)

theorem symm (h : Same v w) : Same w v := Eq.symm h

theorem distinct (h : Same v w) (hv : Distinct v) : Distinct w := by
  have hsame : ordered v = ordered w := h
  rwa [← distinct_ordered, ← hsame, distinct_ordered]

end Same

theorem sortKeys_sortKeys (ms : Members F) : sortKeys (sortKeys ms) = sortKeys ms :=
  (List.pairwise_insertionSort KeyLe ms).insertionSort_eq

mutual

theorem ordered_ordered : ∀ v : Json F, ordered (ordered v) = ordered v
  | .arr items => congrArg Json.arr (orderedItems_orderedItems items)
  | .obj members => by
    have hinner := orderedMembers_orderedMembers members
    simp only [orderedMembers_eq] at hinner
    simp only [ordered, orderedMembers_eq]
    rw [← sortKeys_map, sortKeys_sortKeys, sortKeys_map, ← sortKeys_map, hinner]
  | .null | .bool _ | .int _ | .float _ | .str _ => rfl

theorem orderedItems_orderedItems :
    ∀ vs : List (Json F), orderedItems (orderedItems vs) = orderedItems vs
  | [] => rfl
  | v :: vs => congrArg₂ List.cons (ordered_ordered v) (orderedItems_orderedItems vs)

theorem orderedMembers_orderedMembers :
    ∀ ms : Members F, orderedMembers (orderedMembers ms) = orderedMembers ms
  | [] => rfl
  | (k, v) :: ms =>
    congrArg₂ List.cons (congrArg (Prod.mk k) (ordered_ordered v))
      (orderedMembers_orderedMembers ms)

end

/-- A value with no values in it. -/
def isScalar : Json F → Bool
  | .arr _ | .obj _ => false
  | .null | .bool _ | .int _ | .float _ | .str _ => true

theorem Same.eq_of_scalar {v w : Json F} (h : Same v w) (hv : isScalar v = true) : w = v := by
  have hv' : ordered v = v := by
    cases v with
    | arr | obj => cases hv
    | null | bool | int | float | str => rfl
  have hw : ordered w = v := by
    rw [← hv']
    exact Eq.symm h
  cases w with
  | arr items =>
    rw [← hw] at hv
    cases hv
  | obj members =>
    rw [← hw] at hv
    cases hv
  | null | bool | int | float | str => exact hw

theorem same_ordered (v : Json F) : Same (ordered v) v := ordered_ordered v

/-! Objects that are equal as JSON, member by member. -/
section Members
variable {ms ns : Members F} {k : Text} {v : Json F}

theorem Same.exists_obj {w : Json F} (h : Same (.obj ms) w) : ∃ ns, w = .obj ns := by
  cases w with
  | obj ns => exact ⟨ns, rfl⟩
  | null | bool | int | float | str | arr => cases h

theorem Same.perm (h : Same (.obj ms) (.obj ns)) :
    (orderedMembers ms).Perm (orderedMembers ns) := by
  have hsorted : sortKeys (orderedMembers ms) = sortKeys (orderedMembers ns) := Json.obj.inj h
  have hms := sortKeys_perm (orderedMembers ms)
  rw [hsorted] at hms
  exact hms.symm.trans (sortKeys_perm _)

theorem same_of_perm (hkeys : (ms.map Prod.fst).Nodup)
    (h : (orderedMembers ms).Perm (orderedMembers ns)) : Same (.obj ms) (.obj ns) := by
  apply congrArg Json.obj
  apply sortKeys_eq_of_perm ?_ h
  rwa [map_fst_orderedMembers]

theorem Same.mem (h : Same (.obj ms) (.obj ns)) (hmem : (k, v) ∈ ms) :
    ∃ w, (k, w) ∈ ns ∧ Same v w := by
  have hordered : (k, ordered v) ∈ orderedMembers ms := by
    rw [orderedMembers_eq]
    exact List.mem_map_of_mem hmem
  have hother := h.perm.mem_iff.mp hordered
  rw [orderedMembers_eq, List.mem_map] at hother
  obtain ⟨⟨k', w⟩, hw, heq⟩ := hother
  obtain ⟨rfl, hsame⟩ := Prod.mk.inj heq
  exact ⟨w, hw, hsame.symm⟩

theorem lookup_of_mem (hkeys : (ms.map Prod.fst).Nodup) (h : (k, v) ∈ ms) :
    ms.lookup k = some v := by
  induction ms with
  | nil => cases h
  | cons m ms ih =>
    rw [List.map_cons, List.nodup_cons] at hkeys
    rcases List.mem_cons.mp h with rfl | htail
    · exact List.lookup_cons_self
    · have hne : (k == m.1) = false := by
        rw [beq_eq_false_iff_ne]
        intro hk
        exact hkeys.1 (hk ▸ List.mem_map_of_mem (f := Prod.fst) htail)
      rw [List.lookup_cons, hne]
      exact ih hkeys.2 htail

theorem mem_of_lookup (h : ms.lookup k = some v) : (k, v) ∈ ms := by
  obtain ⟨before, after, hms, -⟩ := List.lookup_eq_some_iff.mp h
  rw [hms]
  simp

theorem Same.lookup_scalar (h : Same (.obj ms) (.obj ns)) (hns : (ns.map Prod.fst).Nodup)
    (hmem : (k, v) ∈ ms) (hv : isScalar v = true) : ns.lookup k = some v := by
  obtain ⟨w, hw, hsame⟩ := h.mem hmem
  rw [← hsame.eq_of_scalar hv]
  exact lookup_of_mem hns hw

theorem orderedMembers_filter (p : Text → Bool) (ms : Members F) :
    orderedMembers (ms.filter fun m => p m.1) = (orderedMembers ms).filter fun m => p m.1 := by
  rw [orderedMembers_eq, orderedMembers_eq, List.filter_map]
  rfl

theorem Same.filter (p : Text → Bool) (h : Same (.obj ms) (.obj ns))
    (hkeys : (ms.map Prod.fst).Nodup) :
    Same (.obj (ms.filter fun m => p m.1)) (.obj (ns.filter fun m => p m.1)) := by
  apply same_of_perm
  · exact hkeys.sublist ((List.filter_sublist).map Prod.fst)
  · rw [orderedMembers_filter, orderedMembers_filter]
    exact h.perm.filter _

end Members
end Json
