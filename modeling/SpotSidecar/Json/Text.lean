import Mathlib.Data.List.Sort
import Mathlib.Data.List.Lex

/-! The strings of JSON, and their order by code points. A string of JSON is what its escapes can
write, a list of UTF-16 code units in which a surrogate may stand alone. -/
namespace Json

abbrev CodeUnit := Fin 65536

abbrev Text := List CodeUnit

def CodeUnit.ofNat (n : ℕ) : CodeUnit := ⟨n % 65536, Nat.mod_lt n (by decide)⟩

@[simp] theorem CodeUnit.ofNat_val (u : CodeUnit) : CodeUnit.ofNat u.val = u :=
  Fin.ext (Nat.mod_eq_of_lt u.isLt)

namespace Text

def isHigh (u : CodeUnit) : Bool := 0xD800 ≤ u.val && u.val < 0xDC00

def isLow (u : CodeUnit) : Bool := 0xDC00 ≤ u.val && u.val < 0xE000

/-- The code points: a high surrogate and the low one after it are one point. -/
def points : Text → List ℕ
  | [] => []
  | [u] => [u.val]
  | u :: w :: rest =>
    if isHigh u && isLow w then
      (0x10000 + (u.val - 0xD800) * 0x400 + (w.val - 0xDC00)) :: points rest
    else u.val :: points (w :: rest)

def unitsOfPoint (p : ℕ) : List ℕ :=
  if p < 0x10000 then [p]
  else [0xD800 + (p - 0x10000) / 0x400, 0xDC00 + (p - 0x10000) % 0x400]

theorem unitsOfPoint_val (u : CodeUnit) : unitsOfPoint u.val = [u.val] := by
  simp [unitsOfPoint]

theorem unitsOfPoint_pair {u w : CodeUnit} (hu : isHigh u = true) (hw : isLow w = true) :
    unitsOfPoint (0x10000 + (u.val - 0xD800) * 0x400 + (w.val - 0xDC00)) = [u.val, w.val] := by
  simp only [isHigh, isLow, Bool.and_eq_true, decide_eq_true_eq] at hu hw
  have hlarge : ¬ 0x10000 + (u.val - 0xD800) * 0x400 + (w.val - 0xDC00) < 0x10000 := by omega
  simp only [unitsOfPoint, if_neg hlarge, List.cons.injEq, and_true]
  omega

theorem flatMap_points (s : Text) : (points s).flatMap unitsOfPoint = s.map Fin.val := by
  induction s using points.induct with
  | case1 => rfl
  | case2 u => simp [points, unitsOfPoint_val]
  | case3 u w rest hpair ih =>
    have hboth := hpair
    rw [Bool.and_eq_true] at hboth
    rw [points, if_pos hpair, List.flatMap_cons, unitsOfPoint_pair hboth.1 hboth.2, ih]
    rfl
  | case4 u w rest hpair ih =>
    rw [points, if_neg hpair, List.flatMap_cons, unitsOfPoint_val, ih]
    rfl

theorem points_inj {s t : Text} (h : points s = points t) : s = t := by
  have hmap : s.map Fin.val = t.map Fin.val := by rw [← flatMap_points, ← flatMap_points, h]
  exact List.map_injective_iff.mpr Fin.val_injective hmap

/-- The units of a character. -/
def ofChar (c : Char) : Text := (unitsOfPoint c.toNat).map CodeUnit.ofNat

def ofString (s : String) : Text := s.toList.flatMap ofChar

def ofChars (cs : List Char) : Text := ofString (String.ofList cs)

end Text

/-! The members of an object in the order of their keys. -/
section Sorting
variable {α β : Type}

def KeyLe (a b : Text × α) : Prop := Text.points a.1 ≤ Text.points b.1

instance : DecidableRel (KeyLe (α := α)) := fun a b =>
  inferInstanceAs (Decidable (Text.points a.1 ≤ Text.points b.1))

instance : Std.Total (KeyLe (α := α)) := ⟨fun a b => le_total (Text.points a.1) (Text.points b.1)⟩

instance : IsTrans (Text × α) KeyLe := ⟨fun _ _ _ => le_trans⟩

def sortKeys (members : List (Text × α)) : List (Text × α) := members.insertionSort KeyLe

theorem sortKeys_perm (members : List (Text × α)) : (sortKeys members).Perm members :=
  List.perm_insertionSort KeyLe members

/-- With no key twice, the order of the members does not show in the sorted list. -/
theorem sortKeys_eq_of_perm {ms ns : List (Text × α)} (hkeys : (ms.map Prod.fst).Nodup)
    (h : ms.Perm ns) : sortKeys ms = sortKeys ns := by
  have hperm : (sortKeys ms).Perm (sortKeys ns) :=
    (sortKeys_perm ms).trans (h.trans (sortKeys_perm ns).symm)
  apply List.Perm.eq_of_pairwise ?_ (List.pairwise_insertionSort KeyLe ms)
    (List.pairwise_insertionSort KeyLe ns) hperm
  intro a b ha hb hab hba
  have hkey : a.1 = b.1 := Text.points_inj (le_antisymm hab hba)
  exact List.inj_on_of_nodup_map hkeys ((sortKeys_perm ms).mem_iff.mp ha)
    (h.mem_iff.mpr ((sortKeys_perm ns).mem_iff.mp hb)) hkey

theorem sortKeys_map (f : α → β) (members : List (Text × α)) :
    sortKeys (members.map (Prod.map id f)) = (sortKeys members).map (Prod.map id f) := by
  refine (List.map_insertionSort KeyLe KeyLe (Prod.map id f) members ?_).symm
  intro a _ b _
  exact Iff.rfl

end Sorting
end Json
