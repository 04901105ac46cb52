import Mathlib.Data.List.Basic
import Mathlib.Logic.Function.Basic
import Mathlib.Order.Lattice

/-! A directory of files, and what a loss of power may leave of it. Changes of the directory reach
the disk in order; the bytes of a file do when it is synced. -/
namespace Storage
variable {ν β : Type}

/-- The number of the file that stands under each name. -/
abbrev View (ν : Type) := ν → Option ℕ

structure Disk (ν β : Type) where
  data : ℕ → List β
  synced : ℕ → Bool
  names : View ν
  /-- The directories before this one that may still be the one on the disk. -/
  older : List (View ν)
  next : ℕ

namespace Disk

def empty : Disk ν β where
  data := fun _ => []
  synced := fun _ => false
  names := fun _ => none
  older := []
  next := 0

def views (d : Disk ν β) : List (View ν) := d.names :: d.older

def content (d : Disk ν β) (view : View ν) (name : ν) : Option (List β) := (view name).map d.data

def read (d : Disk ν β) (name : ν) : Option (List β) := d.content d.names name

def rebind (d : Disk ν β) (names : View ν) : Disk ν β :=
  { d with names := names, older := d.views }

section Names
variable [DecidableEq ν]

/-- A new empty file. -/
def create (d : Disk ν β) (name : ν) : Disk ν β :=
  { d.rebind (Function.update d.names name (some d.next)) with
    data := Function.update d.data d.next []
    synced := Function.update d.synced d.next false
    next := d.next + 1 }

def rename (d : Disk ν β) (old new : ν) : Disk ν β :=
  match d.names old with
  | none => d
  | some file => d.rebind (Function.update (Function.update d.names old none) new (some file))

def unlink (d : Disk ν β) (name : ν) : Disk ν β := d.rebind (Function.update d.names name none)

end Names

def append (d : Disk ν β) (file : ℕ) (bytes : List β) : Disk ν β :=
  { d with
    data := Function.update d.data file (d.data file ++ bytes)
    synced := Function.update d.synced file false }

def fsync (d : Disk ν β) (file : ℕ) : Disk ν β :=
  { d with synced := Function.update d.synced file true }

def fsyncDirectory (d : Disk ν β) : Disk ν β := { d with older := [] }

/-- A loss of power leaves one of the directories, and of the files that were not synced
anything. -/
def losePower (d : Disk ν β) (view : ℕ) (garbage : ℕ → List β) : Disk ν β where
  data := fun file => if d.synced file then d.data file else garbage file
  synced := fun _ => true
  names := d.views.getD view d.names
  older := []
  next := d.next

/-- In each of the directories the name stands for a synced file or for none. -/
def Settled (d : Disk ν β) (name : ν) : Prop :=
  ∀ view ∈ d.views, ∀ file, view name = some file → d.synced file = true ∧ file < d.next

section Lemmas
variable {d : Disk ν β} {name : ν}

theorem mem_views_names (d : Disk ν β) : d.names ∈ d.views := List.mem_cons_self

theorem mem_views_rebind {names view : View ν} :
    view ∈ (d.rebind names).views ↔ view = names ∨ view ∈ d.views := List.mem_cons

theorem getD_mem_views (d : Disk ν β) (k : ℕ) : d.views.getD k d.names ∈ d.views := by
  rw [List.getD_eq_getElem?_getD]
  cases h : d.views[k]? with
  | none => exact d.mem_views_names
  | some view => exact List.mem_of_getElem? h

theorem content_append {file : ℕ} {bytes : List β} {view : View ν} (hfile : view name ≠ some file) :
    (d.append file bytes).content view name = d.content view name := by
  unfold content
  cases hname : view name with
  | none => rfl
  | some other =>
    have hne : other ≠ file := by
      rintro rfl
      exact hfile hname
    have hdata : (d.append file bytes).data other = d.data other := Function.update_of_ne hne _ _
    rw [Option.map_some, Option.map_some, hdata]

theorem Settled.append (h : d.Settled name) {file : ℕ} {bytes : List β}
    (hfile : ∀ view ∈ d.views, view name ≠ some file) : (d.append file bytes).Settled name := by
  intro view hview other hother
  obtain ⟨hsynced, hlt⟩ := h view hview other hother
  have hne : other ≠ file := by
    rintro rfl
    exact hfile view hview hother
  exact ⟨(Function.update_of_ne hne _ _).trans hsynced, hlt⟩

theorem Settled.fsync (h : d.Settled name) (file : ℕ) : (d.fsync file).Settled name := by
  intro view hview other hother
  obtain ⟨hsynced, hlt⟩ := h view hview other hother
  refine ⟨?_, hlt⟩
  simp only [Disk.fsync, Function.update_apply]
  split
  · rfl
  · exact hsynced

theorem Settled.rebind (h : d.Settled name) {names : View ν}
    (hnew : ∀ file, names name = some file → d.synced file = true ∧ file < d.next) :
    (d.rebind names).Settled name := by
  intro view hview file hfile
  obtain rfl | hview := mem_views_rebind.mp hview
  · exact hnew file hfile
  · exact h view hview file hfile

theorem Settled.create [DecidableEq ν] (h : d.Settled name) {other : ν} (hne : name ≠ other) :
    (d.create other).Settled name := by
  have hall : ∀ file, (d.synced file = true ∧ file < d.next) →
      (d.create other).synced file = true ∧ file < (d.create other).next := by
    rintro file ⟨hsynced, hlt⟩
    have hold : file ≠ d.next := by omega
    exact ⟨(Function.update_of_ne hold _ _).trans hsynced, Nat.lt_succ_of_lt hlt⟩
  intro view hview file hfile
  apply hall
  obtain rfl | hview := mem_views_rebind.mp hview
  · change Function.update d.names other (some d.next) name = some file at hfile
    rw [Function.update_of_ne hne] at hfile
    exact h _ d.mem_views_names file hfile
  · exact h view hview file hfile

theorem Settled.losePower (h : d.Settled name) (k : ℕ) (garbage : ℕ → List β) :
    (d.losePower k garbage).Settled name := by
  intro view hview file hfile
  obtain rfl := List.mem_singleton.mp hview
  exact ⟨rfl, (h _ (d.getD_mem_views k) file hfile).2⟩

/-- Synced files keep their content through a loss of power. -/
theorem Settled.read_losePower (h : d.Settled name) (k : ℕ) (garbage : ℕ → List β) :
    (d.losePower k garbage).read name = d.content (d.views.getD k d.names) name := by
  unfold read content Disk.losePower
  dsimp only
  cases hname : d.views.getD k d.names name with
  | none => rfl
  | some file =>
    have hsynced := (h _ (d.getD_mem_views k) file hname).1
    rw [Option.map_some, Option.map_some, hsynced, if_pos rfl]

end Lemmas

end Disk

end Storage
