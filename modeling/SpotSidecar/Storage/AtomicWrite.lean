import SpotSidecar.Storage.Disk

/-! `atomic_write_json` by any number of writers, and what readers see through failures, deaths and
losses of power. -/
namespace SpotSidecar.AtomicWrite
open Storage

abbrev Bytes := List UInt8

/-- A file by its path, or a temporary one; `mkstemp` gives no name twice. -/
inductive Name (π : Type) where
  | target (path : π)
  | temp (file : ℕ)
  deriving DecidableEq

inductive Stage where
  | writing (written : ℕ)
  | flushed
  | replaced
  deriving DecidableEq

/-- A call of `atomic_write_json` with the text of its payload. -/
structure Writer (π : Type) where
  path : π
  text : Bytes
  file : ℕ
  stage : Stage

inductive Event (π : Type) where
  | put (path : π) (text : Bytes)
  | settled
  | lost

structure World (π : Type) where
  disk : Disk (Name π) UInt8 := .empty
  writers : ℕ → Option (Writer π) := fun _ => none
  /-- The calls that were begun, and the last event first. -/
  begun : List (π × Bytes) := []
  log : List (Event π) := []

/-- A step of the writer `w`, or a loss of power. -/
inductive Act (π : Type) where
  | begin (w : ℕ) (path : π) (text : Bytes)
  | write (w n : ℕ)
  | fsync (w : ℕ)
  | replace (w : ℕ)
  /-- Where the directory cannot be synced the call returns all the same. -/
  | syncDirectory (w : ℕ) (ok : Bool)
  /-- What is raised ends the call, after the temporary file is removed where it still stands. -/
  | fail (w : ℕ) (removed : Bool)
  | die (w : ℕ)
  | losePower (view : ℕ) (garbage : ℕ → Bytes)

namespace World
variable {π : Type} [DecidableEq π]

def set (world : World π) (w : ℕ) (writer : Option (Writer π)) : World π :=
  { world with writers := Function.update world.writers w writer }

def step (world : World π) : Act π → World π
  | .begin w path text =>
    match world.writers w with
    | some _ => world
    | none =>
      { world with
        disk := world.disk.create (.temp world.disk.next)
        writers := Function.update world.writers w
          (some { path, text, file := world.disk.next, stage := .writing 0 })
        begun := (path, text) :: world.begun }
  | .write w n =>
    match world.writers w with
    | some ⟨path, text, file, .writing written⟩ =>
      { world.set w (some { path, text, file, stage := .writing (written + n) }) with
        disk := world.disk.append file ((text.drop written).take n) }
    | _ => world
  | .fsync w =>
    match world.writers w with
    | some ⟨path, text, file, .writing written⟩ =>
      if text.length ≤ written then
        { world.set w (some { path, text, file, stage := .flushed }) with
          disk := world.disk.fsync file }
      else world
    | _ => world
  | .replace w =>
    match world.writers w with
    | some ⟨path, text, file, .flushed⟩ =>
      { world.set w (some { path, text, file, stage := .replaced }) with
        disk := world.disk.rename (.temp file) (.target path)
        log := .put path text :: world.log }
    | _ => world
  | .syncDirectory w ok =>
    match world.writers w with
    | some ⟨_, _, _, .replaced⟩ =>
      if ok then
        { world.set w none with
          disk := world.disk.fsyncDirectory
          log := .settled :: world.log }
      else world.set w none
    | _ => world
  | .fail w removed =>
    match world.writers w with
    | some writer =>
      { world.set w none with
        disk := if removed then world.disk.unlink (.temp writer.file) else world.disk }
    | none => world
  | .die w => world.set w none
  | .losePower view garbage =>
    { world with
      disk := world.disk.losePower view garbage
      writers := fun _ => none
      log := .lost :: world.log }

def run (acts : List (Act π)) : World π := acts.foldl step {}

/-- `read_json`, up to the parsing. -/
def read (world : World π) (path : π) : Option Bytes := world.disk.read (.target path)

end World

/-! ### What may be read -/

section Possible
variable {π : Type} [DecidableEq π]

/-- What a path may hold now, by the log, and what a loss of power may leave of it. -/
def Possible (path : π) : Bool → List (Event π) → Option Bytes → Prop
  | _, [], text => text = none
  | true, .put other text' :: log, text =>
    if other = path then text = some text' else Possible path true log text
  | false, .put other text' :: log, text =>
    (other = path ∧ text = some text') ∨ Possible path false log text
  | _, .settled :: log, text => Possible path true log text
  | _, .lost :: log, text => Possible path false log text

theorem Possible.later {path : π} {log : List (Event π)} {text : Option Bytes}
    (h : Possible path true log text) : Possible path false log text := by
  induction log with
  | nil => exact h
  | cons event log ih =>
    cases event with
    | put other text' =>
      unfold Possible at h ⊢
      split at h
      · next hother => exact .inl ⟨hother, h⟩
      · exact .inr (ih h)
    | settled => exact h
    | lost => exact h

/-- Nothing is ever read but a whole text that was put in place. -/
theorem Possible.put {path : π} {now : Bool} {log : List (Event π)} {text : Option Bytes}
    (h : Possible path now log text) : text = none ∨ ∃ t, text = some t ∧ .put path t ∈ log := by
  induction log generalizing now with
  | nil =>
    left
    cases now <;> exact h
  | cons event log ih =>
    have hrest : ∀ {now}, Possible path now log text →
        text = none ∨ ∃ t, text = some t ∧ .put path t ∈ event :: log := by
      intro now h
      obtain hnone | ⟨t, ht, hmem⟩ := ih h
      · exact .inl hnone
      · exact .inr ⟨t, ht, List.mem_cons_of_mem _ hmem⟩
    cases event with
    | put other text' =>
      cases now with
      | true =>
        unfold Possible at h
        split at h
        · next hother => exact .inr ⟨text', h, hother ▸ List.mem_cons_self⟩
        · exact hrest h
      | false =>
        obtain ⟨rfl, ht⟩ | h := h
        · exact .inr ⟨text', ht, List.mem_cons_self⟩
        · exact hrest h
    | settled => cases now <;> exact hrest h
    | lost => cases now <;> exact hrest h

end Possible

/-! ### What holds at every step -/

section Invariant
variable {π : Type}

theorem target_ne_temp {path : π} {file : ℕ} : Name.target path ≠ .temp file := by
  intro heq
  cases heq

theorem temp_ne_temp {file other : ℕ} (hne : file ≠ other) :
    (Name.temp file : Name π) ≠ .temp other := by
  intro heq
  cases heq
  exact hne rfl

/-- A temporary file under its own name, which no path has ever stood for. -/
structure InHand (d : Disk (Name π) UInt8) (file : ℕ) : Prop where
  name : d.names (.temp file) = some file
  lt : file < d.next
  apart : ∀ view ∈ d.views, ∀ path, view (.target path) ≠ some file

def Writer.Holds (d : Disk (Name π) UInt8) (x : Writer π) : Prop :=
  match x.stage with
  | .writing written => InHand d x.file ∧ d.data x.file = x.text.take written
  | .flushed => InHand d x.file ∧ d.data x.file = x.text ∧ d.synced x.file = true
  | .replaced => True

/-- A change of the disk that does not touch a temporary file. -/
structure Apart (d d' : Disk (Name π) UInt8) (file : ℕ) : Prop where
  data : d'.data file = d.data file
  synced : d'.synced file = d.synced file
  name : d'.names (.temp file) = d.names (.temp file)
  next : d.next ≤ d'.next
  views : ∀ view ∈ d'.views, ∀ path, view (.target path) = some file →
    ∃ view ∈ d.views, view (.target path) = some file

variable {d d' : Disk (Name π) UInt8} {x : Writer π} {file : ℕ}

theorem InHand.frame (h : InHand d file) (ha : Apart d d' file) : InHand d' file := by
  refine ⟨ha.name.trans h.name, Nat.lt_of_lt_of_le h.lt ha.next, ?_⟩
  intro view hview path heq
  obtain ⟨earlier, hearlier, heq'⟩ := ha.views view hview path heq
  exact h.apart earlier hearlier path heq'

theorem Writer.Holds.inHand (h : x.Holds d) (hstage : x.stage ≠ .replaced) : InHand d x.file := by
  unfold Writer.Holds at h
  cases hx : x.stage with
  | writing n =>
    rw [hx] at h
    exact h.1
  | flushed =>
    rw [hx] at h
    exact h.1
  | replaced => exact absurd hx hstage

theorem Writer.Holds.frame (h : x.Holds d) (ha : x.stage ≠ .replaced → Apart d d' x.file) :
    x.Holds d' := by
  unfold Writer.Holds at *
  cases hx : x.stage with
  | writing n =>
    rw [hx] at h
    have hapart := ha (by rw [hx]; exact Stage.noConfusion)
    exact ⟨h.1.frame hapart, hapart.data.trans h.2⟩
  | flushed =>
    rw [hx] at h
    have hapart := ha (by rw [hx]; exact Stage.noConfusion)
    exact ⟨h.1.frame hapart, hapart.data.trans h.2.1, hapart.synced.trans h.2.2⟩
  | replaced => trivial

theorem apart_append {other : ℕ} (hne : file ≠ other) (bytes : Bytes) :
    Apart d (d.append other bytes) file :=
  ⟨Function.update_of_ne hne _ _, Function.update_of_ne hne _ _, rfl, Nat.le_refl _,
    fun view hview _ heq => ⟨view, hview, heq⟩⟩

theorem apart_fsync {other : ℕ} (hne : file ≠ other) : Apart d (d.fsync other) file :=
  ⟨rfl, Function.update_of_ne hne _ _, rfl, Nat.le_refl _,
    fun view hview _ heq => ⟨view, hview, heq⟩⟩

theorem apart_fsyncDirectory : Apart d d.fsyncDirectory file := by
  refine ⟨rfl, rfl, rfl, Nat.le_refl _, ?_⟩
  intro view hview path heq
  obtain rfl := List.mem_singleton.mp hview
  exact ⟨d.names, d.mem_views_names, heq⟩

/-- A new directory that changes no path to the file and leaves its temporary name. -/
theorem apart_rebind {names : View (Name π)} (hname : names (.temp file) = d.names (.temp file))
    (htarget : ∀ path, names (.target path) = some file → d.names (.target path) = some file) :
    Apart d (d.rebind names) file := by
  refine ⟨rfl, rfl, hname, Nat.le_refl _, ?_⟩
  intro view hview path heq
  obtain rfl | hview := Disk.mem_views_rebind.mp hview
  · exact ⟨d.names, d.mem_views_names, htarget path heq⟩
  · exact ⟨view, hview, heq⟩

/-- A change of the disk that no path shows. -/
structure Unseen (d d' : Disk (Name π) UInt8) : Prop where
  next : d.next ≤ d'.next
  settled : ∀ path, d'.Settled (.target path)
  reads : ∀ path, d'.read (.target path) = d.read (.target path)
  views : ∀ view ∈ d'.views, ∃ earlier ∈ d.views,
    ∀ path, d'.content view (.target path) = d.content earlier (.target path)

theorem unseen_append {other : ℕ} (hsettled : ∀ path, d.Settled (.target path)) (h : InHand d other)
    (bytes : Bytes) : Unseen d (d.append other bytes) := by
  refine ⟨Nat.le_refl _, ?_, ?_, ?_⟩
  · intro path
    exact (hsettled path).append fun view hview => h.apart view hview path
  · intro path
    exact Disk.content_append (h.apart d.names d.mem_views_names path)
  · intro view hview
    exact ⟨view, hview, fun path => Disk.content_append (h.apart view hview path)⟩

theorem unseen_fsync {other : ℕ} (hsettled : ∀ path, d.Settled (.target path)) :
    Unseen d (d.fsync other) :=
  ⟨Nat.le_refl _, fun path => (hsettled path).fsync other, fun _ => rfl,
    fun view hview => ⟨view, hview, fun _ => rfl⟩⟩

variable [DecidableEq π]

theorem unseen_unlink {other : ℕ} (hsettled : ∀ path, d.Settled (.target path)) :
    Unseen d (d.unlink (.temp other)) := by
  have hname : ∀ path, Function.update d.names (.temp other) none (.target path) =
      d.names (.target path) := fun path => Function.update_of_ne target_ne_temp _ _
  refine ⟨Nat.le_refl _, ?_, ?_, ?_⟩
  · intro path
    apply (hsettled path).rebind
    intro file hfile
    rw [hname] at hfile
    exact hsettled path _ d.mem_views_names file hfile
  · intro path
    exact congrArg (Option.map d.data) (hname path)
  · intro view hview
    obtain rfl | hview := Disk.mem_views_rebind.mp hview
    · exact ⟨d.names, d.mem_views_names, fun path => congrArg (Option.map d.data) (hname path)⟩
    · exact ⟨view, hview, fun _ => rfl⟩

theorem unseen_create (hsettled : ∀ path, d.Settled (.target path)) :
    Unseen d (d.create (.temp d.next)) := by
  have hname : ∀ path, Function.update d.names (.temp d.next) (some d.next) (.target path) =
      d.names (.target path) := fun path => Function.update_of_ne target_ne_temp _ _
  have hdata : ∀ view ∈ d.views, ∀ path,
      (view (.target path)).map (d.create (.temp d.next)).data = d.content view (.target path) := by
    intro view hview path
    unfold Disk.content
    cases hfile : view (.target path) with
    | none => rfl
    | some file =>
      have hlt := (hsettled path view hview file hfile).2
      exact congrArg some (Function.update_of_ne (by omega) _ _)
  have hnew :
      ∀ path, (d.create (.temp d.next)).content (d.create (.temp d.next)).names (.target path) =
      d.content d.names (.target path) := by
    intro path
    rw [← hdata d.names d.mem_views_names path]
    exact congrArg (Option.map _) (hname path)
  refine ⟨Nat.le_succ _, fun path => (hsettled path).create target_ne_temp, hnew, ?_⟩
  intro view hview
  obtain rfl | hview := Disk.mem_views_rebind.mp hview
  · exact ⟨d.names, d.mem_views_names, hnew⟩
  · exact ⟨view, hview, hdata view hview⟩

theorem apart_unlink {other : ℕ} (hne : file ≠ other) :
    Apart d (d.unlink (.temp other)) file := by
  apply apart_rebind
  · exact Function.update_of_ne (temp_ne_temp hne) _ _
  · intro path heq
    rwa [Function.update_of_ne target_ne_temp] at heq

theorem apart_create (hlt : file < d.next) : Apart d (d.create (.temp d.next)) file := by
  have hne : file ≠ d.next := by omega
  refine ⟨Function.update_of_ne hne _ _, Function.update_of_ne hne _ _, ?_, Nat.le_succ _, ?_⟩
  · exact Function.update_of_ne (temp_ne_temp hne) _ _
  · intro view hview path heq
    obtain rfl | hview := Disk.mem_views_rebind.mp hview
    · refine ⟨d.names, d.mem_views_names, ?_⟩
      change Function.update d.names (.temp d.next) (some d.next) (.target path) = some file at heq
      rwa [Function.update_of_ne target_ne_temp] at heq
    · exact ⟨view, hview, heq⟩

theorem rename_eq {other : ℕ} {path : π} (h : InHand d other) :
    d.rename (.temp other) (.target path) =
      d.rebind (Function.update (Function.update d.names (.temp other) none) (.target path)
        (some other)) := by
  unfold Disk.rename
  simp only [h.name]

theorem apart_rename {other : ℕ} {path : π} (h : InHand d other) (hne : file ≠ other) :
    Apart d (d.rename (.temp other) (.target path)) file := by
  rw [rename_eq h]
  apply apart_rebind
  · rw [Function.update_of_ne target_ne_temp.symm,
      Function.update_of_ne (temp_ne_temp hne)]
  · intro place heq
    rw [Function.update_apply] at heq
    split at heq
    · exact absurd (Option.some.inj heq).symm hne
    · rwa [Function.update_of_ne target_ne_temp] at heq

/-- What holds between any two steps. -/
structure World.Sound (world : World π) : Prop where
  settled : ∀ path, world.disk.Settled (.target path)
  holds : ∀ w x, world.writers w = some x →
    x.Holds world.disk ∧ x.file < world.disk.next ∧ (x.path, x.text) ∈ world.begun
  distinct : ∀ w x w' x', world.writers w = some x → world.writers w' = some x' → w ≠ w' →
    x.file ≠ x'.file
  reads : ∀ path, Possible path true world.log (world.read path)
  leaves : ∀ path, ∀ view ∈ world.disk.views,
    Possible path false world.log (world.disk.content view (.target path))
  puts : ∀ path text, .put path text ∈ world.log → (path, text) ∈ world.begun

namespace World.Sound
variable {world : World π} {w : ℕ}

/-- One writer takes a step; the others keep their files. -/
theorem change (h : world.Sound) {x : Option (Writer π)} {disk : Disk (Name π) UInt8}
    {begun : List (π × Bytes)} {log : List (Event π)}
    (hbegun : ∀ call ∈ world.begun, call ∈ begun)
    (hsettled : ∀ path, disk.Settled (.target path)) (hnext : world.disk.next ≤ disk.next)
    (hown : ∀ y, x = some y → y.Holds disk ∧ y.file < disk.next ∧ (y.path, y.text) ∈ begun)
    (hfile : ∀ y, x = some y → ∀ w' ≠ w, ∀ x', world.writers w' = some x' → y.file ≠ x'.file)
    (hothers : ∀ w' ≠ w, ∀ x', world.writers w' = some x' → x'.stage ≠ .replaced →
      Apart world.disk disk x'.file)
    (hreads : ∀ path, Possible path true log (disk.read (.target path)))
    (hleaves : ∀ path, ∀ view ∈ disk.views,
      Possible path false log (disk.content view (.target path)))
    (hputs : ∀ path text, .put path text ∈ log → (path, text) ∈ begun) :
    World.Sound { disk, begun, log, writers := Function.update world.writers w x } := by
  have hold : ∀ w' y, w' ≠ w → Function.update world.writers w x w' = some y →
      world.writers w' = some y := by
    intro w' y hne hy
    rwa [Function.update_of_ne hne] at hy
  refine ⟨hsettled, ?_, ?_, hreads, hleaves, hputs⟩
  · intro w' y hy
    by_cases hw : w' = w
    · rw [hw] at hy
      dsimp only at hy
      rw [Function.update_self] at hy
      exact hown y hy
    · have hy' := hold w' y hw hy
      obtain ⟨hholds, hlt, hmem⟩ := h.holds w' y hy'
      exact ⟨hholds.frame (hothers w' hw y hy'), Nat.lt_of_lt_of_le hlt hnext, hbegun _ hmem⟩
  · intro a y b z hy hz hne
    by_cases ha : a = w
    · rw [ha] at hy hne
      dsimp only at hy
      rw [Function.update_self] at hy
      exact hfile y hy b (Ne.symm hne) z (hold b z (Ne.symm hne) hz)
    · have hy' := hold a y ha hy
      by_cases hb : b = w
      · rw [hb] at hz
        dsimp only at hz
        rw [Function.update_self] at hz
        exact (hfile z hz a ha y hy').symm
      · exact h.distinct a y b z hy' (hold b z hb hz) hne

/-- The writer is gone. -/
theorem gone (h : world.Sound) (w : ℕ) : (world.set w none).Sound :=
  h.change (fun _ hc => hc) h.settled (Nat.le_refl _) (fun _ hy => by cases hy)
    (fun _ hy => by cases hy)
    (fun _ _ _ _ _ => ⟨rfl, rfl, rfl, Nat.le_refl _, fun view hview _ heq => ⟨view, hview, heq⟩⟩)
    h.reads h.leaves h.puts

/-- A step of one writer that no path shows. -/
theorem unseen (h : world.Sound) {x : Option (Writer π)} {disk : Disk (Name π) UInt8}
    (hunseen : Unseen world.disk disk) {begun : List (π × Bytes)}
    (hbegun : ∀ call ∈ world.begun, call ∈ begun)
    (hown : ∀ y, x = some y → y.Holds disk ∧ y.file < disk.next ∧ (y.path, y.text) ∈ begun)
    (hfile : ∀ y, x = some y → ∀ w' ≠ w, ∀ x', world.writers w' = some x' → y.file ≠ x'.file)
    (hothers : ∀ w' ≠ w, ∀ x', world.writers w' = some x' → x'.stage ≠ .replaced →
      Apart world.disk disk x'.file) :
    World.Sound
      { world with
        disk := disk
        begun := begun
        writers := Function.update world.writers w x } := by
  refine h.change hbegun hunseen.settled hunseen.next hown hfile hothers ?_ ?_ ?_
  · intro path
    rw [hunseen.reads]
    exact h.reads path
  · intro path view hview
    obtain ⟨earlier, hearlier, heq⟩ := hunseen.views view hview
    rw [heq]
    exact h.leaves path earlier hearlier
  · exact fun path text hput => hbegun _ (h.puts path text hput)

theorem started (h : world.Sound) (w : ℕ) (path : π) (text : Bytes) :
    (world.step (.begin w path text)).Sound := by
  simp only [World.step]
  split
  · exact h
  · refine h.unseen (unseen_create h.settled) ?_ ?_ ?_ ?_
    · exact fun _ hcall => List.mem_cons_of_mem _ hcall
    · rintro _ ⟨⟩
      refine ⟨⟨⟨?_, Nat.lt_succ_self _, ?_⟩, ?_⟩, Nat.lt_succ_self _, List.mem_cons_self⟩
      · exact Function.update_self _ _ _
      · intro view hview place heq
        have hsettled := (unseen_create h.settled).settled place view hview _ heq
        have hsynced : (world.disk.create (.temp world.disk.next)).synced world.disk.next = false :=
          Function.update_self _ _ _
        rw [hsynced] at hsettled
        cases hsettled.1
      · exact (Function.update_self _ _ _).trans List.take_zero.symm
    · rintro _ ⟨⟩ w' _ x' hx'
      exact Nat.ne_of_gt (h.holds w' x' hx').2.1
    · intro w' _ x' hx' _
      exact apart_create (h.holds w' x' hx').2.1

theorem file_ne (h : world.Sound) {y : Writer π} (hy : world.writers w = some y) :
    ∀ w' ≠ w, ∀ x', world.writers w' = some x' → y.file ≠ x'.file :=
  fun w' hne x' hx' => h.distinct w y w' x' hy hx' (Ne.symm hne)

theorem write (h : world.Sound) (w n : ℕ) : (world.step (.write w n)).Sound := by
  simp only [World.step]
  split
  · next path text file written hw =>
    have hstage : (Writer.mk path text file (.writing written)).stage ≠ .replaced := by
      rintro ⟨⟩
    obtain ⟨hholds, hlt, hmem⟩ := h.holds w _ hw
    have hin : InHand world.disk file := hholds.inHand hstage
    have hdata : world.disk.data file = text.take written := hholds.2
    have hne := h.file_ne hw
    refine h.unseen (unseen_append h.settled hin _) (fun _ hc => hc) ?_ ?_ ?_
    · rintro _ ⟨⟩
      refine ⟨⟨⟨hin.name, hin.lt, hin.apart⟩, ?_⟩, hlt, hmem⟩
      change Function.update world.disk.data file _ file = _
      rw [Function.update_self, hdata, ← List.take_add]
    · rintro _ ⟨⟩
      exact hne
    · intro w' hw' x' hx' _
      exact apart_append (hne w' hw' x' hx').symm _
  · exact h

theorem fsync (h : world.Sound) (w : ℕ) : (world.step (.fsync w)).Sound := by
  simp only [World.step]
  split
  · next path text file written hw =>
    split
    · next hall =>
      have hstage : (Writer.mk path text file (.writing written)).stage ≠ .replaced := by
        rintro ⟨⟩
      obtain ⟨hholds, hlt, hmem⟩ := h.holds w _ hw
      have hin : InHand world.disk file := hholds.inHand hstage
      have hdata : world.disk.data file = text.take written := hholds.2
      have hne := h.file_ne hw
      refine h.unseen (unseen_fsync h.settled) (fun _ hc => hc) ?_ ?_ ?_
      · rintro _ ⟨⟩
        refine ⟨⟨⟨hin.name, hin.lt, hin.apart⟩, ?_, ?_⟩, hlt, hmem⟩
        · exact hdata.trans (List.take_of_length_le hall)
        · exact Function.update_self _ _ _
      · rintro _ ⟨⟩
        exact hne
      · intro w' hw' x' hx' _
        exact apart_fsync (hne w' hw' x' hx').symm
    · exact h
  · exact h

theorem replace (h : world.Sound) (w : ℕ) : (world.step (.replace w)).Sound := by
  simp only [World.step]
  split
  · next path text file hw =>
    have hstage : (Writer.mk path text file .flushed).stage ≠ .replaced := by
      rintro ⟨⟩
    obtain ⟨hholds, hlt, hmem⟩ := h.holds w _ hw
    have hin : InHand world.disk file := hholds.inHand hstage
    obtain ⟨-, hdata, hsynced⟩ : InHand world.disk file ∧ world.disk.data file = text ∧
      world.disk.synced file = true := hholds
    have hne := h.file_ne hw
    have hrename : world.disk.rename (.temp file) (.target path) = _ := rename_eq hin
    have hother : ∀ place, place ≠ path →
        Function.update (Function.update world.disk.names (.temp file) none) (.target path)
          (some file) (.target place) = world.disk.names (.target place) := by
      intro place hplace
      rw [Function.update_of_ne (fun heq => hplace (Name.target.inj heq)),
        Function.update_of_ne target_ne_temp]
    have hread : ∀ place, (world.disk.rename (.temp file) (.target path)).read (.target place) =
        if place = path then some text else world.read place := by
      intro place
      rw [hrename]
      change (Function.update (Function.update world.disk.names (.temp file) none) (.target path)
        (some file) (.target place)).map world.disk.data = _
      split
      · next hplace => rw [hplace, Function.update_self, Option.map_some, hdata]
      · next hplace =>
        rw [hother place hplace]
        rfl
    refine h.change (fun _ hc => hc) ?_ ?_ ?_ ?_ ?_ ?_ ?_ ?_
    · intro place
      rw [hrename]
      apply (h.settled place).rebind
      intro number hnumber
      by_cases hplace : place = path
      · rw [hplace, Function.update_self] at hnumber
        cases hnumber
        exact ⟨hsynced, hin.lt⟩
      · rw [hother place hplace] at hnumber
        exact h.settled place _ world.disk.mem_views_names number hnumber
    · rw [hrename]
      exact Nat.le_refl _
    · rintro _ ⟨⟩
      refine ⟨trivial, ?_, hmem⟩
      rw [hrename]
      exact hlt
    · rintro _ ⟨⟩
      exact hne
    · intro w' hw' x' hx' _
      exact apart_rename hin (hne w' hw' x' hx').symm
    · intro place
      rw [hread]
      unfold Possible
      by_cases hplace : place = path
      · rw [if_pos hplace, if_pos hplace.symm]
      · rw [if_neg hplace, if_neg (Ne.symm hplace)]
        exact h.reads place
    · intro place view hview
      rw [hrename] at hview
      obtain rfl | hview := Disk.mem_views_rebind.mp hview
      · have hnow := hread place
        rw [hrename] at hnow ⊢
        change Disk.content _ _ _ = _ at hnow
        by_cases hplace : place = path
        · rw [if_pos hplace] at hnow
          exact .inl ⟨hplace.symm, hnow⟩
        · rw [if_neg hplace] at hnow
          have hlater := (h.reads place).later
          rw [← hnow] at hlater
          exact .inr hlater
      · right
        rw [hrename]
        exact h.leaves place view hview
    · intro place new hput
      obtain heq | hput := List.mem_cons.mp hput
      · cases heq
        exact hmem
      · exact h.puts place new hput
  · exact h

theorem syncDirectory (h : world.Sound) (w : ℕ) (ok : Bool) :
    (world.step (.syncDirectory w ok)).Sound := by
  simp only [World.step]
  split
  · next path text file hw =>
    cases ok with
    | false => exact h.gone w
    | true =>
      refine h.change (fun _ hc => hc) ?_ (Nat.le_refl _) ?_ ?_ ?_ ?_ ?_ ?_
      · intro path view hview number hnumber
        obtain rfl := List.mem_singleton.mp hview
        exact h.settled path _ world.disk.mem_views_names number hnumber
      · rintro _ ⟨⟩
      · rintro _ ⟨⟩
      · exact fun _ _ _ _ _ => apart_fsyncDirectory
      · exact h.reads
      · intro path view hview
        obtain rfl := List.mem_singleton.mp hview
        exact h.reads path
      · intro path text hput
        obtain heq | hput := List.mem_cons.mp hput
        · cases heq
        · exact h.puts path text hput
  · exact h

theorem fail (h : world.Sound) (w : ℕ) (removed : Bool) : (world.step (.fail w removed)).Sound := by
  simp only [World.step]
  split
  · next x hw =>
    cases removed with
    | false => exact h.gone w
    | true =>
      refine h.unseen (unseen_unlink h.settled) (fun _ hc => hc) ?_ ?_ ?_
      · rintro _ ⟨⟩
      · rintro _ ⟨⟩
      · intro w' hw' x' hx' _
        exact apart_unlink (h.file_ne hw w' hw' x' hx').symm
  · exact h

theorem losePower (h : world.Sound) (view : ℕ) (garbage : ℕ → Bytes) :
    (world.step (.losePower view garbage)).Sound := by
  refine ⟨fun path => (h.settled path).losePower view garbage, ?_, ?_, ?_, ?_, ?_⟩
  · rintro _ _ ⟨⟩
  · rintro _ _ _ _ ⟨⟩
  · intro path
    change Possible path false world.log ((world.disk.losePower view garbage).read (.target path))
    rw [(h.settled path).read_losePower]
    exact h.leaves path _ (world.disk.getD_mem_views view)
  · intro path after hafter
    obtain rfl := List.mem_singleton.mp hafter
    change Possible path false world.log ((world.disk.losePower view garbage).read (.target path))
    rw [(h.settled path).read_losePower]
    exact h.leaves path _ (world.disk.getD_mem_views view)
  · intro path text hput
    obtain heq | hput := List.mem_cons.mp hput
    · cases heq
    · exact h.puts path text hput

theorem step (h : world.Sound) (act : Act π) : (world.step act).Sound := by
  cases act with
  | begin w path text => exact h.started w path text
  | write w n => exact h.write w n
  | fsync w => exact h.fsync w
  | replace w => exact h.replace w
  | syncDirectory w ok => exact h.syncDirectory w ok
  | fail w removed => exact h.fail w removed
  | die w => exact h.gone w
  | losePower view garbage => exact h.losePower view garbage

end World.Sound

theorem sound_run (acts : List (Act π)) : (World.run acts).Sound := by
  have hall : ∀ world : World π, world.Sound → (acts.foldl World.step world).Sound := by
    induction acts with
    | nil => exact fun world h => h
    | cons act rest ih => exact fun world h => ih _ (h.step act)
  apply hall
  refine ⟨?_, ?_, ?_, fun _ => rfl, ?_, ?_⟩
  · intro path view hview file hfile
    obtain rfl := List.mem_singleton.mp hview
    cases hfile
  · rintro _ _ ⟨⟩
  · rintro _ _ _ _ ⟨⟩
  · intro path view hview
    obtain rfl := List.mem_singleton.mp hview
    rfl
  · rintro _ _ ⟨⟩

/-! ### What readers get -/

theorem run_append (acts later : List (Act π)) :
    World.run (acts ++ later) = later.foldl World.step (World.run acts) := List.foldl_append

/-- What a step adds to the log. -/
theorem step_log (world : World π) (act : Act π) :
    ∃ fresh, (world.step act).log = fresh ++ world.log := by
  have hsame : ∃ fresh, world.log = fresh ++ world.log := ⟨[], rfl⟩
  cases act with
  | begin w path text =>
    simp only [World.step]
    split <;> exact hsame
  | write w n =>
    simp only [World.step]
    split <;> exact hsame
  | fsync w =>
    simp only [World.step]
    split
    · split <;> exact hsame
    · exact hsame
  | replace w =>
    simp only [World.step]
    split
    · exact ⟨[_], rfl⟩
    · exact hsame
  | syncDirectory w ok =>
    simp only [World.step]
    split
    · split
      · exact ⟨[_], rfl⟩
      · exact hsame
    · exact hsame
  | fail w removed =>
    simp only [World.step]
    split <;> exact hsame
  | die w => exact hsame
  | losePower view garbage => exact ⟨[_], rfl⟩

theorem foldl_log (world : World π) (acts : List (Act π)) :
    ∃ fresh, (acts.foldl World.step world).log = fresh ++ world.log := by
  induction acts generalizing world with
  | nil => exact ⟨[], rfl⟩
  | cons act rest ih =>
    obtain ⟨fresh, hfresh⟩ := step_log world act
    obtain ⟨fresher, hfresher⟩ := ih (world.step act)
    refine ⟨fresher ++ fresh, ?_⟩
    rw [List.foldl_cons, hfresher, hfresh, List.append_assoc]

/-- The last text put in place since the last loss of power. -/
def standing (path : π) : List (Event π) → Option Bytes
  | [] | .lost :: _ => none
  | .put other text :: log => if other = path then some text else standing path log
  | .settled :: log => standing path log

theorem Possible.standing {path : π} {log : List (Event π)} {text : Option Bytes} {t : Bytes}
    (h : Possible path true log text) (hstanding : standing path log = some t) : text = some t := by
  induction log with
  | nil => cases hstanding
  | cons event log ih =>
    cases event with
    | put other text' =>
      unfold Possible at h
      unfold AtomicWrite.standing at hstanding
      split at h
      · next hother =>
        rw [if_pos hother] at hstanding
        exact h.trans hstanding
      · next hother =>
        rw [if_neg hother] at hstanding
        exact ih h hstanding
    | settled => exact ih h hstanding
    | lost => cases hstanding

/-- Where the directory was synced, only what is put later may replace what was read then. -/
theorem Possible.of_settled {path : π} {fresh log : List (Event π)} {now : Bool}
    {text : Option Bytes} (h : Possible path now (fresh ++ .settled :: log) text)
    (hfresh : ∀ t, .put path t ∉ fresh) : Possible path true log text := by
  induction fresh generalizing now with
  | nil => cases now <;> exact h
  | cons event fresh ih =>
    have hrest : ∀ t, .put path t ∉ fresh := fun t ht => hfresh t (List.mem_cons_of_mem _ ht)
    cases event with
    | put other t =>
      have hother : other ≠ path := by
        rintro rfl
        exact hfresh t List.mem_cons_self
      rw [List.cons_append] at h
      cases now with
      | true =>
        unfold Possible at h
        rw [if_neg hother] at h
        exact ih h hrest
      | false =>
        obtain ⟨heq, -⟩ | h := h
        · exact absurd heq hother
        · exact ih h hrest
    | settled => cases now <;> exact ih h hrest
    | lost => cases now <;> exact ih h hrest

/-- A writer that has replaced its file did so since the last loss of power. -/
def World.Standing (world : World π) : Prop :=
  ∀ w x, world.writers w = some x → x.stage = .replaced → (standing x.path world.log).isSome

theorem World.Standing.set {world : World π} (h : world.Standing) {w : ℕ} {x : Option (Writer π)}
    (hx : ∀ y, x = some y → y.stage = .replaced → (standing y.path world.log).isSome) :
    (world.set w x).Standing := by
  intro w' y hy hstage
  change Function.update world.writers w x w' = some y at hy
  rw [Function.update_apply] at hy
  split at hy
  · exact hx y hy hstage
  · exact h w' y hy hstage

theorem World.Standing.step {world : World π} (h : world.Standing) (act : Act π) :
    (world.step act).Standing := by
  cases act with
  | begin w path text =>
    simp only [World.step]
    split
    · exact h
    · exact h.set (by rintro _ ⟨⟩ ⟨⟩)
  | write w n =>
    simp only [World.step]
    split
    · exact h.set (by rintro _ ⟨⟩ ⟨⟩)
    · exact h
  | fsync w =>
    simp only [World.step]
    split
    · split
      · exact h.set (by rintro _ ⟨⟩ ⟨⟩)
      · exact h
    · exact h
  | replace w =>
    simp only [World.step]
    split
    · next path text file _ =>
      have hlog : World.Standing { world with log := .put path text :: world.log } := by
        intro w' y hy hstage
        unfold AtomicWrite.standing
        split
        · rfl
        · exact h w' y hy hstage
      refine World.Standing.set hlog ?_
      rintro _ ⟨⟩ -
      simp [AtomicWrite.standing]
    · exact h
  | syncDirectory w ok =>
    simp only [World.step]
    split
    · split
      · exact h.set (by rintro _ ⟨⟩)
      · exact h.set (by rintro _ ⟨⟩)
    · exact h
  | fail w removed =>
    simp only [World.step]
    split
    · exact h.set (by rintro _ ⟨⟩)
    · exact h
  | die w => exact h.set (by rintro _ ⟨⟩)
  | losePower view garbage =>
    rintro w x ⟨⟩

theorem standing_run (acts : List (Act π)) : (World.run acts).Standing := by
  have hall : ∀ world : World π, world.Standing → (acts.foldl World.step world).Standing := by
    induction acts with
    | nil => exact fun world h => h
    | cons act rest ih => exact fun world h => ih _ (h.step act)
  apply hall
  rintro _ _ ⟨⟩

theorem begun_run (acts : List (Act π)) {call : π × Bytes} (h : call ∈ (World.run acts).begun) :
    ∃ w, .begin w call.1 call.2 ∈ acts := by
  have hstep : ∀ (world : World π) (act : Act π), call ∈ (world.step act).begun →
      call ∈ world.begun ∨ ∃ w, act = .begin w call.1 call.2 := by
    intro world act hcall
    cases act with
    | begin w path text =>
      simp only [World.step] at hcall
      split at hcall
      · exact .inl hcall
      · obtain rfl | hcall := List.mem_cons.mp hcall
        · exact .inr ⟨w, rfl⟩
        · exact .inl hcall
    | write w n =>
      simp only [World.step] at hcall
      split at hcall <;> exact .inl hcall
    | fsync w =>
      simp only [World.step] at hcall
      split at hcall
      · split at hcall <;> exact .inl hcall
      · exact .inl hcall
    | replace w =>
      simp only [World.step] at hcall
      split at hcall <;> exact .inl hcall
    | syncDirectory w ok =>
      simp only [World.step] at hcall
      split at hcall
      · split at hcall <;> exact .inl hcall
      · exact .inl hcall
    | fail w removed =>
      simp only [World.step] at hcall
      split at hcall <;> exact .inl hcall
    | die w => exact .inl hcall
    | losePower view garbage => exact .inl hcall
  have hall : ∀ world : World π, call ∈ (acts.foldl World.step world).begun →
      call ∈ world.begun ∨ ∃ w, .begin w call.1 call.2 ∈ acts := by
    clear h
    induction acts with
    | nil => exact fun _ hcall => .inl hcall
    | cons act rest ih =>
      intro world hcall
      obtain hcall | ⟨w, hw⟩ := ih _ hcall
      · obtain hcall | ⟨w, rfl⟩ := hstep world act hcall
        · exact .inl hcall
        · exact .inr ⟨w, List.mem_cons_self⟩
      · exact .inr ⟨w, List.mem_cons_of_mem _ hw⟩
  obtain hcall | hmem := hall {} h
  · cases hcall
  · exact hmem

/-- In every interleaving of writers, with failures, deaths and losses of power anywhere: a path
holds nothing or the whole text of one call; and once a call has synced the directory after its
replacement, the path holds what it held then until another call puts a text in place, through any
loss of power. -/
theorem whole_and_durable (path : π) :
    (∀ acts, (World.run acts).read path = none ∨
      ∃ text, (World.run acts).read path = some text ∧ ∃ w, .begin w path text ∈ acts) ∧
    ∀ before w later text file,
      (World.run before).writers w = some ⟨path, text, file, .replaced⟩ →
        let acts := before ++ .syncDirectory w true :: later
        ∃ fresh, (World.run acts).log = fresh ++ .settled :: (World.run before).log ∧
          ((∀ t, .put path t ∉ fresh) →
            ∃ t, (World.run before).read path = some t ∧ (World.run acts).read path = some t) := by
  constructor
  · intro acts
    have hsound := sound_run acts
    obtain hnone | ⟨text, htext, hput⟩ := (hsound.reads path).put
    · exact .inl hnone
    · exact .inr ⟨text, htext, begun_run acts (hsound.puts path text hput)⟩
  · intro before w later text file hw
    obtain ⟨fresh, hlog⟩ :=
      foldl_log ((World.run before).step (.syncDirectory w true)) later
    have hsettled : ((World.run before).step (.syncDirectory w true)).log =
        .settled :: (World.run before).log := by
      simp only [World.step, hw, if_true]
    have hrun : (World.run (before ++ .syncDirectory w true :: later)).log =
        fresh ++ .settled :: (World.run before).log := by
      rw [run_append, List.foldl_cons, hlog, hsettled]
    refine ⟨fresh, hrun, ?_⟩
    intro hfresh
    obtain ⟨t, ht⟩ := Option.isSome_iff_exists.mp (standing_run before w _ hw rfl)
    have hreads := (sound_run (before ++ .syncDirectory w true :: later)).reads path
    rw [hrun] at hreads
    exact ⟨t, ((sound_run before).reads path).standing ht,
      (hreads.of_settled hfresh).standing ht⟩

end Invariant

end SpotSidecar.AtomicWrite
