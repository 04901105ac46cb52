import Mathlib.Data.List.Nodup
import Mathlib.Data.List.Perm.Subperm
import Mathlib.Data.List.Sort
import Mathlib.Data.String.Basic

/-! The seam between the strategy and the sidecar: signal files in the inbox and the archives. -/
namespace SpotSidecar.Seam

abbrev Token := String

inductive Folder where
  | processed
  | rejected
  deriving DecidableEq

/-- A file of an archive; the stamp stands in its name if the plain name was taken. -/
structure ArchivedFile where
  token : Token
  stamp : Option ℕ
  mtime : ℕ
  deriving DecidableEq

def ArchivedFile.name (f : ArchivedFile) : String :=
  match f.stamp with
  | none => f.token ++ ".json"
  | some ns => f.token ++ "." ++ toString ns ++ ".json"

/-- The order in which `prune_files` removes: by time and name, or by name where a file has no
readable time. -/
def ArchivedFile.older (byName : Bool) (f g : ArchivedFile) : Bool :=
  if byName then f.name ≤ g.name else f.mtime < g.mtime ∨ (f.mtime = g.mtime ∧ f.name ≤ g.name)

/-- The files that `prune_files` removes of a folder. -/
def victims (maxFiles : ℕ) (byName : Bool) (files : List ArchivedFile) : List ArchivedFile :=
  if maxFiles = 0 then []
  else (files.mergeSort (ArchivedFile.older byName)).take (files.length - maxFiles)

/-- What `_emit_signal` looks at next. -/
inductive Look where
  | inbox
  | processed
  | rejected
  | globProcessed
  | globRejected
  | write
  deriving DecidableEq

/-- Where the sidecar is in `OrderManager.move`. -/
inductive Moving where
  | idle
  | toChoose (token : Token) (folder : Folder)
  | toRename (token : Token) (folder : Folder) (stamp : Option ℕ)
  | toList (folder : Folder)
  | pruning (folder : Folder) (byName : Bool) (victims : List ArchivedFile)
  deriving DecidableEq

inductive Event where
  | emitted (token : Token)
  /-- A file was removed while so many stayed that come after it. -/
  | pruned (f : ArchivedFile) (later : ℕ)
  deriving DecidableEq

structure World where
  inbox : List (Token × ℕ) := []
  archive : Folder → List ArchivedFile := fun _ => []
  strategy : Option (Token × Look) := none
  sidecar : Moving := .idle
  /-- The last event first. -/
  log : List Event := []

/-- A step of one of the two processes; a step it is not at does nothing. -/
inductive Act where
  | begin (token : Token)
  | look
  | write (mtime : ℕ)
  | abandon
  | pick (token : Token) (folder : Folder)
  | choose (ns : ℕ)
  | rename
  | list (byName : Bool)
  | unlink (ok : Bool)
  | die
  deriving DecidableEq

def World.holds (w : World) (token : Token) : Bool := w.inbox.any fun entry => entry.1 = token

/-- What the strategy sees at its place of `_emit_signal`. -/
def World.sees (w : World) (token : Token) : Look → Bool
  | .inbox => w.holds token
  | .processed => (w.archive .processed).any fun f => f.token = token ∧ f.stamp = none
  | .rejected => (w.archive .rejected).any fun f => f.token = token ∧ f.stamp = none
  | .globProcessed => (w.archive .processed).any fun f => f.token = token ∧ f.stamp.isSome
  | .globRejected => (w.archive .rejected).any fun f => f.token = token ∧ f.stamp.isSome
  | .write => false

def Look.next : Look → Look
  | .inbox => .processed
  | .processed => .rejected
  | .rejected => .globProcessed
  | .globProcessed => .globRejected
  | .globRejected | .write => .write

/-- `os.replace(tmp, target)` -/
def World.put (w : World) (token : Token) (mtime : ℕ) : World :=
  { w with
    inbox := (token, mtime) :: w.inbox.filter fun entry => entry.1 ≠ token
    strategy := none
    log := .emitted token :: w.log }

/-- `shutil.move` within one file system; a file of the same name is replaced. -/
def World.moveTo (w : World) (token : Token) (mtime : ℕ) (folder : Folder) (stamp : Option ℕ) :
    World :=
  { w with
    inbox := w.inbox.filter fun entry => entry.1 ≠ token
    archive := fun place =>
      if place = folder then
        { token, stamp, mtime } ::
          (w.archive place).filter fun f => ¬(f.token = token ∧ f.stamp = stamp)
      else w.archive place
    sidecar := .toList folder }

def World.remove (w : World) (folder : Folder) (byName : Bool) (f : ArchivedFile) : World :=
  { w with
    archive := fun place => if place = folder then (w.archive place).erase f else w.archive place
    log := .pruned f ((w.archive folder).countP fun g => g ≠ f ∧ f.older byName g) :: w.log }

def World.step (maxFiles : ℕ) (w : World) : Act → World
  | .begin token => { w with strategy := some (token, .inbox) }
  | .look =>
    match w.strategy with
    | some (token, stage) =>
      { w with strategy := if w.sees token stage then none else some (token, stage.next) }
    | none => w
  | .write mtime =>
    match w.strategy with
    | some (token, .write) => w.put token mtime
    | _ => w
  | .abandon => { w with strategy := none }
  | .pick token folder =>
    if w.sidecar = .idle ∧ w.holds token then { w with sidecar := .toChoose token folder } else w
  | .choose ns =>
    match w.sidecar with
    | .toChoose token folder =>
      let taken := (w.archive folder).any fun f => f.token = token ∧ f.stamp = none
      { w with sidecar := .toRename token folder (if taken then some ns else none) }
    | _ => w
  | .rename =>
    match w.sidecar with
    | .toRename token folder stamp =>
      match w.inbox.find? (fun entry => entry.1 = token) with
      | some (_, mtime) => w.moveTo token mtime folder stamp
      | none => { w with sidecar := .idle }
    | _ => w
  | .list byName =>
    match w.sidecar with
    | .toList folder =>
      { w with sidecar := .pruning folder byName (victims maxFiles byName (w.archive folder)) }
    | _ => w
  | .unlink ok =>
    match w.sidecar with
    | .pruning folder byName (f :: rest) =>
      { (if ok then w.remove folder byName f else w) with sidecar := .pruning folder byName rest }
    | .pruning _ _ [] => { w with sidecar := .idle }
    | _ => w
  | .die => { w with sidecar := .idle }

def run (maxFiles : ℕ) (acts : List Act) : World := acts.foldl (World.step maxFiles) {}

/-! ### What the log says -/

/-- The token was emitted, and no file of it was removed since. -/
def Standing (token : Token) : List Event → Prop
  | [] => False
  | .emitted other :: log => other = token ∨ Standing token log
  | .pruned f _ :: log => f.token ≠ token ∧ Standing token log

/-- Before a token is emitted again a file of it was removed, while as many later ones stayed as
the archive may hold. -/
def Spaced (maxFiles : ℕ) (log : List Event) : Prop :=
  ∀ later token between earlier,
    log = later ++ .emitted token :: (between ++ .emitted token :: earlier) →
      ∃ f n, .pruned f n ∈ between ∧ f.token = token ∧ 0 < maxFiles ∧ maxFiles ≤ n

def Pruned (maxFiles : ℕ) (log : List Event) : Prop :=
  ∀ f n, .pruned f n ∈ log → 0 < maxFiles ∧ maxFiles ≤ n

section Log
variable {maxFiles : ℕ} {token : Token} {log : List Event}

theorem exists_pruned_of_not_standing {between earlier : List Event}
    (h : ¬Standing token (between ++ .emitted token :: earlier)) :
    ∃ f n, .pruned f n ∈ between ∧ f.token = token := by
  induction between with
  | nil => exact absurd (.inl rfl) h
  | cons event between ih =>
    cases event with
    | emitted other =>
      obtain ⟨f, n, hmem, hf⟩ := ih fun hstanding => h (.inr hstanding)
      exact ⟨f, n, List.mem_cons_of_mem _ hmem, hf⟩
    | pruned f n =>
      by_cases hf : f.token = token
      · exact ⟨f, n, List.mem_cons_self, hf⟩
      · obtain ⟨g, m, hmem, hg⟩ := ih fun hstanding => h ⟨hf, hstanding⟩
        exact ⟨g, m, List.mem_cons_of_mem _ hmem, hg⟩

theorem Spaced.emit (h : Spaced maxFiles log) (hpruned : Pruned maxFiles log)
    (hnew : ¬Standing token log) : Spaced maxFiles (.emitted token :: log) := by
  intro later other between earlier heq
  cases later with
  | nil =>
    obtain ⟨hevent, hlog⟩ := List.cons_eq_cons.mp heq
    cases hevent
    rw [hlog] at hnew
    obtain ⟨f, n, hmem, hf⟩ := exists_pruned_of_not_standing hnew
    have hbound := hpruned f n (by rw [hlog]; exact List.mem_append_left _ hmem)
    exact ⟨f, n, hmem, hf, hbound⟩
  | cons event later =>
    obtain ⟨-, hlog⟩ := List.cons_eq_cons.mp heq
    exact h later other between earlier hlog

theorem Spaced.prune (h : Spaced maxFiles log) (f : ArchivedFile) (n : ℕ) :
    Spaced maxFiles (.pruned f n :: log) := by
  intro later other between earlier heq
  cases later with
  | nil =>
    obtain ⟨hevent, -⟩ := List.cons_eq_cons.mp heq
    cases hevent
  | cons event later =>
    obtain ⟨-, hlog⟩ := List.cons_eq_cons.mp heq
    exact h later other between earlier hlog

end Log

/-! ### The files to remove -/

section Victims
variable {maxFiles : ℕ} {byName : Bool} {files : List ArchivedFile}

theorem older_total (byName : Bool) (f g : ArchivedFile) :
    (f.older byName g || g.older byName f) = true := by
  unfold ArchivedFile.older
  have hname := le_total f.name g.name
  cases byName
  · simp only [Bool.false_eq_true, if_false, Bool.or_eq_true, decide_eq_true_eq]
    obtain hlt | heq | hlt := lt_trichotomy f.mtime g.mtime
    · exact .inl (.inl hlt)
    · obtain hle | hle := hname
      · exact .inl (.inr ⟨heq, hle⟩)
      · exact .inr (.inr ⟨heq.symm, hle⟩)
    · exact .inr (.inl hlt)
  · simpa using hname

theorem older_trans (byName : Bool) (f g k : ArchivedFile) (hfg : f.older byName g = true)
    (hgk : g.older byName k = true) : f.older byName k = true := by
  unfold ArchivedFile.older at *
  have hname : f.name ≤ g.name → g.name ≤ k.name → f.name ≤ k.name := le_trans
  cases byName
  · simp only [Bool.false_eq_true, if_false, decide_eq_true_eq] at *
    obtain hlt | ⟨heq, hle⟩ := hfg
    · obtain hlt' | ⟨heq', -⟩ := hgk
      · exact .inl (hlt.trans hlt')
      · exact .inl (heq' ▸ hlt)
    · obtain hlt' | ⟨heq', hle'⟩ := hgk
      · exact .inl (heq ▸ hlt')
      · exact .inr ⟨heq.trans heq', hname hle hle'⟩
  · simp only [if_true, decide_eq_true_eq] at *
    exact hname hfg hgk

/-- What is removed comes before all of the files that stay, of which there are as many as the
archive may hold. -/
theorem victims_spec (hnodup : files.Nodup) {f : ArchivedFile}
    (hf : f ∈ victims maxFiles byName files) :
    0 < maxFiles ∧ ∃ stay : List ArchivedFile, stay.length = maxFiles ∧ stay.Nodup ∧
      (∀ g ∈ stay, g ∈ files) ∧
      ∀ v ∈ victims maxFiles byName files, ∀ g ∈ stay, g ≠ v ∧ v.older byName g = true := by
  have hperm := List.mergeSort_perm files (ArchivedFile.older byName)
  have hsorted := List.pairwise_mergeSort (older_trans byName) (older_total byName) files
  unfold victims at hf ⊢
  split at hf
  · cases hf
  · next hmax =>
    rw [if_neg hmax]
    have hlong : maxFiles < files.length := by
      by_contra hshort
      rw [Nat.sub_eq_zero_of_le (by omega), List.take_zero] at hf
      cases hf
    have hsplit := List.take_append_drop (files.length - maxFiles)
      (files.mergeSort (ArchivedFile.older byName))
    have hnodup' := hperm.nodup_iff.mpr hnodup
    rw [← hsplit] at hsorted hnodup'
    rw [List.pairwise_append] at hsorted
    rw [List.nodup_append] at hnodup'
    refine ⟨by omega, _, ?_, hnodup'.2.1, ?_, ?_⟩
    · rw [List.length_drop, hperm.length_eq]
      omega
    · intro g hg
      exact hperm.subset (List.mem_of_mem_drop hg)
    · intro v hv g hg
      exact ⟨fun heq => hnodup'.2.2 v hv g hg heq.symm, hsorted.2.2 v hv g hg⟩

end Victims

/-! ### What holds at every step -/

def World.archived (w : World) (token : Token) : Prop :=
  ∃ folder, ∃ f ∈ w.archive folder, f.token = token

/-- The names that the strategy looks for at its place. -/
def Look.covers : Look → Folder → ArchivedFile → Bool
  | .processed, .processed, f | .rejected, .rejected, f => f.stamp.isNone
  | .globProcessed, .processed, f | .globRejected, .rejected, f => f.stamp.isSome
  | _, _, _ => false

def Look.before : Look → List Look
  | .inbox => []
  | .processed => [.inbox]
  | .rejected => [.inbox, .processed]
  | .globProcessed => [.inbox, .processed, .rejected]
  | .globRejected => [.inbox, .processed, .rejected, .globProcessed]
  | .write => [.inbox, .processed, .rejected, .globProcessed, .globRejected]

/-- The strategy has looked for a file of this name in this folder. -/
def Look.passed (stage : Look) (folder : Folder) (f : ArchivedFile) : Bool :=
  stage.before.any fun look => look.covers folder f

/-- A token whose file still stands is where the strategy has yet to look. -/
def World.Ahead (w : World) (token : Token) (stage : Look) : Prop :=
  stage ≠ .inbox → w.holds token = false ∧
    ∃ folder, ∃ f ∈ w.archive folder, f.token = token ∧ stage.passed folder f = false

/-- Of the files of a folder, those that are to be removed and those that stay. -/
structure Staying (maxFiles : ℕ) (byName : Bool) (files rest stay : List ArchivedFile) : Prop where
  length : stay.length = maxFiles
  nodup : stay.Nodup
  kept : ∀ g ∈ stay, g ∈ files
  later : ∀ v ∈ rest, ∀ g ∈ stay, g ≠ v ∧ v.older byName g = true

structure World.Sound (maxFiles : ℕ) (w : World) : Prop where
  nodup : ∀ folder, (w.archive folder).Nodup
  stands : ∀ token, Standing token w.log → w.holds token = true ∨ w.archived token
  ahead : ∀ token stage, w.strategy = some (token, stage) → Standing token w.log →
    w.Ahead token stage
  pruning : ∀ folder byName f rest, w.sidecar = .pruning folder byName (f :: rest) →
    0 < maxFiles ∧ ∃ stay, Staying maxFiles byName (w.archive folder) (f :: rest) stay
  pruned : Pruned maxFiles w.log
  spaced : Spaced maxFiles w.log

section Step
variable {maxFiles : ℕ} {w : World} {token : Token} {stage : Look}

/-- A step of the strategy alone. -/
theorem World.Sound.strategy (h : w.Sound maxFiles) (strategy : Option (Token × Look))
    (hahead : ∀ token stage, strategy = some (token, stage) → Standing token w.log →
      w.Ahead token stage) :
    { w with strategy := strategy }.Sound maxFiles :=
  ⟨h.nodup, h.stands, hahead, h.pruning, h.pruned, h.spaced⟩

/-- A step of the sidecar that changes no file. -/
theorem World.Sound.sidecar (h : w.Sound maxFiles) (sidecar : Moving)
    (hpruning : ∀ folder byName f rest, sidecar = .pruning folder byName (f :: rest) →
      0 < maxFiles ∧ ∃ stay, Staying maxFiles byName (w.archive folder) (f :: rest) stay) :
    { w with sidecar := sidecar }.Sound maxFiles :=
  ⟨h.nodup, h.stands, h.ahead, hpruning, h.pruned, h.spaced⟩

/-- A file that the strategy looks for is one that it sees. -/
theorem sees_of_covers {folder : Folder} {f : ArchivedFile} (hf : f ∈ w.archive folder)
    (htoken : f.token = token) (hcovers : stage.covers folder f = true) :
    w.sees token stage = true := by
  have hany : ∀ p : ArchivedFile → Bool, p f = true → (w.archive folder).any p = true :=
    fun p hp => List.any_eq_true.mpr ⟨f, hf, hp⟩
  cases stage <;> cases folder <;> simp only [Look.covers, Bool.false_eq_true] at hcovers
  · exact hany _ (by simpa [htoken] using hcovers)
  · exact hany _ (by simpa [htoken] using hcovers)
  · exact hany _ (by simpa [htoken] using hcovers)
  · exact hany _ (by simpa [htoken] using hcovers)

theorem Look.passed_next {folder : Folder} {f : ArchivedFile}
    (hpassed : stage.passed folder f = false)
    (hcovers : stage.covers folder f = false) : stage.next.passed folder f = false := by
  have hnext : ∀ look ∈ stage.next.before, look ∈ stage.before ∨ look = stage := by
    cases stage <;> decide
  unfold Look.passed at *
  rw [List.any_eq_false] at *
  intro look hlook
  obtain hbefore | rfl := hnext look hlook
  · exact hpassed look hbefore
  · rw [hcovers]
    exact Bool.false_ne_true

theorem Look.passed_write (folder : Folder) (f : ArchivedFile) :
    Look.write.passed folder f = true := by
  cases folder <;> cases hstamp : f.stamp <;>
    simp [Look.passed, Look.before, Look.covers, hstamp]

/-- What the strategy does not see is further ahead. -/
theorem World.Sound.look (h : w.Sound maxFiles) (hat : w.strategy = some (token, stage))
    (hsees : w.sees token stage = false) (hstanding : Standing token w.log) :
    w.Ahead token stage.next := by
  intro _
  have hwhere : w.holds token = false ∧
      ∃ folder, ∃ f ∈ w.archive folder, f.token = token ∧ stage.passed folder f = false := by
    by_cases hinbox : stage = .inbox
    · subst hinbox
      refine ⟨hsees, ?_⟩
      obtain hheld | ⟨folder, f, hf, htoken⟩ := h.stands token hstanding
      · rw [show w.sees token .inbox = w.holds token from rfl, hheld] at hsees
        cases hsees
      · exact ⟨folder, f, hf, htoken, rfl⟩
    · exact h.ahead token stage hat hstanding hinbox
  obtain ⟨hheld, folder, f, hf, htoken, hpassed⟩ := hwhere
  refine ⟨hheld, folder, f, hf, htoken, Look.passed_next hpassed ?_⟩
  by_contra hcovers
  rw [Bool.not_eq_false] at hcovers
  rw [sees_of_covers hf htoken hcovers] at hsees
  cases hsees

/-- Nothing that still stands is written again. -/
theorem World.Sound.not_standing (h : w.Sound maxFiles) (hat : w.strategy = some (token, .write)) :
    ¬Standing token w.log := by
  intro hstanding
  obtain ⟨-, folder, f, -, -, hpassed⟩ := h.ahead token .write hat hstanding (by decide)
  rw [Look.passed_write] at hpassed
  cases hpassed

theorem holds_put (w : World) (token other : Token) (mtime : ℕ) :
    (w.put token mtime).holds other = (decide (token = other) || w.holds other) := by
  have hfilter : ((w.inbox.filter fun entry => decide (entry.1 ≠ token)).any
      fun entry => decide (entry.1 = other)) = (decide (token ≠ other) && w.holds other) := by
    unfold World.holds
    rw [List.any_filter]
    induction w.inbox with
    | nil => simp
    | cons entry rest ih =>
      rw [List.any_cons, List.any_cons, ih]
      by_cases hentry : entry.1 = other
      · by_cases htoken : token = other
        · simp [hentry, htoken]
        · simp [hentry, htoken, Ne.symm htoken]
      · simp [hentry]
  have hput : (w.put token mtime).holds other = (decide (token = other) ||
      (w.inbox.filter fun entry => decide (entry.1 ≠ token)).any
        fun entry => decide (entry.1 = other)) := rfl
  rw [hput, hfilter]
  by_cases htoken : token = other <;> simp [htoken]

theorem World.Sound.write (h : w.Sound maxFiles) (mtime : ℕ)
    (hat : w.strategy = some (token, .write)) : (w.put token mtime).Sound maxFiles := by
  refine ⟨h.nodup, ?_, ?_, h.pruning, ?_, h.spaced.emit h.pruned (h.not_standing hat)⟩
  · intro other hstanding
    rw [holds_put]
    obtain rfl | hstanding := hstanding
    · exact .inl (by simp)
    · obtain hheld | harchived := h.stands other hstanding
      · exact .inl (by simp [hheld])
      · exact .inr harchived
  · intro other stage hstrategy
    cases hstrategy
  · intro f n hmem
    obtain heq | hmem := List.mem_cons.mp hmem
    · cases heq
    · exact h.pruned f n hmem

theorem holds_eq_true {token : Token} :
    w.holds token = true ↔ ∃ mtime, (token, mtime) ∈ w.inbox := by
  unfold World.holds
  rw [List.any_eq_true]
  constructor
  · rintro ⟨⟨other, mtime⟩, hmem, heq⟩
    rw [decide_eq_true_eq] at heq
    exact ⟨mtime, heq ▸ hmem⟩
  · rintro ⟨mtime, hmem⟩
    exact ⟨_, hmem, decide_eq_true rfl⟩

theorem mem_moveTo {other : Token} {folder place : Folder} {stamp : Option ℕ} {mtime : ℕ}
    {f : ArchivedFile} (hf : f ∈ w.archive place) (hother : f.token = other) (hne : other ≠ token) :
    f ∈ (w.moveTo token mtime folder stamp).archive place := by
  unfold World.moveTo
  dsimp only
  split
  · apply List.mem_cons_of_mem
    rw [List.mem_filter]
    refine ⟨hf, ?_⟩
    rw [decide_eq_true_eq]
    rintro ⟨htoken, -⟩
    exact hne (hother.symm.trans htoken)
  · exact hf

theorem holds_moveTo {other : Token} {folder : Folder} {stamp : Option ℕ} {mtime : ℕ} :
    (w.moveTo token mtime folder stamp).holds other = true ↔
      other ≠ token ∧ w.holds other = true := by
  rw [holds_eq_true, holds_eq_true]
  unfold World.moveTo
  simp only [List.mem_filter, decide_eq_true_eq]
  constructor
  · rintro ⟨m, hmem, hne⟩
    exact ⟨hne, m, hmem⟩
  · rintro ⟨hne, m, hmem⟩
    exact ⟨m, hmem, hne⟩

theorem World.Sound.moveTo (h : w.Sound maxFiles) {folder : Folder} {stamp : Option ℕ} {mtime : ℕ}
    (hheld : w.holds token = true) : (w.moveTo token mtime folder stamp).Sound maxFiles := by
  refine ⟨?_, ?_, ?_, ?_, h.pruned, h.spaced⟩
  · intro place
    unfold World.moveTo
    dsimp only
    split
    · rw [List.nodup_cons]
      refine ⟨?_, (h.nodup place).filter _⟩
      simp
    · exact h.nodup place
  · intro other hstanding
    by_cases hother : other = token
    · right
      refine ⟨folder, { token, stamp, mtime }, ?_, hother.symm⟩
      unfold World.moveTo
      dsimp only
      rw [if_pos rfl]
      exact List.mem_cons_self
    · obtain hheld | ⟨place, f, hf, htoken⟩ := h.stands other hstanding
      · exact .inl (holds_moveTo.mpr ⟨hother, hheld⟩)
      · exact .inr ⟨place, f, mem_moveTo hf htoken hother, htoken⟩
  · intro other stage hat hstanding hinbox
    obtain ⟨hgone, place, f, hf, htoken, hpassed⟩ := h.ahead other stage hat hstanding hinbox
    -- The file that is moved was in the inbox, where the strategy found none of its token.
    have hother : other ≠ token := by
      rintro rfl
      rw [hheld] at hgone
      cases hgone
    refine ⟨?_, place, f, mem_moveTo hf htoken hother, htoken, hpassed⟩
    rw [← Bool.not_eq_true, holds_moveTo, hgone]
    simp
  · intro _ _ _ _ hsidecar
    cases hsidecar

theorem World.Sound.list (h : w.Sound maxFiles) (folder : Folder) (byName : Bool) :
    { w with
      sidecar := .pruning folder byName
        (victims maxFiles byName (w.archive folder)) }.Sound maxFiles := by
  apply h.sidecar
  intro place order f rest heq
  obtain ⟨rfl, rfl, hvictims⟩ := Moving.pruning.inj heq
  have hf : f ∈ victims maxFiles byName (w.archive folder) := by
    rw [hvictims]
    exact List.mem_cons_self
  obtain ⟨hmax, stay, hlength, hnodup, hkept, hlater⟩ := victims_spec (h.nodup folder) hf
  rw [hvictims] at hlater
  exact ⟨hmax, stay, hlength, hnodup, hkept, hlater⟩

/-- As many files as may stay come after one that is removed. -/
theorem Staying.le_later {byName : Bool} {files rest stay : List ArchivedFile} {f : ArchivedFile}
    (h : Staying maxFiles byName files (f :: rest) stay) :
    maxFiles ≤ files.countP fun g => g ≠ f ∧ f.older byName g := by
  rw [← h.length, List.countP_eq_length_filter]
  apply List.Subperm.length_le
  apply List.subperm_of_subset h.nodup
  intro g hg
  rw [List.mem_filter, decide_eq_true_eq]
  exact ⟨h.kept g hg, h.later f List.mem_cons_self g hg⟩

theorem Staying.erase {byName : Bool} {files rest stay : List ArchivedFile} {f : ArchivedFile}
    (h : Staying maxFiles byName files (f :: rest) stay) :
    Staying maxFiles byName (files.erase f) rest stay := by
  refine ⟨h.length, h.nodup, ?_, fun v hv => h.later v (List.mem_cons_of_mem _ hv)⟩
  intro g hg
  exact (List.mem_erase_of_ne (h.later f List.mem_cons_self g hg).1).mpr (h.kept g hg)

theorem mem_remove {folder place : Folder} (byName : Bool) {f g : ArchivedFile}
    (hg : g ∈ w.archive place) (hne : g ≠ f) : g ∈ (w.remove folder byName f).archive place := by
  unfold World.remove
  dsimp only
  split
  · exact (List.mem_erase_of_ne hne).mpr hg
  · exact hg

theorem World.Sound.unlink (h : w.Sound maxFiles) {folder : Folder} {byName : Bool}
    {f : ArchivedFile} {rest : List ArchivedFile}
    (hsidecar : w.sidecar = .pruning folder byName (f :: rest)) :
    { w.remove folder byName f with sidecar := .pruning folder byName rest }.Sound maxFiles := by
  obtain ⟨hmax, stay, hstay⟩ := h.pruning folder byName f rest hsidecar
  have hne : ∀ {token : Token} {g : ArchivedFile}, f.token ≠ token → g.token = token → g ≠ f := by
    rintro token g hf hg rfl
    exact hf hg
  refine ⟨?_, ?_, ?_, ?_, ?_, h.spaced.prune _ _⟩
  · intro place
    unfold World.remove
    dsimp only
    split
    · exact (h.nodup place).erase f
    · exact h.nodup place
  · rintro token ⟨hf, hstanding⟩
    obtain hheld | ⟨place, g, hg, htoken⟩ := h.stands token hstanding
    · exact .inl hheld
    · exact .inr ⟨place, g, mem_remove byName hg (hne hf htoken), htoken⟩
  · rintro token stage hat ⟨hf, hstanding⟩ hinbox
    obtain ⟨hgone, place, g, hg, htoken, hpassed⟩ := h.ahead token stage hat hstanding hinbox
    exact ⟨hgone, place, g, mem_remove byName hg (hne hf htoken), htoken, hpassed⟩
  · intro place order v others heq
    cases heq
    refine ⟨hmax, stay, ?_⟩
    have harchive : (w.remove folder byName f).archive folder = (w.archive folder).erase f :=
      if_pos rfl
    rw [harchive]
    exact hstay.erase
  · intro g n hmem
    obtain heq | hmem := List.mem_cons.mp hmem
    · cases heq
      exact ⟨hmax, hstay.le_later⟩
    · exact h.pruned g n hmem

end Step

theorem World.Sound.step {maxFiles : ℕ} {w : World} (h : w.Sound maxFiles) (act : Act) :
    (w.step maxFiles act).Sound maxFiles := by
  cases act with
  | begin token =>
    apply h.strategy
    intro other stage heq _ hinbox
    cases heq
    exact absurd rfl hinbox
  | look =>
    simp only [World.step]
    cases hat : w.strategy with
    | none => exact h
    | some place =>
      obtain ⟨token, stage⟩ := place
      dsimp only
      apply h.strategy
      intro other next heq hstanding
      split at heq
      · cases heq
      · next hsees =>
        cases heq
        exact h.look hat (Bool.not_eq_true _ ▸ hsees) hstanding
  | write mtime =>
    simp only [World.step]
    split
    · next token hat => exact h.write mtime hat
    · exact h
  | abandon =>
    apply h.strategy
    intro _ _ heq
    cases heq
  | pick token folder =>
    simp only [World.step]
    split
    · apply h.sidecar
      intro _ _ _ _ heq
      cases heq
    · exact h
  | choose ns =>
    simp only [World.step]
    split
    · apply h.sidecar
      intro _ _ _ _ heq
      cases heq
    · exact h
  | rename =>
    simp only [World.step]
    split
    · next token folder stamp _ =>
      split
      · next found mtime hfind =>
        have hheld : w.holds token = true := by
          rw [World.holds, List.any_eq_true]
          exact ⟨_, List.mem_of_find?_eq_some hfind, by simpa using List.find?_some hfind⟩
        exact h.moveTo hheld
      · apply h.sidecar
        intro _ _ _ _ heq
        cases heq
    · exact h
  | list byName =>
    simp only [World.step]
    split
    · next folder _ => exact h.list folder byName
    · exact h
  | unlink ok =>
    simp only [World.step]
    split
    · next folder byName f rest hsidecar =>
      cases ok with
      | true => exact h.unlink hsidecar
      | false =>
        apply h.sidecar
        intro place order v others heq
        cases heq
        obtain ⟨hmax, stay, hstay⟩ := h.pruning folder byName f (v :: others) hsidecar
        exact ⟨hmax, stay, hstay.length, hstay.nodup, hstay.kept,
          fun u hu => hstay.later u (List.mem_cons_of_mem _ hu)⟩
    · apply h.sidecar
      intro _ _ _ _ heq
      cases heq
    · exact h
  | die =>
    apply h.sidecar
    intro _ _ _ _ heq
    cases heq

theorem sound_run (maxFiles : ℕ) (acts : List Act) : (run maxFiles acts).Sound maxFiles := by
  have hall : ∀ w : World, w.Sound maxFiles →
      (acts.foldl (World.step maxFiles) w).Sound maxFiles := by
    induction acts with
    | nil => exact fun w h => h
    | cons act rest ih => exact fun w h => ih _ (h.step act)
  apply hall
  refine ⟨fun _ => List.nodup_nil, ?_, ?_, ?_, ?_, ?_⟩
  · intro token h
    cases h
  · intro token stage h
    cases h
  · intro _ _ _ _ h
    cases h
  · intro f n h
    cases h
  · intro later token between earlier h
    simp at h

/-- In every interleaving of the steps of the strategy and of the sidecar, with either of them dying
anywhere: no token is emitted a second time before an archived file of it was removed, and then as
many files that come after it stayed as an archive may hold; so none is where nothing is pruned. -/
theorem emitted_once (maxFiles : ℕ) (acts : List Act) :
    Spaced maxFiles (run maxFiles acts).log ∧
      (maxFiles = 0 → ∀ token, (run maxFiles acts).log.count (.emitted token) ≤ 1) := by
  have hspaced := (sound_run maxFiles acts).spaced
  refine ⟨hspaced, ?_⟩
  rintro rfl token
  by_contra htwice
  have hmem : .emitted token ∈ (run 0 acts).log := List.count_pos_iff.mp (by omega)
  obtain ⟨later, rest, hlog, hlater⟩ := List.eq_append_cons_of_mem hmem
  rw [hlog, List.count_append, List.count_eq_zero_of_not_mem hlater, List.count_cons_self] at htwice
  obtain ⟨between, earlier, hrest⟩ :=
    List.append_of_mem (List.count_pos_iff.mp (show 0 < rest.count (.emitted token) by omega))
  rw [hrest] at hlog
  obtain ⟨-, -, -, -, hpos, -⟩ := hspaced later token between earlier hlog
  exact absurd hpos (Nat.lt_irrefl 0)

end SpotSidecar.Seam
