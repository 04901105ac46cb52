import SpotSidecar.Supervisor.Claims

/-! A signal or a command that a process left in progress: what its replay does. -/
namespace SpotSidecar.Supervisor
open Interaction Prog
variable {σ α β γ : Type} {cfg : Config} {env : Env σ}

/-! ### Files of results -/

/-- There is a file of a result for claimed commands only, and for one that is in progress only if
it was replayed. -/
structure Accounted (w : World σ) : Prop where
  claimed : ∀ id, (w.tables.results id).isSome = true → (w.tables.commands id).isSome = true
  replayed : ∀ id, (w.tables.results id).isSome = true →
    w.tables.commands id = some .inProgress → .replaying id ∈ w.log
  named : ∀ id p, w.tables.commands id = some (.finished p) → p.commandId = id

namespace Accounted
variable {w w' : World σ}

theorem congr (h : Accounted w) (ht : w'.tables = w.tables) (hlog : ∀ e ∈ w.log, e ∈ w'.log) :
    Accounted w' where
  claimed := by
    rw [ht]
    exact h.claimed
  replayed id hr hc := by
    rw [ht] at hr hc
    exact hlog _ (h.replayed id hr hc)
  named := by
    rw [ht]
    exact h.named

theorem unbooked (hs : Unbooked w w') (h : Accounted w) : Accounted w' := by
  obtain ⟨ht, es, hlog, -⟩ := hs
  exact h.congr ht fun e he => by rw [hlog]; exact List.mem_append_right _ he

theorem note (h : Accounted w) (e : Event) : Accounted (w.note e) :=
  h.congr rfl fun _ he => List.mem_cons_of_mem _ he

/-- A write happens or changes nothing. -/
theorem write (h : Accounted w) (a : γ) {f : World σ → World σ}
    (hf : ∀ v : World σ, v.tables = w.tables → v.log = w.log → Accounted (f v)) :
    Accounted (w.write env a f).2 := by
  obtain ⟨v, ht, hlog, hv | ⟨x, hv⟩⟩ := World.write_cases env w a f
  · rw [hv]
    exact hf v ht hlog
  · rw [hv]
    exact h.congr ht fun e he => hlog ▸ he

theorem signalsDeed (h : Accounted w) (a : γ) (s : World σ → String → Option String) :
    Accounted (w.write env a fun v => { v with tables := { v.tables with signals := s v } }).2 := by
  refine h.write a fun v ht hlog => ?_
  have hv : Accounted v := h.congr ht fun e he => hlog ▸ he
  exact ⟨hv.claimed, hv.replayed, hv.named⟩

theorem claimCommand (h : Accounted w) (id : String) :
    Accounted ((Deed.claimCommand id).exec env _ w).2 := by
  refine h.write _ fun v ht hlog => ?_
  have hv : Accounted v := h.congr ht fun e he => hlog ▸ he
  have hrow : ∀ x, (Supervisor.claimed w.tables.commands id .inProgress).2 x =
      if x = id ∧ v.tables.commands id = none then some .inProgress else v.tables.commands x := by
    intro x
    rw [ht, Supervisor.claimed]
    cases hc : w.tables.commands id with
    | none => simp [Function.update_apply]
    | some r => simp
  refine ⟨fun x hx => ?_, fun x hx hc => ?_, fun x p hc => ?_⟩
  · dsimp only
    rw [hrow]
    split
    · rfl
    · exact hv.claimed x hx
  · dsimp only at hx hc
    rw [hrow] at hc
    split at hc
    · next hnew =>
      have hsome := hv.claimed x hx
      rw [hnew.1, hnew.2] at hsome
      cases hsome
    · exact hv.replayed x hx hc
  · dsimp only at hc
    rw [hrow] at hc
    split at hc
    · cases hc
    · exact hv.named x p hc

variable (env) in
/-- The result of a command is recorded before its file is written. -/
theorem recordCommand (h : Accounted w) (payload : Payload) :
    Accounted ((Deed.recordCommand payload).exec env _ w).2 := by
  refine h.write _ fun v ht hlog => ?_
  have hv : Accounted v := h.congr ht fun e he => hlog ▸ he
  refine ⟨fun x hx => ?_, fun x hx hc => ?_, fun x p hc => ?_⟩
  · exact update_isSome _ _ (hv.claimed x hx)
  · dsimp only at hx hc
    rw [Function.update_apply] at hc
    split at hc
    · cases hc
    · exact hv.replayed x hx hc
  · dsimp only at hc
    rw [Function.update_apply] at hc
    split at hc
    · next hx =>
      cases hc
      exact hx.symm
    · exact hv.named x p hc

theorem writeResult (h : Accounted w) {payload : Payload}
    (hclaimed : (w.tables.commands payload.commandId).isSome = true)
    (hreplayed : w.tables.commands payload.commandId = some .inProgress →
      .replaying payload.commandId ∈ w.log) :
    Accounted ((Deed.writeResult payload).exec env _ w).2 := by
  refine h.write _ fun v ht hlog => ?_
  have hv : Accounted v := h.congr ht fun e he => hlog ▸ he
  rw [← ht] at hclaimed hreplayed
  rw [← hlog] at hreplayed
  refine ⟨fun x hx => ?_, fun x hx hc => ?_, hv.named⟩
  · dsimp only at hx ⊢
    rw [Function.update_apply] at hx
    split at hx
    · next heq => rwa [heq]
    · exact hv.claimed x hx
  · dsimp only at hx hc ⊢
    rw [Function.update_apply] at hx
    split at hx
    · next heq =>
      rw [heq] at hc ⊢
      exact hreplayed hc
    · exact hv.replayed x hx hc

theorem removeResults (h : Accounted w) (ids : List String) :
    Accounted ((Deed.removeResults ids).exec env _ w).2 := by
  refine h.write _ fun v ht hlog => ?_
  have hv : Accounted v := h.congr ht fun e he => hlog ▸ he
  have hkept : ∀ x, (if x ∈ ids then none else v.tables.results x).isSome = true →
      (v.tables.results x).isSome = true := by
    intro x hx
    split at hx
    · cases hx
    · exact hx
  exact ⟨fun x hx => hv.claimed x (hkept x hx), fun x hx => hv.replayed x (hkept x hx), hv.named⟩

end Accounted

theorem accounted_recordCommand (payload : Payload) :
    Triple (Deed.exec env) Accounted (.perform (.recordCommand payload))
      (fun _ w => Accounted w ∧ w.tables.commands payload.commandId = some (.finished payload))
      (fun _ => Accounted) Accounted := by
  refine .perform (fun _ hw => hw) (fun w a w' hw heq => ?_) fun w e w' hw heq => ?_
  · have hnext := hw.recordCommand env payload
    rw [heq] at hnext
    refine ⟨hnext, ?_⟩
    simp only [Deed.exec] at heq
    obtain ⟨-, v, -, rfl⟩ := World.write_ok heq
    exact Function.update_self ..
  · have hnext := hw.recordCommand env payload
    rwa [heq] at hnext

theorem accounted_written (c : CommandPayload) (ok : Bool) (result : String) :
    Keeps (Deed.exec env) Accounted (writeCommandResult cfg c ok result) := by
  refine Triple.bind (accounted_recordCommand _) fun _ => ?_
  refine .perform_same (fun _ hw => hw.1) fun w ⟨hw, hc⟩ => hw.writeResult ?_ ?_
  · rw [hc]
    rfl
  · rw [hc]
    exact nofun

theorem accounted_replayed (c : CommandPayload) :
    Keeps (Deed.exec env) Accounted (replayCommand c) := by
  unfold replayCommand
  refine Triple.bind (Q := fun (t : Tables) w => Accounted w ∧ w.tables = t)
    (fun w hw => ⟨hw, hw, rfl⟩) fun t => ?_
  split
  · next hc hr =>
    refine Triple.bind (Q := fun _ w => Accounted w ∧
      w.tables.commands c.commandId = some .inProgress ∧ .replaying c.commandId ∈ w.log)
      (fun w hw => ⟨hw.1, hw.1.note _, hw.2 ▸ hc, List.mem_cons_self⟩) fun _ => ?_
    refine Triple.bind (.perform_same (fun _ hw => hw.1) fun w ⟨hw, hc, hlog⟩ =>
      hw.writeResult ?_ fun _ => hlog) fun _ => ?_
    · rw [hc]
      rfl
    · exact keeps_working Accounted.unbooked _
  · exact .perform_same (fun _ hw => hw.1) fun w hw => hw.1.note _
  · next payload hc hr =>
    refine .perform_same (fun _ hw => hw.1) fun w ⟨hw, ht⟩ => ?_
    subst ht
    have hname := hw.named _ _ hc
    refine hw.writeResult ?_ ?_
    · rw [hname, hc]
      rfl
    · rw [hname, hc]
      exact nofun
  · exact .pure fun _ hw => hw.1

theorem accounted_bookkeeping : Bookkeeping cfg env Accounted (fun _ => Accounted)
    (fun _ => Accounted) fun _ => Accounted where
  signal :=
    { unbooked := Accounted.unbooked
      fresh := fun _ => Accounted.unbooked
      weak := fun _ hw => hw
      claim := fun _ => claim_elsewhere fun _ hw => hw.signalsDeed _ _
      submitting := fun _ _ hw => hw.note _
      record := fun _ _ _ hw => hw.signalsDeed _ _ }
  command :=
    { unbooked := Accounted.unbooked
      going := fun _ => Accounted.unbooked
      weak := fun _ hw => hw
      expired := fun _ hw => hw
      claim := fun id => claim_elsewhere fun _ hw => hw.claimCommand id
      executing := fun _ _ hw => hw.note _
      written := accounted_written
      replayed := accounted_replayed }
  remove ids _ hw := hw.removeResults ids

/-! ### What a replay leaves behind -/

/-- Entries are off. -/
def EntriesOff (w : World σ) : Prop := w.entries = false

theorem EntriesOff.steady {w w' : World σ} (hs : Steady w w') (hw : EntriesOff w) :
    EntriesOff w' := by
  obtain ⟨e, es, hadapter, -, -⟩ := hs
  rw [EntriesOff, World.entries, hadapter]
  exact hw

theorem entriesOff_hearing (p : Point) : Hearing env p (EntriesOff (σ := σ)) where
  calm f w hf _ hw :=
    (congrArg SidecarData.entriesEnabled (Act.calm_flags env.toEnv hf w.adapter).2).trans hw
  memory f hf w hw := ⟨hw, hw, hw⟩
  data f hf w hw := ⟨hw, hw, (hf _).2.trans hw⟩
  pause reason := by
    refine .bind (fun w hw => ⟨hw, hw, hw⟩) fun _ => .bind (fun w hw => ⟨hw, hw, rfl⟩) fun _ => ?_
    exact .bind (.attempt (.perform fun w hw => hw)) fun _ => .pure

theorem entriesOff_gap (p : Point) : Keeps (Work.exec env) EntriesOff (gap p) :=
  keeps_gap (fun _ hw => hw) (entriesOff_hearing p).callback

theorem entriesOff_calm {m : Asking α} (hm : Calm m) :
    Keeps (Work.exec env) EntriesOff (own (liftM m)) := by
  intro w hw
  induction m generalizing w with
  | pure a => exact hw
  | raise e => exact hw
  | act a next ih =>
    have ha : (Act.fold (.ask a)).calm := by cases a <;> first | exact hm.1.elim | trivial
    refine ⟨hw, ih _ (hm.2 _) _ ?_⟩
    exact (congrArg SidecarData.entriesEnabled (Act.calm_flags env.toEnv ha w.adapter).2).trans hw

theorem entriesOff_lockedCall (c : Call γ) :
    Keeps (Work.exec env) EntriesOff (locked (liftM (call c))) :=
  .bind (entriesOff_gap _) fun _ => entriesOff_calm (.call c)

theorem entriesOff_setDisabled : Keeps (Work.exec env) EntriesOff setDisabled :=
  .bind (entriesOff_gap _) fun _ _ hw => ⟨hw, hw, hw⟩

theorem entriesOff_setEntries (reason : String) : Triple (Work.exec env) (fun _ => True)
    (setEntries false reason) (fun _ => EntriesOff) (fun _ _ => True) fun _ => True := by
  refine Triple.bind (Q := fun _ => EntriesOff) (Triple.bind Triple.top fun _ w hw => ?_)
    fun _ => ?_
  · exact ⟨trivial, trivial, rfl⟩
  · refine (Keeps.perform fun w hw => hw.steady ?_).conseq (fun _ hw => hw) (fun _ _ hw => hw)
      (fun _ _ _ => trivial) fun _ _ => trivial
    exact Work.plain_steady env (a := .save) trivial w

/-- `_disarm` ends with entries off, or raises. -/
theorem entriesOff_disarm (reason : String) : Triple (Work.exec env) (fun _ => True)
    (disarm reason) (fun _ => EntriesOff) (fun _ _ => True) fun _ => True := by
  unfold disarm
  refine Triple.bind (Q := fun persisted w => persisted = .ok () → EntriesOff w)
    (.attempt ((entriesOff_setEntries reason).conseq (fun _ hw => hw) (fun _ _ hw _ => hw)
      (fun _ _ _ => nofun) fun _ hw => hw)) fun persisted => ?_
  refine Triple.bind (Q := fun _ w => persisted = .ok () → EntriesOff w) ?_ fun disabled => ?_
  · by_cases hp : persisted = .ok ()
    · refine (Keeps.attempt entriesOff_setDisabled).conseq (fun _ hw => hw hp) (fun _ _ hw _ => hw)
        (fun _ _ _ => trivial) fun _ _ => trivial
    · exact Triple.top.conseq (fun _ hw => hw) (fun _ _ _ h => absurd h hp) (fun _ _ _ => trivial)
        fun _ _ => trivial
  · cases persisted with
    | ok u =>
      cases disabled with
      | ok u' => exact .pure fun _ hw => hw rfl
      | error e => exact .raise fun _ _ => trivial
    | error e => cases disabled <;> exact .raise fun _ _ => trivial

theorem triple_working {α : Type} {P : World σ → Prop} {Q : α → World σ → Prop}
    {E : Exc → World σ → Prop} {C : World σ → Prop} {m : Working α}
    (hm : Triple (Work.exec env) P m Q E C) :
    Triple (Deed.exec env) P (liftM m : Doing α) Q E C :=
  Triple.lift (fun _ _ => rfl) hm

/-- A task that handles a file and disarms after a failure ends with entries off, if both do. -/
theorem entriesOff_handled {P : World σ → Prop} {m : Doing α} {next : Except Exc α → Doing Unit}
    (hm : Triple (Deed.exec env) P m (fun _ => EntriesOff) (fun _ _ => True) fun _ => True)
    (hok : ∀ a, Triple (Deed.exec env) EntriesOff (next (.ok a)) (fun _ => EntriesOff)
      (fun _ _ => True) fun _ => True)
    (herror : ∀ e, Triple (Deed.exec env) (fun _ => True) (next (.error e)) (fun _ => EntriesOff)
      (fun _ _ => True) fun _ => True) :
    Triple (Deed.exec env) P (m.attempt >>= next) (fun _ => EntriesOff) (fun _ _ => True)
      fun _ => True := by
  refine Triple.bind (Q := fun r w => ∀ a, r = .ok a → EntriesOff w) (.attempt ?_) fun r => ?_
  · exact hm.conseq (fun _ hw => hw) (fun _ _ hw _ _ => hw) (fun _ _ _ => nofun) fun _ hw => hw
  · cases r with
    | ok a => exact (hok a).weaken fun _ hw => hw a rfl
    | error e => exact (herror e).weaken fun _ _ => trivial

/-- A claim that a process left in progress. -/
structure LeftCommand (id : String) (w : World σ) : Prop where
  progress : w.tables.commands id = some .inProgress
  unanswered : w.tables.results id = none

theorem LeftCommand.unbooked {id : String} {w w' : World σ} (hs : Unbooked w w')
    (hw : LeftCommand id w) : LeftCommand id w' :=
  ⟨hs.1 ▸ hw.progress, hs.1 ▸ hw.unanswered⟩

/-- The first replay of a command that was left in progress turns entries off. -/
theorem entriesOff_replayCommand (c : CommandPayload) :
    Triple (Deed.exec env) (LeftCommand c.commandId) (replayCommand c) (fun _ => EntriesOff)
      (fun _ _ => True) fun _ => True := by
  unfold replayCommand
  refine Triple.bind (Q := fun (t : Tables) _ => t.commands c.commandId = some .inProgress ∧
    t.results c.commandId = none) (fun w hw => ⟨trivial, hw.progress, hw.unanswered⟩) fun t => ?_
  refine Triple.weaken (R := fun _ => True ∧ (t.commands c.commandId = some .inProgress ∧
    t.results c.commandId = none)) (Triple.assume_eq fun ⟨hc, hr⟩ => ?_) fun _ hw => ⟨trivial, hw⟩
  rw [hc, hr]
  refine Triple.bind Triple.top fun _ => Triple.bind Triple.top fun _ => ?_
  exact triple_working (entriesOff_setEntries _)

/-- The claim of a command that is claimed already. -/
theorem leftCommand_claim (id : String) : Triple (Deed.exec env) (LeftCommand id)
    (.perform (.claimCommand id)) (fun isNew w => LeftCommand id w ∧ isNew = false)
    (fun _ _ => True) fun _ => True := by
  refine .perform (fun _ _ => trivial) (fun w isNew w' hw heq => ?_) fun _ _ _ _ _ => trivial
  simp only [Deed.exec] at heq
  have hclaim : claimed w.tables.commands id .inProgress = (false, w.tables.commands) := by
    rw [claimed, hw.progress]
    rfl
  obtain ⟨rfl, v, ht, rfl⟩ := World.write_ok heq
  refine ⟨⟨?_, ?_⟩, by rw [hclaim]⟩
  · dsimp only
    rw [hclaim]
    exact hw.progress
  · dsimp only
    rw [ht]
    exact hw.unanswered

theorem own_call (c : Call γ) :
    own (liftM (call c)) = .perform (.adapter (.fold (.ask (.call c)))) := by
  change Prog.lift _ (Prog.lift _ (Prog.lift _ (.perform _))) = _
  rw [lift_perform, lift_perform, lift_perform]

/-- The handling of a command in time, of which another process left the claim. -/
theorem entriesOff_commandTask {c : CommandPayload} {now : ℚ} {s : σ}
    (htoken : isToken c.commandId = true) (hnow : (env.call _ .time s).1 = .ok now)
    (htimely : c.timely cfg now = true) :
    Triple (Deed.exec env) (fun w => LeftCommand c.commandId w ∧ w.adapter.env = s)
      (commandTask cfg (.verified c)) (fun _ => EntriesOff) (fun _ _ => True) fun _ => True := by
  unfold commandTask
  refine entriesOff_handled ?_ (fun _ => .pure fun _ hw => hw) fun e => ?_
  · unfold processCommand
    simp only [htoken, Bool.not_true, Bool.false_eq_true, if_false]
    refine Triple.bind (Q := fun n w => LeftCommand c.commandId w ∧ n = now) ?_ fun n => ?_
    · refine triple_working ?_
      rw [own_call]
      refine Triple.perform (fun _ _ => trivial) (fun w n w' hw heq => ?_) fun _ _ _ _ _ => trivial
      obtain ⟨hleft, rfl⟩ := hw
      have hnext := hleft.unbooked (Work.exec_unbooked env
        (.adapter (.fold (.ask (.call .time)))) w)
      have hanswer : (Work.exec env _ (.adapter (.fold (.ask (.call .time)))) w).1 = .ok now := hnow
      rw [heq] at hnext hanswer
      exact ⟨hnext, Except.ok.inj hanswer⟩
    · refine Triple.assume_eq ?_
      rintro rfl
      rw [if_pos htimely]
      refine Triple.bind (leftCommand_claim _) fun isNew => Triple.assume_eq ?_
      rintro rfl
      exact entriesOff_replayCommand c
  · exact Triple.bind (triple_working (entriesOff_disarm _)) fun _ => .pure fun _ hw => hw

/-! ### Signals that were left in progress -/

/-- A signal that a process left in progress. -/
def LeftSignal (id : String) (w : World σ) : Prop := w.tables.signals id = some "IN_PROGRESS"

theorem LeftSignal.congr {id : String} {w w' : World σ} (hw : LeftSignal id w)
    (htables : w'.tables = w.tables) : LeftSignal id w' :=
  (congrArg (fun t : Tables => t.signals id) htables).trans hw

theorem LeftSignal.unbooked {id : String} {w w' : World σ} (hs : Unbooked w w')
    (hw : LeftSignal id w) : LeftSignal id w' :=
  hw.congr hs.1

theorem entriesOff_pauseAll (reason : String) : Triple (Work.exec env) (fun _ => True)
    (pauseAll reason) (fun _ => EntriesOff) (fun _ _ => True) fun _ => True := by
  unfold pauseAll
  refine Triple.bind (entriesOff_setEntries _) fun _ => ?_
  refine (Keeps.bind (entriesOff_lockedCall _) fun _ =>
    .bind (.attempt entriesOff_setDisabled) fun _ => .pure).conseq (fun _ hw => hw)
    (fun _ _ hw => hw) (fun _ _ _ => trivial) fun _ _ => trivial

theorem entriesOff_rejectUnrecorded (sig : Option Signal) (reason : String) :
    Keeps (Deed.exec env) EntriesOff (reject sig reason false) := by
  have hlast : Keeps (Deed.exec env) EntriesOff (liftM (ask (.move false)) >>= fun _ =>
      Pure.pure (false, reason) : Doing Result) :=
    .bind (triple_working (Keeps.perform fun w hw => hw)) fun _ => .pure
  unfold reject
  split
  · rw [if_neg Bool.false_ne_true]
    exact hlast
  · exact hlast

/-- The replay of a signal that was left in progress turns entries off. -/
theorem entriesOff_handleCandidate (c : Candidate) :
    Triple (Deed.exec env) (LeftSignal c.id) (handleCandidate cfg c) (fun _ => EntriesOff)
      (fun _ _ => True) fun _ => True := by
  unfold handleCandidate
  refine Triple.bind (Q := fun (t : Tables) _ => True ∧ t.signals c.id = some "IN_PROGRESS")
    (fun w hw => ⟨trivial, trivial, hw⟩) fun t => Triple.assume_eq fun ht => ?_
  rw [ht]
  refine Triple.bind (triple_working (entriesOff_pauseAll _)) fun _ => ?_
  exact (entriesOff_rejectUnrecorded _ _).conseq (fun _ hw => hw) (fun _ _ hw => hw)
    (fun _ _ _ => trivial) fun _ _ => trivial

theorem entriesOff_signalTask {sig : Signal} {c : Candidate} (hc : screen cfg sig = .passed c) :
    Triple (Deed.exec env) (LeftSignal c.id) (signalTask cfg (.verified sig))
      (fun _ => EntriesOff) (fun _ _ => True) fun _ => True := by
  unfold signalTask
  refine entriesOff_handled ?_ (fun _ => .pure fun _ hw => hw) fun e => ?_
  · simp only [processSignal, hc]
    exact entriesOff_handleCandidate c
  · refine Triple.bind (triple_working (entriesOff_disarm _)) fun _ => ?_
    refine (Keeps.bind (triple_working (Keeps.attempt (entriesOff_lockedCall _))) fun _ =>
      Keeps.pure).conseq (fun _ hw => hw) (fun _ _ hw => hw) (fun _ _ _ => trivial)
      fun _ _ => trivial

/-- A file that `process_signal` refuses before it looks at what became of the signal, and
records as refused under this id. -/
def Overwrites (cfg : Config) (file : SignalFile) (id : String) : Prop :=
  ∃ sig reason detail, file = .verified sig ∧ screen cfg sig = .refused reason detail true ∧
    sig.recordable = some id

theorem leftSignal_work {id : String} (m : Working α) :
    Keeps (Deed.exec env) (LeftSignal id) (liftM m : Doing α) :=
  keeps_working LeftSignal.unbooked m

theorem leftSignal_record {id x : String} (result : String) (hne : x ≠ id) {w : World σ}
    (hw : LeftSignal id w) : LeftSignal id ((Deed.recordSignal x result).exec env _ w).2 := by
  refine World.of_write () (fun v ht => hw.congr ht) fun v ht => ?_
  exact (Function.update_of_ne hne.symm _ _).trans (hw.congr ht)

theorem leftSignal_claim {id : String} (x : String) {w : World σ} (hw : LeftSignal id w) :
    LeftSignal id ((Deed.claimSignal x).exec env _ w).2 := by
  refine World.of_write _ (fun v ht => hw.congr ht) fun v ht => ?_
  change (claimed w.tables.signals x "IN_PROGRESS").2 id = some "IN_PROGRESS"
  unfold claimed
  split
  · exact hw
  · refine (Function.update_apply ..).trans ?_
    split
    · rfl
    · exact hw

theorem leftSignal_reject {id : String} (sig : Option Signal) (reason : String) (record : Bool)
    (h : record = true → sig.bind Signal.recordable ≠ some id) :
    Keeps (Deed.exec env) (LeftSignal id) (reject sig reason record) := by
  unfold reject
  have hlast : Keeps (Deed.exec env) (LeftSignal id)
      (liftM (ask (.move false)) >>= fun _ => Pure.pure (false, reason) : Doing Result) :=
    .bind (leftSignal_work _) fun _ => .pure
  split
  · next x hx =>
    split
    · next hrecord =>
      refine .bind (.perform fun w hw => leftSignal_record _ ?_ hw) fun _ => hlast
      rintro rfl
      exact h hrecord hx
    · exact hlast
  · exact hlast

theorem leftSignal_submitSignal {id : String} {c : Candidate} (hne : c.id ≠ id) :
    Keeps (Deed.exec env) (LeftSignal id) (submitSignal cfg c) := by
  unfold submitSignal
  refine .bind (leftSignal_work _) fun _ => .bind (leftSignal_work _) fun _ => ?_
  refine .bind (leftSignal_work _) fun s => .bind (leftSignal_work _) fun _ => ?_
  refine .bind (leftSignal_work _) fun size => .bind (.perform fun w hw => hw) fun _ => ?_
  refine .bind (leftSignal_work _) fun answer => .bind (leftSignal_work _) fun d => ?_
  refine .bind (leftSignal_work _) fun _ => ?_
  refine .bind (.perform fun w hw => leftSignal_record _ hne hw) fun _ => ?_
  have hlast : Keeps (Deed.exec env) (LeftSignal id) (liftM (ask (.move answer.1)) >>= fun _ =>
      Pure.pure (answer.1, answer.2) : Doing Result) :=
    .bind (leftSignal_work _) fun _ => .pure
  split
  · exact .bind (leftSignal_work _) fun _ => hlast
  · exact hlast

theorem leftSignal_handleCandidate {id : String} {c : Candidate}
    (hc : ∀ x, c.signal.recordable = some x → x = c.id) :
    Keeps (Deed.exec env) (LeftSignal id) (handleCandidate cfg c) := by
  have hother : ∀ (hne : c.id ≠ id) (reason : String),
      Keeps (Deed.exec env) (LeftSignal id) (reject (some c.signal) reason true) :=
    fun hne reason => leftSignal_reject _ _ _ fun _ hx => hne (hc id hx).symm
  have hnone : ∀ reason,
      Keeps (Deed.exec env) (LeftSignal id) (reject (some c.signal) reason false) :=
    fun reason => leftSignal_reject _ _ _ nofun
  unfold handleCandidate
  refine Triple.bind (Q := fun (t : Tables) w => LeftSignal id w ∧
    t.signals id = some "IN_PROGRESS") (fun w hw => ⟨hw, hw, hw⟩) fun t =>
    Triple.assume_eq fun ht => ?_
  split
  · next prior hprior =>
    split
    · exact .bind (leftSignal_work _) fun _ => hnone _
    · exact hnone _
  · next hprior =>
    have hne : c.id ≠ id := by
      rintro rfl
      rw [hprior] at ht
      cases ht
    split
    · exact hother hne _
    · refine Keeps.bind (leftSignal_work _) fun refused => ?_
      split
      · exact hother hne _
      · refine .bind (.perform fun w hw => leftSignal_claim _ hw) fun isNew => ?_
        split
        · exact leftSignal_submitSignal hne
        · exact hnone _

/-- The candidate of a signal is recorded under its own id. -/
theorem screen_passed {sig : Signal} {c : Candidate} (h : screen cfg sig = .passed c) (x : String)
    (hx : c.signal.recordable = some x) : x = c.id := by
  unfold screen at h
  split at h
  · cases h
  · split at h
    · cases h
    · dsimp only at h
      split at h
      · cases h
      · split at h
        · cases h
          unfold Signal.recordable at hx
          split at hx
          · obtain ⟨hx, -⟩ := Option.filter_eq_some_iff.mp hx
            rw [hx]
            rfl
          · cases hx
        · cases h

theorem leftSignal_processSignal {id : String} {file : SignalFile}
    (h : ¬Overwrites cfg file id) :
    Keeps (Deed.exec env) (LeftSignal id) (processSignal cfg file) := by
  cases file with
  | tooLarge => exact leftSignal_reject none "signal_file_too_large" true fun _ => nofun
  | invalid detail => exact leftSignal_reject none "invalid_signed_envelope" false fun _ => nofun
  | verified sig =>
    unfold processSignal
    dsimp only
    split
    · next reason detail record hscreen =>
      refine leftSignal_reject _ _ _ ?_
      rintro rfl hx
      exact h ⟨sig, reason, detail, rfl, hscreen, hx⟩
    · next c hscreen => exact leftSignal_handleCandidate (screen_passed hscreen)

/-- What leaves the signals alone keeps a signal in progress. -/
theorem leftSignal_command (id : String) : CommandBooking cfg env (LeftSignal id)
    (fun _ => LeftSignal id) fun _ => LeftSignal id := by
  have hwrite : ∀ {γ : Type} (w : World σ) (a : γ) (f : World σ → World σ),
      (∀ v : World σ, (f v).tables.signals = v.tables.signals) → LeftSignal id w →
      LeftSignal id (w.write env a f).2 := by
    intro γ w a f hf hw
    refine World.of_write a (fun v ht => hw.congr ht) fun v ht => ?_
    rw [LeftSignal, hf v]
    exact hw.congr ht
  exact
    { unbooked := LeftSignal.unbooked
      going := fun _ => LeftSignal.unbooked
      weak := fun _ hw => hw
      expired := fun _ hw => hw
      claim := fun x => claim_elsewhere fun w hw => hwrite w _ _ (fun _ => rfl) hw
      executing := fun _ _ hw => hw
      written := keeps_written (fun _ w hw => hwrite w _ _ (fun _ => rfl) hw)
        fun _ w hw => hwrite w _ _ (fun _ => rfl) hw
      replayed := keeps_replayed LeftSignal.unbooked
        (fun _ w hw => hwrite w _ _ (fun _ => rfl) hw) fun _ _ hw => hw }

variable (env) in
theorem leftSignal_task {id : String} (t : Task)
    (h : ∀ file, t = .signal file → ¬Overwrites cfg file id) :
    Keeps (Deed.exec env) (LeftSignal id) (t.program cfg) := by
  cases t with
  | startup => exact leftSignal_work _
  | enforceLease verify => exact .bind (leftSignal_work _) fun _ => .pure
  | command file => exact (leftSignal_command id).commandTask file
  | signal file =>
    refine .bind (.attempt (leftSignal_processSignal (h file rfl))) fun result => ?_
    split
    · exact .pure
    · exact .bind (leftSignal_work _) fun _ => .bind (leftSignal_work _) fun _ => .pure
  | manage => exact leftSignal_work _
  | watch => exact leftSignal_work _
  | prune results =>
    refine .perform fun w hw => ?_
    refine World.of_write () (fun v ht => hw.congr ht) fun v ht => ?_
    have hv : LeftSignal id v := hw.congr ht
    exact hv

/-! ### Runs -/

/-- The process runs, and handles the file of the step to its end. -/
def Completed (cfg : Config) (env : Env σ) (w : World σ) (s : Step) : Prop :=
  w.running = true ∧ ((s.task.program cfg).run (Deed.exec env) s.budget w).1.isDone = true

/-- What the claims of signals and commands are for. -/
structure ClaimsKept (cfg : Config) (env : Env σ) (e : σ) (steps : List Step) : Prop where
  submitted : ∀ id, (runSteps cfg env e steps).log.count (.submitting id) ≤ 1
  executed : ∀ id, (runSteps cfg env e steps).log.count (.executing id) ≤ 1
  /-- What is found in progress is not submitted again. -/
  signal : ∀ earlier later id, steps = earlier ++ later →
    LeftSignal id (runSteps cfg env e earlier) →
    (runSteps cfg env e steps).log.count (.submitting id) =
      (runSteps cfg env e earlier).log.count (.submitting id)
  command : ∀ earlier later id, steps = earlier ++ later →
    (runSteps cfg env e earlier).tables.commands id = some .inProgress →
    (runSteps cfg env e steps).log.count (.executing id) =
      (runSteps cfg env e earlier).log.count (.executing id)
  /-- The completed handling of a valid replay leaves entries off. -/
  signalReplay : ∀ earlier between s later sig c, steps = earlier ++ (between ++ s :: later) →
    s.task = .signal (.verified sig) → screen cfg sig = .passed c →
    LeftSignal c.id (runSteps cfg env e earlier) →
    Completed cfg env (runSteps cfg env e (earlier ++ between)) s →
    EntriesOff (runSteps cfg env e (earlier ++ between ++ [s]))
  commandReplay : ∀ earlier between s later c now, steps = earlier ++ (between ++ s :: later) →
    s.task = .command (.verified c) → isToken c.commandId = true →
    (runSteps cfg env e earlier).tables.commands c.commandId = some .inProgress →
    (env.call _ .time (runSteps cfg env e (earlier ++ between)).adapter.env).1 = .ok now →
    c.timely cfg now = true →
    .replaying c.commandId ∉ (runSteps cfg env e (earlier ++ between)).log →
    Completed cfg env (runSteps cfg env e (earlier ++ between)) s →
    EntriesOff (runSteps cfg env e (earlier ++ between ++ [s]))

theorem runSteps_append (e : σ) (steps more : List Step) :
    runSteps cfg env e (steps ++ more) = more.foldl (step cfg env) (runSteps cfg env e steps) :=
  List.foldl_append ..

theorem runSteps_concat (e : σ) (steps : List Step) (s : Step) :
    runSteps cfg env e (steps ++ [s]) = step cfg env (runSteps cfg env e steps) s :=
  runSteps_append ..

theorem once_runSteps (R : Register) {S C D : String → World σ → Prop}
    (h : Bookkeeping cfg env (Once R []) S C D) (e : σ) (steps : List Step) :
    Once R [] (runSteps cfg env e steps) :=
  h.steps steps ⟨fun _ => Nat.zero_le _, nofun⟩

/-- What was claimed is begun no more. -/
theorem once_again (R : Register) {S C D : String → World σ → Prop} {e : σ}
    {earlier later : List Step} {id : String}
    (honce : Once R [] (runSteps cfg env e earlier))
    (htaken : R.taken (runSteps cfg env e earlier).tables id = true)
    (h : Bookkeeping cfg env (Once R [(id, (runSteps cfg env e earlier).log.count (R.note id))])
      S C D) :
    (runSteps cfg env e (earlier ++ later)).log.count (R.note id) =
      (runSteps cfg env e earlier).log.count (R.note id) := by
  rw [runSteps_append]
  refine ((h.steps later ⟨honce.once, fun p hp => ?_⟩).known _ (List.mem_singleton.mpr rfl)).2
  rw [List.mem_singleton.mp hp]
  exact ⟨htaken, rfl⟩

/-- What a completed task makes true of entries, the step makes true. -/
theorem entriesOff_step {P : World σ → Prop} {w : World σ} {s : Step}
    (hne : s.task ≠ .startup) (hdone : Completed cfg env w s)
    (h : Triple (Deed.exec env) P (s.task.program cfg) (fun _ => EntriesOff) (fun _ _ => True)
      fun _ => True) (hw : P w) : EntriesOff (step cfg env w s) := by
  have hbegin : w.begin cfg s.task = w := by
    cases ht : s.task with
    | startup => exact absurd ht hne
    | _ => rfl
  unfold step
  rw [if_pos (Or.inr hdone.1), hbegin]
  have hend := wp_run (h w hw) s.budget
  have hisDone := hdone.2
  revert hend hisDone
  rcases Prog.run (Deed.exec env) s.budget (s.task.program cfg) w with ⟨_ | _ | _, w'⟩
  · exact fun hend _ => hend
  · exact fun _ hno => by cases hno
  · exact fun _ hno => by cases hno

/-- A signal in progress stays so, as long as no file that overwrites it is handled. -/
theorem leftSignal_step {id : String} {w : World σ} (s : Step)
    (h : ∀ file, s.task = .signal file → ¬Overwrites cfg file id) (hw : LeftSignal id w) :
    LeftSignal id (step cfg env w s) := by
  unfold step
  split
  · have hbegin : LeftSignal id (w.begin cfg s.task) := by
      cases s.task with
      | startup => exact hw
      | _ => exact hw
    refine LeftSignal.unbooked ?_
      ((leftSignal_task env s.task h).run s.budget hbegin)
    dsimp only [World.conclude]
    split <;> exact .quiet rfl rfl
  · exact hw

/-- No file overwrites a signal that is in progress when the file is handled. -/
def ProgressSpared (cfg : Config) (env : Env σ) (e : σ) (steps : List Step) : Prop :=
  ∀ earlier s later file id, steps = earlier ++ s :: later → s.task = .signal file →
    Overwrites cfg file id → ¬LeftSignal id (runSteps cfg env e earlier)

theorem leftSignal_between {e : σ} {earlier between later : List Step} {id : String}
    (h : ProgressSpared cfg env e (earlier ++ (between ++ later)))
    (hw : LeftSignal id (runSteps cfg env e earlier)) :
    LeftSignal id (runSteps cfg env e (earlier ++ between)) := by
  induction between generalizing earlier with
  | nil => rwa [List.append_nil]
  | cons s between ih =>
    have hnext : LeftSignal id (runSteps cfg env e (earlier ++ [s])) := by
      rw [runSteps_concat]
      refine leftSignal_step s (fun file hfile hover => ?_) hw
      exact h earlier s _ file id rfl hfile hover hw
    have hassoc : ∀ rest, earlier ++ s :: rest = (earlier ++ [s]) ++ rest := fun rest => by simp
    rw [hassoc]
    refine ih ?_ hnext
    rwa [← hassoc]

/-- Whatever files are presented in whatever order, and wherever the process dies: as long as no
file that is refused unread overwrites a signal in progress, the claims do what they are for. -/
theorem claims_kept (cfg : Config) (env : Env σ) (e : σ) (steps : List Step)
    (hspared : ProgressSpared cfg env e steps) : ClaimsKept cfg env e steps where
  submitted id := by
    refine ((once_runSteps .signals signals_bookkeeping e steps).once id).trans ?_
    split <;> omega
  executed id := by
    refine ((once_runSteps .commands commands_bookkeeping e steps).once id).trans ?_
    split <;> omega
  signal earlier later id heq hleft := by
    subst heq
    refine once_again .signals (once_runSteps .signals signals_bookkeeping e earlier) ?_
      signals_bookkeeping
    exact congrArg Option.isSome hleft
  command earlier later id heq hleft := by
    subst heq
    refine once_again .commands (once_runSteps .commands commands_bookkeeping e earlier) ?_
      commands_bookkeeping
    exact congrArg Option.isSome hleft
  signalReplay earlier between s later sig c heq htask hscreen hleft hdone := by
    subst heq
    have hnow := leftSignal_between hspared hleft
    rw [runSteps_concat]
    refine entriesOff_step (by rw [htask]; exact nofun) hdone ?_ hnow
    rw [htask]
    exact entriesOff_signalTask hscreen
  commandReplay earlier between s later c now heq htask htoken hleft hnow htimely hfirst hdone := by
    subst heq
    have hrow : CommandIs c.commandId .inProgress (runSteps cfg env e (earlier ++ between)) := by
      rw [runSteps_append]
      exact (commandIs_bookkeeping c.commandId .inProgress).steps between hleft
    have haccount : Accounted (runSteps cfg env e (earlier ++ between)) := by
      refine accounted_bookkeeping.steps _ ⟨nofun, nofun, nofun⟩
    have hno : (runSteps cfg env e (earlier ++ between)).tables.results c.commandId = none := by
      by_contra hsome
      exact hfirst (haccount.replayed _ (Option.isSome_iff_ne_none.mpr hsome) hrow)
    rw [runSteps_concat]
    have htriple := entriesOff_commandTask htoken hnow htimely
    have hprogram : s.task.program cfg = commandTask cfg (.verified c) := by
      rw [htask]
      rfl
    rw [← hprogram] at htriple
    exact entriesOff_step (by rw [htask]; exact nofun) hdone htriple ⟨⟨hrow, hno⟩, rfl⟩

open Scripted

/-- The process dies right after it has claimed a signal; its successor is given the signal
again. -/
def resubmitted : List Step :=
  resumed ++ [⟨.signal (.verified (buy "s1")), 12⟩, whole .startup, signal (buy "s1")]

theorem claims_kept_resubmitted : ClaimsKept config Scripted.env {} resubmitted := by
  refine claims_kept config Scripted.env {} resubmitted ?_
  rintro earlier s later file id heq htask ⟨sig, reason, detail, rfl, hscreen, -⟩
  have hsig : sig = buy "s1" := by
    have hmem : s ∈ resubmitted := by
      rw [heq]
      exact List.mem_append_right _ List.mem_cons_self
    simp only [resubmitted, resumed, List.cons_append, List.nil_append, List.mem_cons,
      List.not_mem_nil, or_false] at hmem
    rcases hmem with rfl | rfl | rfl | rfl | rfl <;> cases htask <;> rfl
  rw [hsig] at hscreen
  have hpassed : screen config (buy "s1") = .passed
      { signal := buy "s1", id := "s1", pair := "BTC/USDT", symbol := "BTCUSDT" } := by
    decide +kernel
  rw [hpassed] at hscreen
  cases hscreen

/-- The successor is resumed and given the signal without its strategy first. -/
def overwritten : List Step :=
  resumed ++ [⟨.signal (.verified (buy "s1")), 12⟩, whole .startup,
    command (.entries (some true)) "resume2", signal { buy "s1" with strategy := none }]

/-- The refused variant overwrites what the process left in progress: the replay of the signal
itself leaves entries on. -/
theorem claims_overwritten :
    ¬ClaimsKept config Scripted.env {} (overwritten ++ [signal (buy "s1")]) := by
  intro h
  have hoff := h.signalReplay (overwritten.take 3) (overwritten.drop 3) (signal (buy "s1")) []
    (buy "s1") { signal := buy "s1", id := "s1", pair := "BTC/USDT", symbol := "BTCUSDT" } rfl rfl
    (by decide +kernel)
    (by decide +kernel : (runSteps config Scripted.env {} (overwritten.take 3)).tables.signals
      "s1" = some "IN_PROGRESS")
    (by decide +kernel : (runSteps config Scripted.env {} overwritten).running = true ∧
      ((Task.program config (.signal (.verified (buy "s1")))).run (Deed.exec Scripted.env) 10000
        (runSteps config Scripted.env {} overwritten)).1.isDone = true)
  have hon : (runSteps config Scripted.env {}
      (overwritten ++ [signal (buy "s1")])).entries = true := by
    decide +kernel
  rw [EntriesOff] at hoff
  exact Bool.false_ne_true (hoff.symm.trans hon)

end SpotSidecar.Supervisor
