import SpotSidecar.Supervisor.Guarded
import SpotSidecar.Supervisor.Scripted

/-! After a callback of the stream has paused the adapter, no entry is sent until a
reconciliation that began later has succeeded. -/
namespace SpotSidecar.Supervisor
open Interaction Prog
variable {σ α γ : Type} {cfg : Config} {env : Env σ}

/-- A reconciliation began and succeeded in this part of the log. -/
def ReconciledSince (log : List Event) : Prop :=
  ∃ newer between older, log = newer ++ .reconciled true :: (between ++ .reconcileBegan :: older)

/-- A callback paused the adapter, and no reconciliation that began later has succeeded. -/
def PausePending (log : List Event) : Prop :=
  ∃ mid p earlier, log = mid ++ .paused p :: earlier ∧ ¬ReconciledSince mid

theorem pausePending_alarm : Alarm False PausePending where
  nil := by
    rintro ⟨mid, p, earlier, heq, -⟩
    cases mid <;> cases heq
  cons := by
    rintro e log ⟨mid, p, earlier, heq, hmid⟩
    cases mid with
    | nil =>
      obtain ⟨rfl, -⟩ := List.cons.inj heq
      exact .inl not_false
    | cons x mid =>
      obtain ⟨rfl, rfl⟩ := List.cons.inj heq
      refine .inr ⟨mid, p, earlier, rfl, ?_⟩
      rintro ⟨newer, between, older, rfl⟩
      exact hmid ⟨e :: newer, between, older, rfl⟩

/-- A reconciliation that no pause interrupted settles every pause before it. -/
theorem not_pausePending (between older : List Event)
    (h : ∀ p, Event.paused p ∉ between) :
    ¬PausePending (.reconciled true :: (between ++ .reconcileBegan :: older)) := by
  rintro ⟨mid, p, earlier, heq, hmid⟩
  cases mid with
  | nil => cases heq
  | cons e mid =>
    obtain ⟨rfl, htail⟩ := List.cons.inj heq
    rcases List.append_eq_append_iff.mp htail with ⟨rest, rfl, hrest⟩ | ⟨rest, rfl, hrest⟩
    · cases rest with
      | nil => cases hrest
      | cons e rest =>
        obtain ⟨rfl, rfl⟩ := List.cons.inj hrest
        exact hmid ⟨[], between, rest, rfl⟩
    · cases rest with
      | nil => cases hrest
      | cons e rest =>
        obtain ⟨rfl, rfl⟩ := List.cons.inj hrest
        exact h p (by simp)

abbrev PauseGuarded : World σ → Prop := Guarded False PausePending

/-- After a successful reconciliation under the lock of the adapter no pause is pending. -/
theorem reconcileHeld_settles : Triple (Work.exec env) PauseGuarded (reconcileHeld cfg)
    (fun r w => PauseGuarded w ∧ (r.ok = true → ¬PausePending w.log))
    (fun _ => PauseGuarded) PauseGuarded := by
  unfold reconcileHeld
  refine Triple.bind (Q := fun _ w => PauseGuarded w ∧ ∃ older, w.log = .reconcileBegan :: older)
    (fun w hw => ⟨hw, hw.steady pausePending_alarm (.noted w trivial), w.log, rfl⟩) fun _ => ?_
  refine Triple.bind (Q := fun _ w => PauseGuarded w ∧ ∃ (ids : List IntentId) (older : List Event),
    w.log = ids.map .entrySubmitted ++ .reconcileBegan :: older) ?_ fun r => ?_
  · refine Triple.assume fun w hw => ?_
    obtain ⟨hw, older, hlog⟩ := hw
    have hguard := guarded_own pausePending_alarm
      (.of_ward fun _ hJ => hJ.verifiedReconcile : Obedient env.toEnv
        (verifiedReconcile cfg.adapter))
    refine ((hguard.both (own_sent env w.log _)).weaken ?_).conseq (fun _ hv => hv) ?_
      (fun _ _ hv => hv.1) fun _ hv => hv.1
    · rintro v rfl
      exact ⟨hw, hw.tied, [], rfl⟩
    · rintro r v ⟨hv, -, ids, hgrown⟩
      exact ⟨hv, ids, older, hlog ▸ hgrown⟩
  · intro w ⟨hw, ids, older, hlog⟩
    refine ⟨hw, hw.steady pausePending_alarm (.noted w trivial), fun hok => ?_⟩
    have hpending := not_pausePending (ids.map .entrySubmitted) older
      fun p hp => by simp at hp
    rw [← hlog, ← hok] at hpending
    exact hpending

abbrev PauseSettled : World σ → Prop := AtPeace False PausePending

/-- The automatic conversion enables the adapter only under the lock under which it reconciled. -/
theorem pauseGuarded_autoConvert (symbol : Symbol) (args : ConvertArgs) :
    Keeps (Work.exec env) PauseGuarded (autoConvert cfg symbol args) := by
  have hown : ∀ {α : Type} {m : Asking α}, Calm m → Obedient env.toEnv (liftM m : Acting α) :=
    fun hm => obedient_calm hm
  unfold autoConvert
  refine .bind (guarded_own pausePending_alarm (hown .theMemory)) fun m => ?_
  refine .bind (guarded_own pausePending_alarm (hown .theStore)) fun s => ?_
  refine .bind (guarded_own pausePending_alarm (.of_ward fun _ hJ => hJ.convert _ _))
    fun answer => ?_
  split
  split
  · refine Triple.bind reconcileHeld_settles fun proof => ?_
    by_cases hok : proof.ok = true
    · refine Keeps.within (J := PauseSettled) ?_ (fun w hw => ⟨hw.1, hw.2 hok⟩)
        fun w hw => hw.toGuarded
      refine .bind (atPeace_own pausePending_alarm (hown .theStore)) fun s => ?_
      refine .bind (atPeace_own pausePending_alarm (hown (.call _))) fun risk => ?_
      dsimp only
      split
      · refine .bind (atPeace_own pausePending_alarm (obedient_setEntries _ _)) fun _ => ?_
        refine .bind (.perform fun w hw => hw.steady pausePending_alarm ?_) fun _ => ?_
        · exact Work.plain_steady env (a := .save) trivial w
        · exact .bind (atPeace_setMemory _) fun _ => .pure
      · exact .pure
    · refine Triple.bind ((guarded_own pausePending_alarm (hown .theStore)).weaken
        fun w hw => hw.1) fun s => ?_
      refine Triple.bind (guarded_own pausePending_alarm (hown (.call _))) fun risk => ?_
      rw [Bool.not_eq_true] at hok
      simp only [hok, Bool.false_and, Bool.false_eq_true, if_false]
      exact Keeps.pure
  · exact .pure

/-- The log remembers a pause between the reconciliation in `set_enabled` and its write. -/
def PauseLost (w : World σ) : Prop := .paused .arming ∈ w.log

theorem PauseLost.exec (a : Work γ) {w : World σ} (hw : PauseLost w) :
    PauseLost (a.exec env γ w).2 := by
  obtain ⟨es, hlog, -⟩ := a.exec_log env w
  rw [PauseLost, hlog]
  exact List.mem_append_right es hw

theorem pauseLost_work (m : Working α) : Keeps (Work.exec env) PauseLost m :=
  keeps_of_exec (fun a _ hw => hw.exec a) m

/-- A callback where the adapter is being armed either pauses nothing or is remembered. -/
theorem lost_or_settled_gap : Keeps (Work.exec env)
    (fun w => PauseLost w ∨ ¬PausePending w.log) (gap .arming) := by
  refine keeps_gap (fun w hw => hw) fun e => keeps_of_exec (fun f w hw => ?_) _
  rcases hw with hw | hw
  · exact .inl (hw.exec (.callback .arming f))
  · rw [PauseLost, Fold.heardExec, (exec_callback env (p := .arming) f w).1]
    rcases hheard : heard .arming f with _ | ⟨e, es⟩
    · exact .inr hw
    · refine .inl (List.mem_append_left _ ?_)
      have he : e = .paused .arming := heard_entries f (by rw [hheard]; simp)
      rw [he]
      exact List.mem_cons_self

/-- The world in which the adapter is armed: the last pause is settled, or lost. -/
def Arming (w : World σ) : Prop := PauseGuarded w ∧ (PauseLost w ∨ ¬PausePending w.log)

theorem arming_gap : Keeps (Work.exec env) Arming (gap .arming) :=
  (guarded_gap pausePending_alarm _).both lost_or_settled_gap

theorem arming_own {m : Acting α} (hm : Obedient env.toEnv m) :
    Keeps (Work.exec env) Arming (own m) :=
  (guarded_own pausePending_alarm hm).both
    ((pauseLost_work _).either (own_calm pausePending_alarm m))

/-- The guard, unless a pause was lost. -/
def GuardedOrLost (w : World σ) : Prop := PauseLost w ∨ PauseGuarded w

theorem guardedOrLost {m : Working α} (hm : Keeps (Work.exec env) PauseGuarded m) :
    Keeps (Work.exec env) GuardedOrLost m :=
  (pauseLost_work m).either hm

theorem guardedOrLost_gap : Keeps (Work.exec env) GuardedOrLost (gap .anywhere) :=
  guardedOrLost (guarded_gap pausePending_alarm _)

/-- The adapter is armed after a settled pause, or after a lost one. -/
theorem arming_enable : Triple (Work.exec env) Arming
    (own (liftM (setMemory ({ · with enabled := true })))) (fun _ => GuardedOrLost)
    (fun _ => GuardedOrLost) GuardedOrLost := by
  refine Triple.assume fun w ⟨hguard, hw⟩ => ?_
  rcases hw with hw | hw
  · refine (pauseLost_work _).within ?_ fun v hv => .inl hv
    rintro v rfl
    exact hw
  · refine (atPeace_setMemory _).within ?_ fun v hv => .inr hv.toGuarded
    rintro v rfl
    exact ⟨hguard, hw⟩

theorem guardedOrLost_arm : Triple (Work.exec env) PauseSettled armReconciled
    (fun _ => GuardedOrLost) (fun _ => GuardedOrLost) GuardedOrLost := by
  have hweak : ∀ w : World σ, Arming w → GuardedOrLost w := fun w hw => .inr hw.1
  unfold armReconciled
  refine Triple.bind (arming_gap.conseq (fun w hw => ⟨hw.toGuarded, .inr hw.peace⟩)
    (fun _ _ hw => hw) (fun _ => hweak) hweak) fun _ => ?_
  refine Triple.bind ((arming_own (obedient_calm .theStore)).conseq (fun _ hw => hw)
    (fun _ _ hw => hw) (fun _ => hweak) hweak) fun s => ?_
  split
  · exact .pure hweak
  · refine Triple.bind (arming_gap.conseq (fun _ hw => hw) (fun _ _ hw => hw) (fun _ => hweak)
      hweak) fun _ => ?_
    refine Triple.bind arming_enable fun _ => ?_
    refine Keeps.bind (.bind guardedOrLost_gap fun _ => guardedOrLost ?_) fun m => .pure
    exact guarded_own pausePending_alarm (obedient_calm .theMemory)

theorem guardedOrLost_setEnabledOn :
    Keeps (Work.exec env) GuardedOrLost (setEnabledOn cfg) := by
  intro w hw
  rcases hw with hw | hw
  · exact (pauseLost_work _).within (fun _ hv => hv) (fun _ hv => .inl hv) w hw
  · revert w
    have hown : ∀ {α : Type} {m : Asking α}, Calm m →
        Triple (Work.exec env) PauseGuarded (locked (liftM m)) (fun _ => PauseGuarded)
          (fun _ => GuardedOrLost) GuardedOrLost := fun hm =>
      (Keeps.bind (guarded_gap pausePending_alarm _) fun _ => guarded_own pausePending_alarm
        (obedient_calm hm)).conseq (fun _ hv => hv) (fun _ _ hv => hv) (fun _ _ hv => .inr hv)
        fun _ hv => .inr hv
    unfold setEnabledOn
    refine Triple.bind (hown .theStore) fun s => ?_
    split
    · exact .pure fun _ hv => .inr hv
    · refine Triple.bind (hown (.call _)) fun risk => ?_
      split
      · exact .pure fun _ hv => .inr hv
      · refine Triple.bind (Q := fun (r : Reconciliation) w =>
          PauseGuarded w ∧ (r.ok = true → ¬PausePending w.log)) ?_ fun r => ?_
        · refine (Triple.bind (guarded_gap pausePending_alarm _)
            fun _ => reconcileHeld_settles).conseq
            (fun _ hv => hv) (fun _ _ hv => hv) (fun _ _ hv => .inr hv) fun _ hv => .inr hv
        · cases hok : r.ok
          · exact .pure fun _ hv => .inr hv.1
          · exact guardedOrLost_arm.weaken fun _ hv => ⟨hv.1, hv.2 rfl⟩

/-- Every program of the supervisor keeps the guard, unless a pause is lost. -/
theorem guardedOrLost_oversight : Oversight cfg env GuardedOrLost where
  steady {w w'} hs hw := by
    rcases hw with hw | hw
    · obtain ⟨e, es, -, hlog, -⟩ := hs
      refine .inl ?_
      rw [PauseLost, hlog]
      exact List.mem_append_right es hw
    · exact .inr (hw.steady pausePending_alarm hs)
  own hm := guardedOrLost (guarded_own pausePending_alarm hm)
  gap := guardedOrLost_gap
  require := by
    refine guardedOrLost fun w hw => ⟨hw, hw, ?_⟩
    exact hw.grow pausePending_alarm [] rfl (fun e he => absurd he List.not_mem_nil)
      hw.parented rfl fun hoff => ⟨hoff.disabled, False.elim⟩
  armed := guardedOrLost_setEnabledOn
  auto symbol args := guardedOrLost (pauseGuarded_autoConvert symbol args)

variable (cfg) (env) in
theorem guardedOrLost_task (t : Task) : Keeps (Deed.exec env) GuardedOrLost (t.program cfg) := by
  have h : Oversight cfg env GuardedOrLost := guardedOrLost_oversight
  cases t with
  | startup =>
    refine Oversight.working (h.startup (guardedOrLost fun w hw => ⟨hw, hw, ?_⟩))
    exact hw.grow pausePending_alarm [] rfl (fun e he => absurd he List.not_mem_nil)
      hw.parented rfl fun hoff => ⟨hoff.disabled, False.elim⟩
  | enforceLease verify =>
    refine .bind (Oversight.working (h.enforce (h.failLease fun w hw => ?_) verify)) fun _ => .pure
    rcases hw with hw | hw
    · exact .inl (List.mem_cons_of_mem _ hw)
    · refine .inr (hw.grow pausePending_alarm [.leaseInvalid] rfl (fun e he => ?_)
        hw.parented rfl fun hoff => ⟨hoff.disabled, False.elim⟩)
      rw [List.mem_singleton.mp he]
      exact ⟨rfl, not_false⟩
  | command file => exact h.task _ (by simp) (by simp)
  | signal file => exact h.task _ (by simp) (by simp)
  | manage => exact h.task _ (by simp) (by simp)
  | watch => exact h.task _ (by simp) (by simp)
  | prune results => exact h.task _ (by simp) (by simp)

/-- A new process starts disabled. -/
theorem GuardedOrLost.restart {w : World σ} (hw : GuardedOrLost w) : GuardedOrLost w.restart := by
  rcases hw with hw | hw
  · exact .inl hw
  · refine .inr (hw.grow pausePending_alarm [] rfl (fun e he => absurd he List.not_mem_nil)
      hw.parented rfl fun hoff => ⟨rfl, False.elim⟩)

variable (cfg) in
theorem GuardedOrLost.begin {w : World σ} (hw : GuardedOrLost w) (t : Task) :
    GuardedOrLost (w.begin cfg t) := by
  cases t with
  | startup =>
    rcases hw with hw | hw
    · exact .inl (List.mem_cons_of_mem _ hw)
    · refine .inr (hw.grow pausePending_alarm [.started] rfl (fun e he => ?_)
        hw.parented rfl fun hoff => ⟨rfl, False.elim⟩)
      rw [List.mem_singleton.mp he]
      exact ⟨rfl, not_false⟩
  | _ => exact hw

theorem guardedOrLost_step {w : World σ} (s : Step) (hw : GuardedOrLost w) :
    GuardedOrLost (step cfg env w s) := by
  unfold step
  split
  · have hrun := (guardedOrLost_task cfg env s.task).run s.budget
      (hw.begin cfg s.task)
    dsimp only [World.conclude]
    split
    · rcases hrun with hrun | hrun
      · exact .inl hrun
      · exact .inr ⟨⟨hrun.parented, hrun.tied, hrun.safe⟩, fun hbad =>
          ⟨(hrun.off hbad).disabled, False.elim⟩⟩
    · exact hrun.restart
  · exact hw

variable (cfg) (env) in
theorem guardedOrLost_runSteps (e : σ) (steps : List Step) :
    GuardedOrLost (runSteps cfg env e steps) := by
  have hfirst : GuardedOrLost ({ adapter := { env := e } } : World σ) := by
    refine .inr ⟨⟨fun d hd => ?_, rfl, fun later id earlier heq => ?_⟩, fun hbad => ?_⟩
    · exact absurd hd List.not_mem_nil
    · cases later <;> cases heq
    · exact absurd hbad pausePending_alarm.nil
  unfold runSteps
  generalize ({ adapter := { env := e } } : World σ) = w at hfirst
  induction steps generalizing w with
  | nil => exact hfirst
  | cons s steps ih => exact ih _ (guardedOrLost_step s hfirst)

/-- In every run of the sidecar in which no callback pauses the adapter between the end of the
reconciliation in `set_enabled` and its write of the flag, every entry sent after a pause is sent
after a reconciliation that began after the pause and succeeded. -/
theorem entry_after_reconciliation (cfg : Config) (env : Env σ) (e : σ) (steps : List Step)
    (harming : .paused .arming ∉ (runSteps cfg env e steps).log)
    {later mid earlier : List Event} {id : IntentId} {p : Point}
    (hlog : (runSteps cfg env e steps).log =
      later ++ .entrySubmitted id :: (mid ++ .paused p :: earlier)) :
    ReconciledSince mid := by
  rcases guardedOrLost_runSteps cfg env e steps with hlost | hguard
  · exact absurd hlost harming
  · by_contra hmid
    exact hguard.safe later id _ hlog ⟨mid, p, earlier, rfl, hmid⟩

open Scripted

/-- The stream pauses the adapter while it starts; the owner clears the pause of the risk guard
and resumes. -/
def cleared : World Rig :=
  runSteps config Scripted.env { pending := [(.anywhere, .resync)] }
    [whole .startup, command .clearRiskPause "clear", command (.entries (some true)) "resume",
      command (.manualEntry "BTCUSDT") "enter"]

/-- The entry of this run comes after the reconciliation of the resumption. -/
theorem entry_after_reconciliation_cleared :
    ReconciledSince [.executing "enter", .reconciled true, .reconcileBegan, .executing "resume",
      .executing "clear", .reconciled true, .reconcileBegan] :=
  @entry_after_reconciliation Rig config Scripted.env _ _ (by decide +kernel) [] _ [.started]
    ((entryMarks cleared.adapter.history).head?.getD 0) .anywhere
    (by decide +kernel : cleared.log = _)

/-- The stream asks for a resync after the reconciliation of a resumption, and before the flag is
written. -/
def overtaken : World Rig :=
  runSteps config Scripted.env { pending := [(.arming, .resync)] } entered

/-- The pause is lost: the next entry is sent without another reconciliation. -/
theorem entry_after_lost_pause : ∃ later mid earlier id p,
    overtaken.log = later ++ .entrySubmitted id :: (mid ++ .paused p :: earlier) ∧
      ¬ReconciledSince mid := by
  refine ⟨[], [.executing "enter"], overtaken.log.drop 3,
    (entryMarks overtaken.adapter.history).head?.getD 0, .arming, by decide +kernel, ?_⟩
  rintro ⟨newer, between, older, heq⟩
  rcases newer with _ | ⟨e, _ | ⟨e', newer⟩⟩ <;> cases heq

end SpotSidecar.Supervisor
