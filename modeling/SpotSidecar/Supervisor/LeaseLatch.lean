import SpotSidecar.Supervisor.Guarded
import SpotSidecar.Supervisor.Scripted

/-! After the lease of a live release was found invalid, its process sends no entry. -/
namespace SpotSidecar.Supervisor
open Interaction Prog
variable {σ α γ : Type} {cfg : Config} {env : Env σ}

/-- The running process has found its lease invalid. -/
def LeaseFailed (log : List Event) : Prop :=
  ∃ later earlier, log = later ++ .leaseInvalid :: earlier ∧ .started ∉ later

theorem leaseFailed_alarm : Alarm True LeaseFailed where
  nil := by
    rintro ⟨later, earlier, heq, -⟩
    cases later <;> cases heq
  cons := by
    rintro e log ⟨later, earlier, heq, hlater⟩
    cases later with
    | nil =>
      obtain ⟨rfl, -⟩ := List.cons.inj heq
      exact .inl trivial
    | cons x later =>
      obtain ⟨rfl, rfl⟩ := List.cons.inj heq
      exact .inr ⟨later, earlier, rfl, fun h => hlater (List.mem_cons_of_mem _ h)⟩

theorem LeaseFailed.append {log es : List Event} (h : LeaseFailed log) (hes : .started ∉ es) :
    LeaseFailed (es ++ log) := by
  obtain ⟨later, earlier, rfl, hlater⟩ := h
  exact ⟨es ++ later, earlier, by rw [List.append_assoc], by simp [hes, hlater]⟩

theorem leaseFailed_work (m : Working α) :
    Keeps (Work.exec env) (fun w => LeaseFailed w.log) m := by
  refine keeps_of_exec (fun a w hw => ?_) m
  obtain ⟨es, hlog, hes⟩ := a.exec_log env w
  rw [hlog]
  exact hw.append hes

abbrev LeaseGuarded : World σ → Prop := Guarded True LeaseFailed
abbrev LeaseValid : World σ → Prop := AtPeace True LeaseFailed

theorem leaseValid_gap (p : Point) : Keeps (Work.exec env) LeaseValid (gap p) := by
  have hcalm : Keeps (Work.exec env) (fun w => ¬LeaseFailed w.log) (gap p) := by
    refine keeps_gap (fun w hw => hw) fun e => keeps_of_exec (fun f w hw hbad => ?_) _
    refine hw (leaseFailed_alarm.append (fun e he => ?_) hbad)
    rw [heard_entries f he]
    exact not_not_intro trivial
  exact ((guarded_gap leaseFailed_alarm p).both hcalm).conseq
    (fun _ hw => ⟨hw.toGuarded, hw.peace⟩) (fun _ _ hw => ⟨hw.1, hw.2⟩)
    (fun _ _ hw => ⟨hw.1, hw.2⟩) fun _ hw => ⟨hw.1, hw.2⟩

/-- As long as the lease is valid, any program may run. -/
theorem leaseValid_oversight : Oversight cfg env LeaseValid :=
  Upkeep.oversight
    { steady := fun hs hw => hw.steady leaseFailed_alarm hs
      own := fun hm => atPeace_own leaseFailed_alarm hm
      gap := leaseValid_gap _ }
    (leaseValid_gap _) (atPeace_setData _) (atPeace_setMemory _)

theorem leaseGuarded_upkeep : Upkeep env LeaseGuarded where
  steady hs hw := hw.steady leaseFailed_alarm hs
  own hm := guarded_own leaseFailed_alarm hm
  gap := guarded_gap leaseFailed_alarm _

/-- The process has found its lease invalid, and is off. -/
def Latched (w : World σ) : Prop := LeaseGuarded w ∧ LeaseFailed w.log

theorem latched_gap (p : Point) : Keeps (Work.exec env) Latched (gap p) :=
  (guarded_gap leaseFailed_alarm p).both (leaseFailed_work _)

theorem Latched.off {w : World σ} (hw : Latched w) : Off True w := hw.1.off hw.2

theorem latched_upkeep : Upkeep env Latched where
  steady {w w'} hs hw := by
    refine ⟨hw.1.steady leaseFailed_alarm hs, ?_⟩
    obtain ⟨e, es, -, hlog, hes⟩ := hs
    rw [hlog]
    exact hw.2.append fun h => hes _ h
  own hm := (guarded_own leaseFailed_alarm hm).both (leaseFailed_work _)
  gap := latched_gap _

/-- A live release that needs a restart cannot be armed. -/
theorem latched_setEnabledOn (hlive : cfg.adapter.live = true) :
    Keeps (Work.exec env) Latched (setEnabledOn cfg) := by
  unfold setEnabledOn
  refine Triple.bind (Q := fun (s : Store) w => Latched w ∧ s.data.liveRestartRequired = true)
    ?_ fun s => ?_
  · refine Triple.bind (latched_gap _) fun _ w hw => ?_
    exact ⟨hw, hw, hw.off.restart trivial⟩
  · refine Triple.assume_eq fun hs => ?_
    simp only [hlive, hs, Bool.and_self, if_true]
    exact Keeps.pure

/-- The automatic conversion does not enable what was disabled before it. -/
theorem latched_autoConvert (symbol : Symbol) (args : ConvertArgs) :
    Keeps (Work.exec env) Latched (autoConvert cfg symbol args) := by
  have h : Upkeep env (Latched (σ := σ)) := latched_upkeep
  unfold autoConvert
  refine Triple.bind (Q := fun (m : Memory) w => Latched w ∧ m.enabled = false)
    (fun w hw => ⟨hw, hw, hw.off.disabled⟩) fun m => ?_
  refine Triple.assume_eq fun hm => ?_
  refine Keeps.bind (h.ownCalm .theStore) fun s => ?_
  refine .bind (h.own (.of_ward fun _ hJ => hJ.convert _ _)) fun answer => ?_
  split
  split
  · refine .bind h.reconcileHeld fun proof => .bind (h.ownCalm .theStore) fun s => ?_
    refine .bind (h.ownCalm (.call _)) fun risk => ?_
    simp only [hm, Bool.false_and, Bool.and_false, Bool.false_eq_true, if_false]
    exact .pure
  · exact .pure

/-- While the lease is valid anything may run, and from its failure on the adapter stays off. -/
theorem leaseGuarded_of {m : Working α} (hvalid : Keeps (Work.exec env) LeaseValid m)
    (hlatched : Keeps (Work.exec env) Latched m) : Keeps (Work.exec env) LeaseGuarded m := by
  intro w hw
  by_cases hbad : LeaseFailed w.log
  · exact (hlatched.within (fun _ hv => hv) fun _ hv => hv.1) w ⟨hw, hbad⟩
  · exact (hvalid.within (fun _ hv => hv) fun _ hv => hv.toGuarded) w ⟨hw, hbad⟩

variable (env) in
theorem leaseGuarded_oversight (hlive : cfg.adapter.live = true) :
    Oversight cfg env LeaseGuarded where
  toUpkeep := leaseGuarded_upkeep
  require := fun w hw => by
    refine ⟨hw, hw, ?_⟩
    exact hw.grow leaseFailed_alarm [] rfl (fun e he => absurd he List.not_mem_nil)
      hw.parented rfl fun hoff => ⟨hoff.disabled, fun _ => rfl⟩
  armed := leaseGuarded_of leaseValid_oversight.armed (latched_setEnabledOn hlive)
  auto symbol args :=
    leaseGuarded_of (leaseValid_oversight.auto _ _) (latched_autoConvert _ _)

/-! ### The failure of the lease -/

abbrev LeaseClosed : World σ → Prop := Closed LeaseFailed

theorem leaseClosed_asks (m : Asking α) :
    Keeps (Work.exec env) LeaseClosed (own (liftM m)) := by
  intro w hw
  induction m generalizing w with
  | pure a => exact hw
  | raise e => exact hw
  | act a next ih =>
    refine ⟨hw, ih _ _ (hw.grow [] rfl (fun e he => absurd he List.not_mem_nil) ?_ ?_)⟩
    · exact Act.parenting_exec env.toEnv (a := .fold (.ask a)) trivial w.adapter hw.parented
    · exact Act.exec_entryMarks env.toEnv (a := .fold (.ask a)) trivial w.adapter

theorem leaseClosed_gap (p : Point) : Triple (Work.exec env) LeaseClosed (gap p)
    (fun _ => LeaseClosed) (fun _ _ => False) LeaseClosed :=
  triple_gap (fun _ hw => hw.steady (.answered rfl rfl)) fun _ =>
    keeps_of_exec (fun f _ hw => closed_callback env f hw) _

/-- The adapter is off, and the log is in order. -/
def LeaseDisabled (w : World σ) : Prop := LeaseClosed w ∧ w.memory.enabled = false

theorem leaseDisabled_hearing (p : Point) : Hearing env p (LeaseDisabled (σ := σ)) where
  calm f w hf _ hw := by
    refine ⟨closed_callback env f hw.1, ?_⟩
    exact (congrArg Memory.enabled (Act.calm_flags env.toEnv hf w.adapter).1).trans hw.2
  memory f hf w hw := ⟨hw, hw, closed_callback env (p := p) _ hw.1, (hf _).trans hw.2⟩
  data f hf w hw := ⟨hw, hw, closed_callback env (p := p) _ hw.1, hw.2⟩
  pause reason := by
    refine .bind (fun w hw => ⟨hw, hw, closed_callback env (p := p) _ hw.1, rfl⟩)
      fun _ => ?_
    refine .bind (fun w hw => ⟨hw, hw, closed_callback env (p := p) _ hw.1, hw.2⟩)
      fun _ => ?_
    refine .bind (.attempt (.perform fun w hw => ?_)) fun _ => .pure
    exact ⟨closed_callback env (p := p) _ hw.1, hw.2⟩

theorem leaseDisabled_gap (p : Point) : Keeps (Work.exec env) LeaseDisabled (gap p) :=
  keeps_gap (fun _ hw => ⟨hw.1.steady (.answered rfl rfl), hw.2⟩) fun e =>
    (leaseDisabled_hearing p).callback e

theorem leaseClosed_setEntries (value : Bool) (reason : String) :
    Keeps (Work.exec env) LeaseClosed (setEntries value reason) := by
  refine .bind (.bind ?_ fun _ => leaseClosed_asks _) fun _ => .perform fun w hw => ?_
  · exact keeps_gap (fun w hw => hw.steady (.answered rfl rfl)) fun e =>
      keeps_of_exec (fun f w hw => closed_callback env f hw) _
  · exact hw.steady (Work.plain_steady env (a := .save) trivial w)

/-- Turning the adapter off raises nothing. -/
theorem leaseDisabled_setDisabled : Triple (Work.exec env) LeaseClosed setDisabled
    (fun _ => LeaseDisabled) (fun _ _ => False) LeaseClosed := by
  refine Triple.bind (leaseClosed_gap _) fun _ w hw => ?_
  refine ⟨hw, hw, hw.grow [] rfl (fun e he => absurd he List.not_mem_nil) ?_ ?_, rfl⟩
  · exact hw.parented
  · rfl

/-- Whatever part of it fails, `_disarm` leaves the adapter off. -/
theorem leaseDisabled_disarm (reason : String) : Triple (Work.exec env) LeaseClosed
    (disarm reason).attempt (fun _ => LeaseDisabled) (fun _ _ => False) LeaseClosed := by
  refine .attempt ?_
  unfold disarm
  refine Triple.bind (Q := fun _ => LeaseClosed) (.attempt ?_) fun persisted => ?_
  · exact leaseClosed_setEntries _ _
  · refine Triple.bind (Q := fun _ => LeaseDisabled) (.attempt ?_) fun disabled => ?_
    · exact leaseDisabled_setDisabled.conseq (fun _ hw => hw) (fun _ _ hw => hw)
        (fun _ _ => False.elim) fun _ hw => hw
    · split
      · exact .pure fun _ hw => hw
      · exact .raise fun _ hw => hw

theorem LeaseDisabled.steady {w w' : World σ} (hs : Steady w w') (hw : LeaseDisabled w) :
    LeaseDisabled w' := by
  refine ⟨hw.1.steady hs, ?_⟩
  obtain ⟨e, es, hadapter, -, -⟩ := hs
  rw [World.memory, hadapter]
  exact hw.2

/-- The failure of the lease latches, or ends the process. -/
theorem leaseGuarded_failLease (status : String) : Triple (Work.exec env) LeaseGuarded
    (failLease status) (fun _ => LeaseGuarded) (fun _ => LeaseClosed) LeaseClosed := by
  have hclosed : ∀ w : World σ, LeaseDisabled w → LeaseClosed w := fun w hw => hw.1
  unfold failLease
  refine Triple.bind (Q := fun _ => LeaseClosed)
    (fun w hw => ⟨hw.toClosed, hw.toClosed.grow [.leaseInvalid] rfl (fun e he => ?_)
      hw.parented rfl⟩) fun _ => ?_
  · rw [List.mem_singleton.mp he]
    rfl
  refine Triple.bind ((leaseDisabled_disarm _).conseq (fun _ hw => hw) (fun _ _ hw => hw)
    (fun _ _ => False.elim) fun _ hw => hw) fun disarmed => ?_
  have hdata : ∀ f, Keeps (Work.exec env) LeaseDisabled (setData f) := fun f =>
    .bind (.perform fun w hw => hw) fun d => .perform fun w hw => hw.steady (.answered rfl rfl)
  refine Triple.bind ((hdata _).conseq (fun _ hw => hw) (fun _ _ hw => hw) (fun _ => hclosed)
    hclosed) fun _ => ?_
  refine Triple.bind (Q := fun _ => LeaseGuarded) (Triple.bind ((leaseDisabled_gap _).conseq
    (fun _ hw => hw) (fun _ _ hw => hw) (fun _ => hclosed) hclosed) fun _ w hw => ?_) fun _ => ?_
  · refine ⟨hw.1, hw.1, Closed.guarded ?_ ⟨hw.2, fun _ => rfl⟩⟩
    exact hw.1.grow [] rfl (fun e he => absurd he List.not_mem_nil) hw.1.parented rfl
  · refine Triple.bind (leaseGuarded_upkeep.save.conseq (fun _ hw => hw) (fun _ _ hw => hw)
      (fun _ _ hw => hw.toClosed) fun _ hw => hw.toClosed) fun _ => ?_
    exact .pure fun _ hw => hw

theorem leaseGuarded_enforce (verify : Bool) : Triple (Work.exec env) LeaseGuarded
    (enforceLiveEvidenceLease cfg verify) (fun _ => LeaseGuarded) (fun _ => LeaseClosed)
    LeaseClosed := by
  have h : Upkeep env (LeaseGuarded (σ := σ)) := leaseGuarded_upkeep
  have hkeep : ∀ {α : Type} {m : Working α}, Keeps (Work.exec env) LeaseGuarded m →
      Triple (Work.exec env) LeaseGuarded m (fun _ => LeaseGuarded) (fun _ => LeaseClosed)
        LeaseClosed := fun hm =>
    hm.conseq (fun _ hw => hw) (fun _ _ hw => hw) (fun _ _ hw => hw.toClosed)
      fun _ hw => hw.toClosed
  unfold enforceLiveEvidenceLease
  refine Triple.bind (hkeep (h.ownCalm (.call _))) fun now => ?_
  refine Triple.bind (hkeep h.theData) fun d => ?_
  refine Triple.bind (hkeep (h.checkLease _ _ _)) fun checked => ?_
  split
  · exact leaseGuarded_failLease _
  · exact hkeep (.bind (h.setData _) fun _ => .pure)

/-! ### Runs -/

/-- The log is in order, and a running process whose lease failed is off. -/
structure LeaseOrdered (w : World σ) : Prop where
  closed : LeaseClosed w
  guarded : w.running = true → LeaseGuarded w

theorem Closed.restart {bad : List Event → Prop} {w : World σ} (hw : Closed bad w) :
    Closed bad w.restart :=
  hw.grow [] rfl (fun _ he => absurd he List.not_mem_nil) hw.parented rfl

theorem LeaseOrdered.died {w : World σ} (hw : LeaseClosed w) : LeaseOrdered w.restart :=
  ⟨hw.restart, fun h => by cases h⟩

variable (cfg) in
/-- A new process has found nothing about its lease yet. -/
theorem leaseValid_begin {w : World σ} (hw : LeaseClosed w) :
    LeaseValid (w.begin cfg .startup) := by
  have hpeace : ¬LeaseFailed (.started :: w.log) := by
    rintro ⟨later, earlier, heq, hlater⟩
    cases later with
    | nil => cases heq
    | cons e later =>
      obtain ⟨rfl, -⟩ := List.cons.inj heq
      exact hlater List.mem_cons_self
  refine ⟨⟨hw.grow [.started] rfl (fun e he => ?_) hw.parented rfl, fun hbad => ?_⟩, hpeace⟩
  · rw [List.mem_singleton.mp he]
    rfl
  · exact absurd hbad hpeace

theorem leaseOrdered_conclude {o : Outcome Exc Unit} {w : World σ} (hclosed : LeaseClosed w)
    (hdone : ∀ a, o = .done a → LeaseGuarded w) : LeaseOrdered (w.conclude o) := by
  cases o with
  | done a =>
    have hw := hdone a rfl
    exact ⟨⟨hw.parented, hw.tied, hw.safe⟩, fun _ =>
      ⟨⟨hw.parented, hw.tied, hw.safe⟩,
        fun hbad => ⟨(hw.off hbad).disabled, (hw.off hbad).restart⟩⟩⟩
  | raised e => exact .died hclosed
  | crashed => exact .died hclosed

theorem leaseOrdered_step (hlive : cfg.adapter.live = true) {w : World σ} (s : Step)
    (hw : LeaseOrdered w) : LeaseOrdered (step cfg env w s) := by
  obtain ⟨t, n⟩ := s
  unfold step
  split
  · next hrun =>
    dsimp only at hrun ⊢
    have hkeep : ∀ m : Doing Unit, Keeps (Deed.exec env) LeaseGuarded m → LeaseGuarded w →
        LeaseOrdered ((m.run (Deed.exec env) n w).2.conclude (m.run (Deed.exec env) n w).1) :=
      fun m hm hguard => leaseOrdered_conclude (hm.run n hguard).toClosed fun _ _ => hm.run n hguard
    have hguarded : t ≠ .startup → LeaseGuarded w := fun hne =>
      hw.guarded (hrun.resolve_left hne)
    have hsight := leaseGuarded_oversight env hlive
    cases t with
    | startup =>
      have hstart : Keeps (Deed.exec env) LeaseValid (Task.program cfg .startup) :=
        Oversight.working (leaseValid_oversight.startup (atPeace_setData _))
      have hvalid := hstart.run n (leaseValid_begin cfg hw.closed)
      exact leaseOrdered_conclude hvalid.toClosed fun _ _ => hvalid.toGuarded
    | enforceLease verify =>
      have henforce : Triple (Deed.exec env) LeaseGuarded (Task.program cfg (.enforceLease verify))
          (fun _ => LeaseGuarded) (fun _ => LeaseClosed) LeaseClosed :=
        Triple.bind (Triple.lift (fun _ _ => rfl) (leaseGuarded_enforce verify)) fun _ =>
          .pure fun _ hv => hv
      have hend := wp_run (henforce w (hguarded (by simp))) n
      dsimp only [World.begin]
      revert hend
      rcases Prog.run (Deed.exec env) n (Task.program cfg (.enforceLease verify)) w with
        ⟨_ | _ | _, w'⟩
      · exact fun hend => leaseOrdered_conclude hend.toClosed fun _ _ => hend
      · exact fun hend => .died hend
      · exact fun hend => .died hend
    | command file => exact hkeep _ (hsight.task _ (by simp) (by simp)) (hguarded (by simp))
    | signal file => exact hkeep _ (hsight.task _ (by simp) (by simp)) (hguarded (by simp))
    | manage => exact hkeep _ (hsight.task _ (by simp) (by simp)) (hguarded (by simp))
    | watch => exact hkeep _ (hsight.task _ (by simp) (by simp)) (hguarded (by simp))
    | prune results => exact hkeep _ (hsight.task _ (by simp) (by simp)) (hguarded (by simp))
  · exact hw

variable (env) in
theorem leaseOrdered_runSteps (hlive : cfg.adapter.live = true) (e : σ) (steps : List Step) :
    LeaseOrdered (runSteps cfg env e steps) := by
  have hfirst : LeaseOrdered ({ adapter := { env := e } } : World σ) := by
    refine ⟨⟨fun d hd => ?_, rfl, fun later id earlier heq => ?_⟩, fun hrunning => ?_⟩
    · exact absurd hd List.not_mem_nil
    · cases later <;> cases heq
    · cases hrunning
  unfold runSteps
  generalize ({ adapter := { env := e } } : World σ) = w at hfirst
  induction steps generalizing w with
  | nil => exact hfirst
  | cons s steps ih => exact ih _ (leaseOrdered_step hlive s hfirst)

/-- In every run of a live sidecar, a process that has found its lease invalid once sends no
entry any more. -/
theorem no_entry_after_invalid_lease (cfg : Config) (env : Env σ) (e : σ) (steps : List Step)
    (hlive : cfg.adapter.live = true) {later earlier : List Event}
    (hlog : (runSteps cfg env e steps).log = later ++ .leaseInvalid :: earlier)
    (hprocess : .started ∉ later) (id : IntentId) : .entrySubmitted id ∉ later := by
  intro hmem
  obtain ⟨newer, older, rfl⟩ := List.append_of_mem hmem
  have hsafe := (leaseOrdered_runSteps env hlive e steps).closed.safe newer id
    (older ++ .leaseInvalid :: earlier) (by rw [hlog, List.append_assoc, List.cons_append])
  exact hsafe ⟨older, earlier, rfl, fun h => hprocess (by simp [h])⟩

open Scripted

/-- A live sidecar whose lease loses its signature while it runs; then its owner asks for
entries. -/
def revoked : World Rig :=
  runSteps live Scripted.env { signed := false }
    [whole .startup, whole (.enforceLease true), command (.entries (some true)) "resume",
      whole (.enforceLease false)]

theorem no_entry_after_invalid_lease_revoked :
    .entrySubmitted 0 ∉ [Event.leaseInvalid, .executing "resume"] :=
  @no_entry_after_invalid_lease Rig live Scripted.env _ _ rfl _
    [.reconciled true, .reconcileBegan, .started] (by decide +kernel : revoked.log = _)
    (by decide) 0

end SpotSidecar.Supervisor
