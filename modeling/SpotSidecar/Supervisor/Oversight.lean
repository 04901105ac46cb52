import SpotSidecar.Safety.Shut
import SpotSidecar.Supervisor.Loop

/-! The walk through the programs of the supervisor for invariants of its log and of the flags
of the adapter. Everything but the two places that enable the adapter is walked here. -/
namespace SpotSidecar.Supervisor
open Interaction Prog
variable {σ α β γ : Type} {cfg : Config} {env : Env σ}

/-- The events that bookkeeping and reconciliations leave in the log. -/
def Event.plain : Event → Prop
  | .submitting _ | .executing _ | .replaying _ | .reconcileBegan | .reconciled _ => True
  | _ => False

/-- Nothing of the adapter changed but its environment, and the log grew by plain events. -/
def Steady (w w' : World σ) : Prop :=
  ∃ e es, w'.adapter = { w.adapter with env := e } ∧ w'.log = es ++ w.log ∧ ∀ x ∈ es, x.plain

theorem Steady.refl (w : World σ) : Steady w w :=
  ⟨w.adapter.env, [], rfl, rfl, fun _ hx => absurd hx List.not_mem_nil⟩

theorem Steady.answered {w w' : World σ} {e : σ} (h : w'.adapter = { w.adapter with env := e })
    (hlog : w'.log = w.log) : Steady w w' :=
  ⟨e, [], h, hlog, fun _ hx => absurd hx List.not_mem_nil⟩

theorem Steady.noted (w : World σ) {x : Event} (hx : x.plain) : Steady w (w.note x) :=
  ⟨w.adapter.env, [x], rfl, rfl, fun _ hy => (List.mem_singleton.mp hy) ▸ hx⟩

theorem World.write_steady (w : World σ) (a : γ) {f : World σ → World σ}
    (hf : ∀ w, (f w).adapter = w.adapter ∧ (f w).log = w.log) : Steady w (w.write env a f).2 := by
  unfold World.write
  dsimp only
  split
  · exact .answered (hf _).1 (hf _).2
  · exact .answered rfl rfl

/-- Acts that do nothing to the adapter and note nothing but plain events. -/
def Work.plain (γ : Type) : Work γ → Prop
  | .adapter _ | .callback _ _ | .arrivals _ | .leaseInvalid => False
  | _ => True

variable (env) in
theorem Work.plain_steady {a : Work γ} (ha : a.plain) (w : World σ) :
    Steady w (a.exec env γ w).2 := by
  cases a with
  | adapter a => exact ha.elim
  | callback p f => exact ha.elim
  | arrivals p => exact ha.elim
  | leaseInvalid => exact ha.elim
  | tables => exact .refl w
  | data => exact .refl w
  | setData d => exact .answered rfl rfl
  | save => exact World.write_steady w () fun w => ⟨rfl, rfl⟩
  | tradeSize => exact .refl w
  | setTradeSize q => exact .answered rfl rfl
  | ask q => exact .answered rfl rfl
  | reconcileBegan => exact .noted w trivial
  | reconciled ok => exact .noted w trivial

/-- Acts on the tables of claims, and notes about them. -/
def Deed.booking (γ : Type) : Deed γ → Prop
  | .work _ => False
  | _ => True

theorem Deed.booking_steady {a : Deed γ} (ha : a.booking) (w : World σ) :
    Steady w (a.exec env γ w).2 := by
  cases a with
  | work a => exact ha.elim
  | claimSignal id => exact World.write_steady w _ fun w => ⟨rfl, rfl⟩
  | recordSignal id result => exact World.write_steady w _ fun w => ⟨rfl, rfl⟩
  | claimCommand id => exact World.write_steady w _ fun w => ⟨rfl, rfl⟩
  | recordCommand payload => exact World.write_steady w _ fun w => ⟨rfl, rfl⟩
  | writeResult payload => exact World.write_steady w _ fun w => ⟨rfl, rfl⟩
  | removeResults ids => exact World.write_steady w _ fun w => ⟨rfl, rfl⟩
  | submitting id => exact .noted w trivial
  | executing id => exact .noted w trivial
  | replaying id => exact .noted w trivial

/-- The program that demands a restart of the process before the adapter is enabled again. -/
def requireRestart : Working Unit :=
  own (SpotSidecar.setData ({ · with liveRestartRequired := true }))

/-- What an invariant needs in order to be kept by the programs that neither enable the adapter
nor demand a restart. -/
structure Upkeep (env : Env σ) (I : World σ → Prop) : Prop where
  steady : ∀ {w w'}, Steady w w' → I w → I w'
  own : ∀ {α} {m : Acting α}, Obedient env.toEnv m → Keeps (Work.exec env) I (own m)
  gap : Keeps (Work.exec env) I (gap .anywhere)

/-- What an invariant needs in order to be kept by every program of the supervisor. -/
structure Oversight (cfg : Config) (env : Env σ) (I : World σ → Prop) : Prop
    extends Upkeep env I where
  require : Keeps (Work.exec env) I requireRestart
  armed : Keeps (Work.exec env) I (setEnabledOn cfg)
  auto : ∀ symbol args, Keeps (Work.exec env) I (autoConvert cfg symbol args)

section obedient
variable {env : SpotSidecar.Env σ}

theorem obedient_calm {m : Asking α} (hm : Calm m) : Obedient env (liftM m : Acting α) :=
  .of_ward fun _ h => h.quiet hm

theorem obedient_setEntries (value : Bool) (reason : String) :
    Obedient env (liftM (SpotSidecar.setEntries value reason) : Acting Unit) :=
  .of_ward fun _ h => Keeps.asked (h.setEntries _ _)

theorem obedient_setMemory (f : Memory → Memory)
    (hf : ∀ m, m.enabled = false → (f m).enabled = false) :
    Obedient env (liftM (setMemory f) : Acting Unit) :=
  .of_ward fun _ h => Keeps.asked (h.setMemory f hf)

theorem obedient_setData (f : SidecarData → SidecarData)
    (hf : ∀ d, (f d).liveRestartRequired = d.liveRestartRequired) :
    Obedient env (liftM (SpotSidecar.setData f) : Acting Unit) :=
  .of_ward fun _ h => Keeps.asked (h.setData f hf)

theorem obedient_registerPair (symbol : Symbol) (pair : Pair) :
    Obedient env (liftM (registerPair symbol pair) : Acting Unit) :=
  .of_ward fun _ h => Keeps.asked (h.registerPair _ _)

theorem obedient_ofExcept (r : Except Exc α) : Obedient env (.ofExcept r) :=
  .of_ward fun _ _ => .ofExcept

end obedient

namespace Upkeep
variable {I : World σ → Prop} (h : Upkeep env I)
include h

theorem work (a : Work γ) (ha : a.plain) : Keeps (Work.exec env) I (.perform a : Working γ) :=
  .perform fun w hw => h.steady (Work.plain_steady env ha w) hw

theorem save : Keeps (Work.exec env) I (.perform .save : Working Unit) := h.work _ trivial

theorem tradeSize : Keeps (Work.exec env) I (.perform .tradeSize : Working ℚ) := h.work _ trivial

theorem ask (q : Query γ) : Keeps (Work.exec env) I (ask q) := h.work _ trivial

theorem theTables : Keeps (Work.exec env) I theTables := h.work _ trivial

theorem theData : Keeps (Work.exec env) I theData := h.work _ trivial

theorem setData (f : SupervisorData → SupervisorData) : Keeps (Work.exec env) I (setData f) :=
  .bind h.theData fun _ => h.work _ trivial

theorem ownCalm {m : Asking α} (hm : Calm m) : Keeps (Work.exec env) I (Supervisor.own (liftM m)) :=
  h.own (obedient_calm hm)

theorem locked {m : Acting α} (hm : Obedient env.toEnv m) : Keeps (Work.exec env) I (locked m) :=
  .bind h.gap fun _ => h.own hm

theorem lockedCalm {m : Asking α} (hm : Calm m) :
    Keeps (Work.exec env) I (Supervisor.locked (liftM m)) :=
  h.locked (obedient_calm hm)

theorem setEntries (value : Bool) (reason : String) :
    Keeps (Work.exec env) I (setEntries value reason) :=
  .bind (h.locked (obedient_setEntries _ _)) fun _ => h.save

theorem setDisabled : Keeps (Work.exec env) I setDisabled :=
  h.locked (obedient_setMemory _ fun _ _ => rfl)

theorem disarm (reason : String) : Keeps (Work.exec env) I (disarm reason) := by
  unfold Supervisor.disarm
  refine .bind (.attempt (h.setEntries _ _)) fun persisted => ?_
  refine .bind (.attempt h.setDisabled) fun disabled => ?_
  split
  · exact .pure
  · exact .raise

theorem pauseAll (reason : String) : Keeps (Work.exec env) I (pauseAll reason) := by
  refine .bind (h.setEntries _ _) fun _ => .bind (h.lockedCalm (.call _)) fun _ => ?_
  exact .bind (.attempt h.setDisabled) fun _ => .pure

theorem reconcileHeld : Keeps (Work.exec env) I (reconcileHeld cfg) := by
  refine .bind (h.work _ trivial) fun _ => ?_
  refine .bind (h.own (.of_ward fun _ hJ => hJ.verifiedReconcile)) fun r => ?_
  exact .bind (h.work _ trivial) fun _ => .pure

theorem reconcile : Keeps (Work.exec env) I (reconcile cfg) := .bind h.gap fun _ => h.reconcileHeld

theorem freqtradePairReady : Keeps (Work.exec env) I freqtradePairReady :=
  .bind (h.ownCalm (.call _)) fun _ => .bind (h.ask _) fun _ => .bind (h.ask _) fun _ => .pure

theorem activeSymbol (value : String) : Keeps (Work.exec env) I (activeSymbol cfg value) :=
  .bind (h.ask _) fun _ => .bind .ensure fun _ => .pure

theorem checkLease (d : SupervisorData) (now : ℚ) (verify : Bool) :
    Keeps (Work.exec env) I (checkLease cfg d now verify) := by
  unfold Supervisor.checkLease
  split
  · exact .pure
  · split
    · exact .pure
    · split
      · exact .pure
      · split
        · exact h.ask _
        · exact .pure

/-- Where the flag may be set, the two programs that set it need no more. -/
theorem oversight (harming : Keeps (Work.exec env) I (Supervisor.gap .arming))
    (hrequire : Keeps (Work.exec env) I requireRestart)
    (henable : Keeps (Work.exec env) I
      (Supervisor.own (liftM (setMemory ({ · with enabled := true }))))) :
    Oversight cfg env I where
  toUpkeep := h
  require := hrequire
  armed := by
    unfold setEnabledOn
    refine .bind (h.lockedCalm .theStore) fun s => ?_
    split
    · exact .pure
    · refine .bind (h.lockedCalm (.call _)) fun risk => ?_
      split
      · exact .pure
      · refine .bind h.reconcile fun result => ?_
        split
        · exact .pure
        · refine .bind harming fun _ => .bind (h.ownCalm .theStore) fun s => ?_
          split
          · exact .pure
          · refine .bind harming fun _ => .bind henable fun _ => ?_
            exact .bind (h.lockedCalm .theMemory) fun m => .pure
  auto symbol args := by
    unfold autoConvert
    refine .bind (h.ownCalm .theMemory) fun m => .bind (h.ownCalm .theStore) fun s => ?_
    refine .bind (h.own (.of_ward fun _ hJ => hJ.convert _ _)) fun answer => ?_
    split
    split
    · refine .bind h.reconcileHeld fun proof => .bind (h.ownCalm .theStore) fun s => ?_
      refine .bind (h.ownCalm (.call _)) fun risk => ?_
      dsimp only
      split
      · refine .bind (h.own (obedient_setEntries _ _)) fun _ => .bind h.save fun _ => ?_
        exact .bind henable fun _ => .pure
      · exact .pure
    · exact .pure

end Upkeep

namespace Oversight
variable {I : World σ → Prop} (h : Oversight cfg env I)
include h

omit h in
theorem argument (value : Option α) (error : String) :
    Keeps (Work.exec env) I (argument value error) := by
  cases value with
  | none => exact .raise
  | some a => exact .pure

theorem resumeEntries : Keeps (Work.exec env) I (resumeEntries cfg) := by
  unfold Supervisor.resumeEntries
  refine .bind (h.ask _) fun _ => .bind (h.ask _) fun _ => ?_
  refine .bind h.freqtradePairReady fun ready => .bind .ensure fun _ => ?_
  refine .bind (h.lockedCalm (.call _)) fun risk => .bind .ensure fun _ => ?_
  refine .bind h.armed fun result => .bind .ensure fun _ => ?_
  refine .bind (h.setEntries _ _) fun _ => .bind (.attempt (h.ask _)) fun marked => ?_
  split
  · exact .pure
  · exact .bind (h.disarm _) fun _ => .raise

theorem setEntriesCommand (enabled : Option Bool) :
    Keeps (Work.exec env) I (setEntriesCommand cfg enabled) := by
  unfold Supervisor.setEntriesCommand
  refine .bind (argument _ _) fun on => ?_
  split
  · exact h.resumeEntries
  · exact .bind (h.disarm _) fun _ => .pure

theorem setModeCommand (mode : Option ProtectionMode) :
    Keeps (Work.exec env) I (setModeCommand cfg mode) := by
  refine .bind .ensure fun _ => .bind (argument _ _) fun mode => ?_
  exact .bind (h.locked (obedient_setData _ fun _ => rfl)) fun _ => .bind h.save fun _ => .pure

theorem setSizeCommand (value : Option ℚ) :
    Keeps (Work.exec env) I (setSizeCommand cfg value) := by
  refine .bind (argument _ _) fun value => .bind .ensure fun _ => ?_
  unfold setSize
  split
  · exact .pure
  · split
    · exact .pure
    · refine .bind h.tradeSize fun size => ?_
      split
      · exact .pure
      · exact .bind (h.work _ trivial) fun _ => .pure

omit h in
theorem setMaxCommand (count : Option ℤ) : Keeps (Work.exec env) I (setMaxCommand count) :=
  .bind (argument _ _) fun _ => .pure

theorem reconcileCommand : Keeps (Work.exec env) I (reconcileCommand cfg) :=
  .bind h.reconcile fun _ => .pure

theorem restartStreamCommand : Keeps (Work.exec env) I (restartStreamCommand cfg) := by
  refine .bind h.setDisabled fun _ => .bind (h.setEntries _ _) fun _ => ?_
  refine .bind (.attempt (h.lockedCalm (.call _))) fun _ => .bind (h.ask _) fun _ => ?_
  exact .bind h.reconcile fun _ => .pure

theorem switchPairCommand (pair registryHash : String) :
    Keeps (Work.exec env) I (switchPairCommand cfg pair registryHash) := by
  unfold Supervisor.switchPairCommand
  refine .bind (h.disarm _) fun _ => ?_
  split
  · exact .raise
  · refine .bind (h.lockedCalm (.validatePair _)) fun _ => .bind (h.ask _) fun symbols => ?_
    split
    · exact .pure
    · refine .bind (.attempt (h.locked ?_)) fun verification => .bind (h.ask _) fun _ => .pure
      exact .of_ward fun _ hJ => Keeps.asked (hJ.verifyFlatForSwitch _)

theorem recheckSwitch (symbols : List Symbol) (target : Pair) :
    Keeps (Work.exec env) I (recheckSwitch cfg symbols target) := by
  unfold Supervisor.recheckSwitch
  refine .bind (h.locked ?_) fun verification => ?_
  · exact .of_ward fun _ hJ => Keeps.asked (hJ.verifyFlatForSwitch _)
  · split
    · exact .bind h.tradeSize fun _ => .bind (h.lockedCalm (.validatePairFunding _)) fun _ => .pure
    · exact .pure

theorem completePairSwitchCommand : Keeps (Work.exec env) I (completePairSwitchCommand cfg) := by
  unfold Supervisor.completePairSwitchCommand
  refine .bind (h.disarm _) fun _ => .bind (h.ask _) fun target => ?_
  refine .bind (.attempt (h.recheckSwitch _ _)) fun recheck => .bind (h.ask _) fun published => ?_
  refine .bind (h.locked (obedient_registerPair _ _)) fun _ => .bind h.save fun _ => ?_
  split
  · refine .bind (.bind h.gap fun _ => h.require) fun _ => .bind h.save fun _ => ?_
    exact .bind (h.lockedCalm (.call _)) fun _ => .pure
  · exact .pure

theorem verifyPairSwitchCommand : Keeps (Work.exec env) I verifyPairSwitchCommand := by
  unfold Supervisor.verifyPairSwitchCommand
  refine .bind h.freqtradePairReady fun ready => ?_
  split
  · exact .bind (h.ask _) fun _ => .pure
  · exact .pure

theorem manualEntryCommand (id symbol : String) :
    Keeps (Work.exec env) I (manualEntryCommand cfg id symbol) := by
  refine .bind .ensure fun _ => .bind (h.activeSymbol _) fun symbol => ?_
  exact .bind h.tradeSize fun size => h.locked (.submit _ _)

theorem emergencyExitCommand (symbol : String) :
    Keeps (Work.exec env) I (emergencyExitCommand cfg symbol) := by
  refine .bind (h.disarm _) fun _ => .bind (h.activeSymbol _) fun symbol => ?_
  exact .bind (h.locked (.of_ward fun _ hJ => hJ.emergencyExit _)) fun _ => .pure

theorem convertCommand (symbol : String) {args : Working ConvertArgs}
    (hargs : Keeps (Work.exec env) I args) :
    Keeps (Work.exec env) I (convertCommand cfg symbol args) := by
  refine .bind (h.disarm _) fun _ => .bind (h.activeSymbol _) fun symbol => ?_
  exact .bind hargs fun args => h.locked (.of_ward fun _ hJ => hJ.convert _ _)

theorem lockProfitCommand (symbol : String) (pct : Option ℚ) :
    Keeps (Work.exec env) I (lockProfitCommand cfg symbol pct) :=
  .bind (argument _ _) fun _ => .bind .ensure fun _ => h.convertCommand _ .pure

theorem tightTrailingCommand (symbol : String) (delta : Option ℤ) :
    Keeps (Work.exec env) I (tightTrailingCommand cfg symbol delta) :=
  .bind (argument _ _) fun _ => h.convertCommand _ .pure

theorem autoProtectionCommand (enabled : Option Bool) :
    Keeps (Work.exec env) I (autoProtectionCommand cfg enabled) := by
  refine .bind (argument _ _) fun enabled => .bind .ensure fun _ => ?_
  exact .bind (h.setData _) fun _ => .bind h.save fun _ => .pure

theorem dispatch (id : String) (c : OwnerCommand) :
    Keeps (Work.exec env) I (dispatch cfg id c) := by
  cases c with
  | entries enabled => exact h.setEntriesCommand _
  | mode mode => exact h.setModeCommand _
  | status => exact .bind (h.lockedCalm .readStatus) fun _ => .pure
  | balance => exact .bind (h.lockedCalm .readBalance) fun _ => .pure
  | profit => exact .pure
  | restartStream => exact h.restartStreamCommand
  | setSize value => exact h.setSizeCommand _
  | setMax count => exact setMaxCommand _
  | reconcile => exact h.reconcileCommand
  | pair => exact .bind (h.ask _) fun _ => .pure
  | pairs => exact .bind (h.ask _) fun _ => .pure
  | switchPair pair registryHash => exact h.switchPairCommand _ _
  | completePairSwitch => exact h.completePairSwitchCommand
  | verifyPairSwitch => exact h.verifyPairSwitchCommand
  | manualEntry symbol => exact h.manualEntryCommand _ _
  | emergencyExit symbol => exact h.emergencyExitCommand _
  | convert symbol mode => exact h.convertCommand _ (.bind (argument _ _) fun _ => .pure)
  | breakEven symbol => exact h.convertCommand _ .pure
  | lockProfit symbol pct => exact h.lockProfitCommand _ _
  | tightTrailing symbol delta => exact h.tightTrailingCommand _ _
  | autoProtection enabled => exact h.autoProtectionCommand _
  | clearRiskPause => exact .bind (h.ask _) fun _ => .pure
  | unknown name => exact .pure

theorem managePosition (active : PairControl.ActiveState) (bullish : Bool) :
    Keeps (Work.exec env) I (managePosition cfg active bullish) := by
  unfold Supervisor.managePosition
  refine .bind (h.ownCalm .theStore) fun s => .bind (h.own (obedient_ofExcept _)) fun found => ?_
  split
  · exact .pure
  · split
    · exact .pure
    · split
      · exact .pure
      · refine .bind (h.ask _) fun ready => ?_
        split
        · exact .pure
        · refine .bind (h.ownCalm (.currentPrice _)) fun current => ?_
          split
          · exact .pure
          · refine .bind (h.ownCalm (.autoAction _ _ _ _ _ _ _)) fun action => ?_
            split
            · exact .pure
            · exact h.auto _ _
            · exact h.auto _ _

theorem maybeAutoManage (flow : Option Flow) :
    Keeps (Work.exec env) I (maybeAutoManage cfg flow) := by
  unfold Supervisor.maybeAutoManage
  refine .bind h.gap fun _ => .bind h.theData fun d => .bind (h.ownCalm .theMemory) fun m => ?_
  refine .bind (h.ownCalm .theStore) fun s => ?_
  split
  · exact .pure
  · refine .bind (h.ask _) fun active => .bind (h.ownCalm (.call _)) fun now => ?_
    split
    · exact .pure
    · exact h.managePosition _ _

omit h in
theorem working {m : Working α} (hm : Keeps (Work.exec env) I m) :
    Keeps (Deed.exec env) I (liftM m : Doing α) :=
  Triple.lift (fun _ _ => rfl) hm

theorem deed (a : Deed γ) (ha : a.booking) : Keeps (Deed.exec env) I (.perform a : Doing γ) :=
  .perform fun w hw => h.steady (Deed.booking_steady ha w) hw

theorem writeCommandResult (c : CommandPayload) (ok : Bool) (result : String) :
    Keeps (Deed.exec env) I (writeCommandResult cfg c ok result) :=
  .bind (h.deed _ trivial) fun _ => h.deed _ trivial

theorem replayCommand (c : CommandPayload) : Keeps (Deed.exec env) I (replayCommand c) := by
  unfold Supervisor.replayCommand
  refine .bind (working h.theTables) fun t => ?_
  split
  · refine .bind (h.deed _ trivial) fun _ => .bind (h.deed _ trivial) fun _ => ?_
    exact working (h.setEntries _ _)
  · exact h.deed _ trivial
  · exact h.deed _ trivial
  · exact .pure

theorem expireCommand (c : CommandPayload) : Keeps (Deed.exec env) I (expireCommand cfg c) := by
  unfold Supervisor.expireCommand
  refine .bind (h.deed _ trivial) fun isNew => ?_
  split
  · exact h.writeCommandResult _ _ _
  · exact .pure

theorem executeCommand (c : CommandPayload) : Keeps (Deed.exec env) I (executeCommand cfg c) := by
  unfold Supervisor.executeCommand
  refine .bind (h.deed _ trivial) fun _ => ?_
  refine .bind (working (.attempt (h.dispatch _ _))) fun answer => ?_
  split <;> exact h.writeCommandResult _ _ _

theorem processCommand (file : CommandFile) :
    Keeps (Deed.exec env) I (processCommand cfg file) := by
  cases file with
  | invalid detail => exact .pure
  | verified c =>
    unfold Supervisor.processCommand
    dsimp only
    split
    · exact .pure
    · refine .bind (working (h.ownCalm (.call _))) fun now => ?_
      split
      · refine .bind (h.deed _ trivial) fun isNew => ?_
        split
        · exact h.executeCommand _
        · exact h.replayCommand _
      · exact h.expireCommand _

theorem reject (sig : Option Signal) (reason : String) (record : Bool) :
    Keeps (Deed.exec env) I (reject sig reason record) := by
  unfold Supervisor.reject
  have hlast : Keeps (Deed.exec env) I
      (liftM (Supervisor.ask (.move false)) >>=
        fun _ => Pure.pure (false, reason) : Doing Result) :=
    .bind (working (h.ask _)) fun _ => .pure
  split
  · split
    · exact .bind (h.deed _ trivial) fun _ => hlast
    · exact hlast
  · exact hlast

theorem refusal (c : Candidate) : Keeps (Work.exec env) I (refusal cfg c) := by
  unfold Supervisor.refusal
  refine .bind (h.ask _) fun active => ?_
  split
  · exact .pure
  · refine .bind h.theTables fun t => .bind (h.ask _) fun answer => ?_
    split
    split
    · exact .pure
    · refine .bind (h.ask _) fun flow => .bind (h.ownCalm (.call _)) fun now => ?_
      split
      · exact .pure
      · exact .bind (h.lockedCalm .theStore) fun s => .pure

theorem submitSignal (c : Candidate) : Keeps (Deed.exec env) I (submitSignal cfg c) := by
  unfold Supervisor.submitSignal
  refine .bind (working (h.locked (obedient_registerPair _ _))) fun _ => ?_
  refine .bind (working h.save) fun _ => .bind (working (h.lockedCalm .theStore)) fun s => ?_
  refine .bind (working (h.locked (.of_ward fun _ hJ => hJ.upsert trivial _ _))) fun _ => ?_
  refine .bind (working h.tradeSize) fun size => .bind (h.deed _ trivial) fun _ => ?_
  refine .bind (working (h.locked (.submit _ _))) fun answer => ?_
  refine .bind (working h.theData) fun d => .bind (working (h.ask _)) fun _ => ?_
  refine .bind (h.deed _ trivial) fun _ => ?_
  have hlast : Keeps (Deed.exec env) I (liftM (Supervisor.ask (.move answer.1)) >>= fun _ =>
      Pure.pure (answer.1, answer.2) : Doing Result) :=
    .bind (working (h.ask _)) fun _ => .pure
  split
  · refine .bind (working (h.locked ?_)) fun _ => hlast
    exact .of_ward fun _ hJ => hJ.rejectUnsubmitted _ _ trivial
  · exact hlast

theorem handleCandidate (c : Candidate) : Keeps (Deed.exec env) I (handleCandidate cfg c) :=
  keeps_handleCandidate h.reject (working h.theTables) (fun _ => working (h.pauseAll _))
    (working (h.refusal _)) ((h.deed (.claimSignal c.id) trivial).conseq (fun _ hw => hw)
      (fun _ _ hw => ⟨hw, fun _ => hw⟩) (fun _ _ hw => hw) fun _ hw => hw) (h.submitSignal c)

theorem failLease (note : ∀ w, I w → I (w.note .leaseInvalid)) (status : String) :
    Keeps (Work.exec env) I (failLease status) := by
  unfold Supervisor.failLease
  refine .bind (.perform note) fun _ => .bind (.attempt (h.disarm _)) fun disarmed => ?_
  refine .bind (h.setData _) fun _ => .bind (.bind h.gap fun _ => h.require) fun _ => ?_
  exact .bind h.save fun _ => .pure

theorem enforce (fail : ∀ status, Keeps (Work.exec env) I (Supervisor.failLease status))
    (verify : Bool) :
    Keeps (Work.exec env) I (enforceLiveEvidenceLease cfg verify) := by
  unfold enforceLiveEvidenceLease
  refine .bind (h.ownCalm (.call _)) fun now => .bind h.theData fun d => ?_
  refine .bind (h.checkLease _ _ _) fun checked => ?_
  split
  · exact fail _
  · exact .bind (h.setData _) fun _ => .pure

theorem certifyLive : Keeps (Work.exec env) I (certifyLive cfg) := by
  refine .bind .ensure fun _ => .bind .ensure fun _ => .bind (argument _ _) fun mode => ?_
  refine .bind (h.own (obedient_setData _ fun _ => rfl)) fun _ => .bind h.save fun _ => ?_
  refine .bind (h.setData _) fun _ => .bind h.save fun _ => .bind .ensure fun _ => ?_
  exact .bind (h.ask _) fun _ => .bind (h.setData _) fun _ => h.save

theorem liveInterlock : Keeps (Work.exec env) I (liveInterlock cfg) := by
  unfold Supervisor.liveInterlock
  refine .bind (h.setData _) fun _ => .bind (h.own (obedient_setEntries _ _)) fun _ => ?_
  refine .bind h.save fun _ => ?_
  split
  · exact h.certifyLive
  · exact .pure

theorem startAdapter : Keeps (Work.exec env) I (startAdapter cfg) := by
  refine .bind (h.ownCalm (.call _)) fun active => .bind (h.ownCalm (.rulesOf _)) fun rules => ?_
  refine .bind (h.ownCalm .theStore) fun s => ?_
  refine .bind (h.ownCalm (.ensure)) fun _ => ?_
  refine .bind (h.own (obedient_registerPair _ _)) fun _ => .bind h.save fun _ => ?_
  refine .bind (h.own (obedient_setMemory _ fun _ _ => rfl)) fun _ => ?_
  refine .bind (h.own (obedient_setEntries _ _)) fun _ => .bind h.save fun _ => ?_
  refine .bind (h.ask _) fun _ => .bind h.reconcile fun result => .bind .ensure fun _ => ?_
  exact h.locked (obedient_setMemory _ fun _ hm => hm)

theorem startup (reset : Keeps (Work.exec env) I
    (Supervisor.own (SpotSidecar.setData ({ · with liveRestartRequired := false })))) :
    Keeps (Work.exec env) I (startup cfg) := by
  unfold Supervisor.startup
  refine .bind (h.ask _) fun active => .bind (h.own (obedient_registerPair _ _)) fun _ => ?_
  refine .bind h.save fun _ => .bind h.liveInterlock fun _ => ?_
  split
  · exact .bind reset fun _ => .bind h.save fun _ => .bind h.startAdapter fun _ =>
      .bind (h.disarm _) fun _ => .pure
  · exact .bind h.startAdapter fun _ => .bind (h.disarm _) fun _ => .pure

theorem tickHeld : Keeps (Work.exec env) I (tickHeld cfg) := by
  unfold Supervisor.tickHeld
  have hlast : Keeps (Work.exec env) I (Supervisor.own (tickRows cfg.adapter)) :=
    h.own (.of_ward fun _ hJ => hJ.tickRows)
  refine .bind (h.ownCalm .theMemory) fun m => ?_
  split
  · exact hlast
  · refine .bind (h.ownCalm (.call _)) fun now => ?_
    split
    · refine .bind (h.own (obedient_setMemory _ fun _ hm => hm)) fun _ => ?_
      exact .bind h.reconcileHeld fun _ => hlast
    · exact hlast

theorem manage : Keeps (Work.exec env) I (manage cfg) := by
  unfold Supervisor.manage
  refine .bind (.attempt ?_) fun result => ?_
  · refine .bind h.gap fun _ => .bind h.tickHeld fun _ => .bind h.theData fun d => ?_
    split
    · exact .bind (h.ask _) fun flow => .bind (h.maybeAutoManage _) fun _ => .pure
    · exact .pure
  · split
    · exact .pure
    · exact .bind (h.disarm _) fun _ => .pure

theorem watch : Keeps (Work.exec env) I watch := by
  unfold Supervisor.watch
  refine .bind (h.ask _) fun _ => .bind h.freqtradePairReady fun ready => ?_
  refine .bind (h.lockedCalm .theStore) fun s => ?_
  split
  · exact .bind (.attempt (h.disarm _)) fun _ => .pure
  · exact .pure

theorem commandTask (file : CommandFile) : Keeps (Deed.exec env) I (commandTask cfg file) := by
  unfold Supervisor.commandTask
  refine .bind (.attempt (h.processCommand _)) fun result => ?_
  split
  · exact .pure
  · exact .bind (working (h.disarm _)) fun _ => .pure

theorem signalTask (file : SignalFile) : Keeps (Deed.exec env) I (signalTask cfg file) := by
  unfold Supervisor.signalTask
  refine .bind (.attempt (keeps_processSignal h.reject _ h.handleCandidate)) fun result => ?_
  split
  · exact .pure
  · refine .bind (working (h.disarm _)) fun _ => ?_
    exact .bind (working (.attempt (h.lockedCalm (.call _)))) fun _ => .pure

/-- Every task but the start and the watch over the lease. -/
theorem task (t : Task) (hstart : t ≠ .startup) (hlease : ∀ verify, t ≠ .enforceLease verify) :
    Keeps (Deed.exec env) I (t.program cfg) := by
  cases t with
  | startup => exact absurd rfl hstart
  | enforceLease verify => exact absurd rfl (hlease verify)
  | command file => exact h.commandTask file
  | signal file => exact h.signalTask file
  | manage => exact working h.manage
  | watch => exact working h.watch
  | prune results => exact h.deed _ trivial

end Oversight

end SpotSidecar.Supervisor
