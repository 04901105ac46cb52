import SpotSidecar.Simulation.Adapter

/-! The process around the simulated adapter: its start, the order manager, the owner commands,
and runs of turns in which it may be stopped at any act. -/
namespace SpotSidecar.Simulation
open Interaction

/-- `_disarm` -/
def disarm (reason : String) : Sim Unit := do
  let persisted ← (setEntries false reason).attempt
  let disabled ← (setEnabled false).attempt
  match Supervisor.disarmErrors persisted disabled with
  | [] => return ()
  | errors => .raise { kind := .runtime, text := "; ".intercalate errors }

/-- `OrderManager._pause`; the pause of the risk guard only gates the command that arms. -/
def pause (reason : String) : Sim Unit := do
  setEntries false reason
  let _ ← (setEnabled false).attempt
  return ()

/-- `start`, the reconciliation of `main` and its `_disarm` -/
def startup : Sim Unit := do
  setMemory fun m => { m with running := true, enabled := false }
  let (ok, detail) ← verifiedReconcile
  if ok then disarm "startup-reconciliation-complete-owner-resume-required"
  else .raise { kind := .runtime, text := detail }

/-- A signal that passed the checks of the order manager up to the look at the entry flag. -/
structure Signal where
  id : TradeId
  pair : Pair
  token : Supervisor.isToken id = true
  base : pair.base = "BTC"

/-- `register_symbol_pair`: the mapping changes before the save that may raise. -/
def registerPair (symbol : Symbol) (pair : Pair) : Sim Unit := do
  let s ← theStore
  let s ← Prog.ofExcept (s.registerSymbolPair symbol pair)
  .perform (.setData s.data)
  .perform .save

/-- `process_signal` after a submission that was not accepted. -/
def closeUnsubmitted (sig : Signal) : Sim Unit := do
  let s ← theStore
  let current ← Prog.ofExcept (s.activeTradeForSymbol sig.pair.symbol)
  if current.any (·.lifecycle = .signalApproved) then
    upsert sig.id sig.pair
      { lifecycle := some .entryRejected, reconciliationStatus := some "ENTRY_NOT_SUBMITTED" }

/-- `process_signal` once the signal is claimed. -/
def submitSignal (digest : Digest) (sig : Signal) : Sim Verdict := do
  registerPair sig.pair.symbol sig.pair
  let s ← theStore
  upsert sig.id sig.pair
    { lifecycle := some .signalApproved
      protectionMode := some (some s.data.protectionMode)
      reconciliationStatus := some "SIGNAL_ACCEPTED" }
  let (accepted, message) ← submit digest sig.pair.symbol (some sig.id)
  let result := "simulated:" ++ (if accepted then "accepted" else "rejected:" ++ message)
  .perform (.recordGuard sig.id result)
  .perform (.recordSignal sig.id result)
  if !accepted then closeUnsubmitted sig
  return (accepted, message)

/-- `process_signal` from the look at what became of the same id before. -/
def processSignal (digest : Digest) (sig : Signal) : Sim Verdict := do
  let prior ← .perform (.signalResult sig.id)
  match prior with
  | some result =>
    if result = "IN_PROGRESS" then
      pause "uncertain-prior-signal-submission-reconcile-required"
      return (false, "uncertain_prior_submission")
    else return (false, "duplicate_signal_token")
  | none =>
    let s ← theStore
    if !s.data.entriesEnabled then
      .perform (.recordSignal sig.id "rejected:entries_paused")
      return (false, "entries_paused")
    else
      let isNew ← .perform (.claimSignal sig.id)
      if isNew then submitSignal digest sig else return (false, "duplicate_signal_token")

/-- An owner command whose own checks let it through. -/
inductive Command where
  | entries (enabled : Bool)
  | setMode (mode : ProtectionMode)
  | reconcile
  | completePairSwitch (pair : Pair)
  | emergencyExit (symbol : Symbol)
  | convert (symbol : Symbol) (mode : String)
  deriving DecidableEq, Repr

/-- `process_command` -/
def processCommand : Command → Sim Unit
  | .entries true => do
    setEnabled true
    setEntries true ""
  | .entries false => disarm "operator-paused"
  | .setMode mode => do
    let s ← theStore
    .perform (.setData { s.data with protectionMode := mode })
    .perform .save
  | .reconcile => do
    let _ ← verifiedReconcile
    return ()
  | .completePairSwitch pair => do
    disarm "pair-switch-owner-resume-required"
    let (flat, _) ← verifyFlatForSwitch
    if flat then registerPair pair.symbol pair
  | .emergencyExit symbol => do
    disarm "emergency-exit-owner-resume-required"
    let _ ← emergencyExit symbol
    return ()
  | .convert symbol mode => do
    disarm "protection-conversion-owner-resume-required"
    let _ ← convert symbol mode
    return ()

inductive Task where
  | start
  | signal (sig : Signal)
  | command (c : Command)
  | inject (faults : List Fault)

/-- A turn: its task, its clock, what its acts fail with, and after how many acts the machine
stops. -/
structure Turn where
  task : Task
  now : ℚ := 0
  failures : List (Option Exc) := []
  budget : ℕ

/-- The program of a task. A command that fails is reported, a signal that fails is followed by
`_disarm`. -/
def program (digest : Digest) : Task → Sim Unit
  | .start => startup
  | .signal sig => (do
      let _ ← processSignal digest sig
      return ()).handle fun _ => disarm "signal-processing-failure"
  | .command c => (processCommand c).handle fun _ => return ()
  | .inject _ => return ()

/-- The world after a program: nothing runs after a crash or an error that nothing caught. -/
def World.after (w : World) (digest : Digest) (t : Turn) : World :=
  let r := (program digest t.task).run Act.exec t.budget
    { w with now := t.now, failures := t.failures }
  match r.1 with
  | .done _ => r.2
  | _ => { r.2 with process := none }

/-- One turn. A start ends the process that runs; any other task needs one, but the faults are
written from outside. -/
def step (digest : Digest) (w : World) (t : Turn) : World :=
  match t.task with
  | .inject faults => { w with faults := faults }
  | .start => { w with process := some {} }.after digest t
  | _ => if w.process.isSome then w.after digest t else w

def runTurns (digest : Digest) (w : World) (turns : List Turn) : World :=
  turns.foldl (step digest) w

end SpotSidecar.Simulation
