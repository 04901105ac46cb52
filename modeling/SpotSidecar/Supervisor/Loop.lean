import SpotSidecar.Supervisor.Commands

/-! The process of the sidecar: its start, the tasks of its main loop and its runs. -/
namespace SpotSidecar.Supervisor
open Interaction

/-- What `enforce_live_evidence_lease` finds wrong with the lease. -/
def checkLease (cfg : Config) (d : SupervisorData) (now : ℚ) (verifySignature : Bool) :
    Working (Except String Unit) := do
  if d.liveEvidenceFailureLatched then
    return .error "live evidence failure is latched until restart"
  else
    match d.liveEvidenceLease with
    | none => return .error "expires_at"
    | some expiresAt =>
      if expiresAt ≤ now then return .error "live evidence lease expired"
      else if verifySignature then ask (.leaseEvidence (cfg.recheckSeconds * 2))
      else return .ok ()

/-- `enforce_live_evidence_lease` once the lease was found invalid. -/
def failLease (status : String) : Working (Bool × String) := do
  .perform .leaseInvalid
  let disarmed ← (disarm "live-evidence-invalid-restart-required").attempt
  let status := match disarmed with
    | .ok _ => status
    | .error e => status ++ "; disarm error: " ++ e.text
  setData fun d => { d with
    liveEvidenceOk := false
    liveEvidenceStatus := String.ofList (status.toList.take 500)
    liveEvidenceFailureLatched := true }
  locked (SpotSidecar.setData ({ · with liveRestartRequired := true }))
  .perform .save
  return (false, status)

/-- `enforce_live_evidence_lease` -/
def enforceLiveEvidenceLease (cfg : Config) (verifySignature : Bool) :
    Working (Bool × String) := do
  let now ← own (call .time)
  let d ← theData
  let checked ← checkLease cfg d now verifySignature
  match checked with
  | .error status => failLease status
  | .ok () =>
    setData ({ · with liveEvidenceOk := true, liveEvidenceStatus := "valid" })
    return (true, "valid")

/-- `live_interlock` in LIVE mode: what the release must prove before it trades. -/
def certifyLive (cfg : Config) : Working Unit := do
  .ensure cfg.liveTradingEnabled
    (.of .runtime "LIVE BLOCKED: LIVE_TRADING_ENABLED must be explicitly true")
  .ensure (cfg.autoConfirm = false) (.of .runtime "LIVE BLOCKED: AUTO_CONFIRM must remain false")
  let mode ← argument cfg.protectionMode
    "LIVE BLOCKED: evidence-bound runtime policy is invalid"
  own (SpotSidecar.setData ({ · with protectionMode := mode }))
  .perform .save
  setData ({ · with autoProtectionEnabled := some cfg.autoProtectionEnabled })
  .perform .save
  .ensure cfg.releaseInstalled
    (.of .runtime "LIVE BLOCKED: SIDECAR_RELEASE_HASH must match the installed artifact")
  let expiresAt ← ask .verifyLiveEvidence
  setData ({ · with
    liveEvidenceLease := some expiresAt
    liveEvidenceOk := true
    liveEvidenceStatus := "valid"
    liveEvidenceFailureLatched := false })
  .perform .save

/-- `live_interlock` -/
def liveInterlock (cfg : Config) : Working Unit := do
  setData fun d => { d with
    autoProtectionEnabled := some (d.autoProtectionEnabled.getD cfg.autoProtectionEnabled)
    simulation := false }
  own (SpotSidecar.setEntries false
    (if cfg.adapter.live then "live-startup-owner-resume-required"
      else "testnet-startup-owner-resume-required"))
  .perform .save
  if cfg.adapter.live then
    certifyLive cfg

/-- `start`, with the user stream. -/
def startAdapter (cfg : Config) : Working Unit := do
  let active ← own (call .activePair)
  let rules ← own (rulesOf cfg.adapter active)
  let s ← own theStore
  own (requireModeCapabilities rules s.data.protectionMode true)
  own (registerPair active.symbol active)
  .perform .save
  own (setMemory ({ · with enabled := false }))
  own (SpotSidecar.setEntries false "startup-reconciliation-required")
  .perform .save
  ask .startStream
  let result ← reconcile cfg
  .ensure result.ok (.of .runtime "reconciliation incomplete; entries remain paused")
  locked (setMemory ({ · with started := true }))

/-- `main` up to its loop. -/
def startup (cfg : Config) : Working Unit := do
  let active ← ask .bootstrap
  own (registerPair active.symbol (pairOf active.pair))
  .perform .save
  liveInterlock cfg
  if cfg.adapter.live then
    own (SpotSidecar.setData ({ · with liveRestartRequired := false }))
    .perform .save
  startAdapter cfg
  let _ ← disarm "startup-reconciliation-complete-owner-resume-required"

/-- `adapter.tick`, under the lock. -/
def tickHeld (cfg : Config) : Working Unit := do
  let m ← own theMemory
  match m.accountDirtySince with
  | none => pure ()
  | some since =>
    let now ← own (call .time)
    if 5 ≤ now - since then
      own (setMemory ({ · with accountDirtySince := none }))
      let _ ← reconcileHeld cfg
  own (tickRows cfg.adapter)

/-- The part of an iteration that manages the position. -/
def manage (cfg : Config) : Working Unit := do
  let result ← Prog.attempt do
    gap .anywhere
    tickHeld cfg
    let d ← theData
    if d.autoProtectionEnabled = some true then
      let flow ← ask .moneyFlow
      let _ ← maybeAutoManage cfg flow
  match result with
  | .ok () => pure ()
  | .error _ =>
    let _ ← disarm "adapter-tick-failed"

/-- The part of an iteration that looks after the proof of the active pair. -/
def watch : Working Unit := do
  let _ ← ask .load
  let ready ← freqtradePairReady
  let s ← locked theStore
  if s.data.entriesEnabled && !ready then
    let _ ← (disarm "freqtrade-pair-proof-lost").attempt

/-- The main loop's handling of one command file. -/
def commandTask (cfg : Config) (file : CommandFile) : Doing Unit := do
  let result ← (processCommand cfg file).attempt
  match result with
  | .ok () => pure ()
  | .error _ =>
    let _ ← disarm "command-processing-failure"

/-- The main loop's handling of one signal file. -/
def signalTask (cfg : Config) (file : SignalFile) : Doing Unit := do
  let result ← (processSignal cfg file).attempt
  match result with
  | .ok _ => pure ()
  | .error _ =>
    let _ ← disarm "signal-processing-failure"
    let _ ← (locked (call (.setGlobalPause "signal-processing-failure-reconcile-required"))).attempt

/-- What the process does: its start, and the parts of the iterations of its loop. -/
inductive Task where
  | startup
  | enforceLease (verifySignature : Bool)
  | command (file : CommandFile)
  | signal (file : SignalFile)
  | manage
  | watch
  | prune (results : List String)
  deriving DecidableEq, Repr

def Task.program (cfg : Config) : Task → Doing Unit
  | .startup => Supervisor.startup cfg
  | .enforceLease verifySignature => do
    let _ ← enforceLiveEvidenceLease cfg verifySignature
  | .command file => commandTask cfg file
  | .signal file => signalTask cfg file
  | .manage => Supervisor.manage cfg
  | .watch => Supervisor.watch
  | .prune results => .perform (.removeResults results)

/-- A task with the number of acts after which the process dies, if it gets so far. -/
structure Step where
  task : Task
  budget : ℕ
  deriving DecidableEq, Repr

variable {σ : Type}

/-- The world in which a task begins: a start begins a new process. -/
def World.begin (cfg : Config) (w : World σ) : Task → World σ
  | .startup => { w.restart.note .started with tradeSizeQuote := cfg.adapter.tradeSizeQuote }
  | _ => w

/-- A task that ends leaves a running process; a failure that nobody handles ends it. -/
def World.conclude (o : Outcome Exc Unit) (w : World σ) : World σ :=
  match o with
  | .done () => { w with running := true }
  | _ => w.restart

/-- A process that does not run can only be started. -/
def step (cfg : Config) (env : Env σ) (w : World σ) (s : Step) : World σ :=
  if s.task = .startup ∨ w.running then
    let r := (s.task.program cfg).run (Deed.exec env) s.budget (w.begin cfg s.task)
    r.2.conclude r.1
  else w

/-- The sidecar after a list of steps, from an empty store. -/
def runSteps (cfg : Config) (env : Env σ) (e : σ) (steps : List Step) : World σ :=
  steps.foldl (step cfg env) { adapter := { env := e } }

end SpotSidecar.Supervisor
