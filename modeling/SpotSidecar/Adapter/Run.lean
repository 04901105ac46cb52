import SpotSidecar.Adapter.Exit

/-! The operations of the sidecar and its runs. -/
namespace SpotSidecar
open Interaction

/-- `tick` for one entry that still waits. -/
def tickEntry (cfg : Config) (row : TradeRow) : Acting Unit := do
  let result ← (expireStaleEntry cfg row).attempt
  match result with
  | .ok (true, _) => pure ()
  | _ => pause "stale-entry-cancellation-unresolved"

/-- The symbols that `tick` tries to protect. -/
def partialCandidates (m : Memory) (s : Store) : List Symbol :=
  (m.partialRecovery ++ (s.activeTradeRows.filter (·.lifecycle = .entryPartiallyFilled)).map
    (·.pair.symbol)).dedup

/-- `tick`: the reconciliation an account event has asked for. -/
def tickAccount (cfg : Config) : Acting Unit := do
  let m ← theMemory
  match m.accountDirtySince with
  | none => pure ()
  | some since =>
    let now ← call .time
    if 5 ≤ now - since then
      setMemory ({ · with accountDirtySince := none })
      let _ ← verifiedReconcile cfg

/-- `tick` -/
def tick (cfg : Config) : Acting Unit := do
  tickAccount cfg
  let s ← theStore
  let _ ← Prog.each (tickEntry cfg) (s.activeTradeRows.filter (·.lifecycle = .entrySubmitted))
  let m ← theMemory
  let s ← theStore
  let _ ← Prog.each (recoverPartial cfg) (partialCandidates m s)

def registerPair (symbol : Symbol) (pair : Pair) : Asking Unit := do
  let s ← theStore
  let registered ← Prog.ofExcept (s.registerSymbolPair symbol pair)
  .perform (.setData registered.data)

/-- `start`, less the user stream: its events arrive as commands of their own. -/
def start (cfg : Config) : Acting Unit := do
  let active ← call .activePair
  let rules ← rulesOf cfg active
  let s ← theStore
  requireModeCapabilities rules s.data.protectionMode true
  registerPair active.symbol active
  setMemory ({ · with enabled := false })
  setEntries false "startup-reconciliation-required"
  let result ← verifiedReconcile cfg
  if result.ok then
    setMemory ({ · with started := true })
  else
    .raise (.of .runtime "reconciliation incomplete; entries remain paused")

/-- `set_enabled` -/
def setEnabled (cfg : Config) (on : Bool) : Acting String := do
  if on then
    let s ← theStore
    if cfg.live && s.data.liveRestartRequired then
      return "OFF: live pair/policy changed; fresh signed evidence and restart required"
    else
      let risk ← call .globalPause
      if risk ≠ "" then return "OFF: global risk pause: " ++ risk
      else
        let result ← verifiedReconcile cfg
        if !result.ok then
          return "OFF: reconciliation failed: reconciliation incomplete; entries remain paused"
        else
          let s ← theStore
          if !s.unresolvedIntents.isEmpty then return "OFF: unresolved operation intent"
          else
            setMemory ({ · with enabled := true })
            return "ON"
  else
    setMemory ({ · with enabled := false })
    return "OFF"

/-- The order manager's write where `submit` refused before it wrote anything. -/
def rejectUnsubmitted (symbol : Symbol) (pair : Pair) (id : TradeId) : Acting Unit := do
  let s ← theStore
  let current ← Prog.ofExcept (s.activeTradeForSymbol symbol)
  if current.any (·.lifecycle = .signalApproved) then
    upsert id pair
      { lifecycle := some .entryRejected
        reconciliationStatus := some "ENTRY_NOT_SUBMITTED" }

/-- `OrderManager._pause` -/
def pauseAll (reason : String) : Asking Unit := do
  setEntries false reason
  call (.setGlobalPause reason)
  setMemory ({ · with enabled := false })

/-- `process_signal` once the signal is claimed. -/
def submitSignal (cfg : Config) (symbol : Symbol) (pair : Pair) (id : TradeId) :
    Acting Verdict := do
  registerPair symbol pair
  let s ← theStore
  upsert id pair
    { lifecycle := some .signalApproved
      protectionMode := some (some s.data.protectionMode)
      reconciliationStatus := some "SIGNAL_ACCEPTED" }
  let (accepted, message) ← submit cfg symbol id
  let result := if accepted then "accepted" else "rejected:" ++ message
  call (.recordGuard id result)
  recordSignal id result
  if !accepted then rejectUnsubmitted symbol pair id
  return (accepted, message)

/-- `process_signal` from the look at what became of the same id before, for a signal whose
fields, pair state, guard and money flow let it through. The id may be that of a trade that an
owner command opened: only `processed_signals` is asked. -/
def processSignal (cfg : Config) (symbol : Symbol) (pair : Pair) (id : TradeId) :
    Acting Verdict := do
  let prior ← signalResult id
  match prior with
  | some result =>
    if result = "IN_PROGRESS" then
      pauseAll "uncertain-prior-signal-submission-reconcile-required"
      return (false, "uncertain_prior_submission")
    else return (false, "duplicate_signal_token")
  | none =>
    let s ← theStore
    if !s.data.entriesEnabled then
      recordSignal id "rejected:entries_paused"
      return (false, "entries_paused")
    else
      let isNew ← claimSignal id
      if isNew then submitSignal cfg symbol pair id else return (false, "duplicate_signal_token")

/-- `_on_order_update`: a BUY that has stopped or paused with a fill. -/
def Event.needsProtection (e : Event) : Except Exc Bool :=
  if e.side = .buy ∧ (e.status = .partiallyFilled ∨ e.status = .canceled ∨ e.status = .expired ∨
      e.status = .rejected) then
    e.cumulative.decimalOrZero.bind fun
      | some q => .ok (0 < q)
      | none => .error (.of .arithmetic "comparison involving NaN")
  else .ok false

/-- `_on_order_update` -/
def onOrderUpdate (e : Event) : Folding Unit := do
  let result ← Prog.attempt do
    let inScope ← eventInScope e
    if inScope then
      let _ ← recordAuthenticatedEvent e
      let needed ← Prog.ofExcept e.needsProtection
      if needed then
        setMemory fun m => { m with
          partialRecovery := m.partialRecovery.insert (e.symbol.getD "") }
        pause "partial-entry-fill-needs-protection"
  match result with
  | .ok () => pure ()
  | .error _ => pause "user-stream-event-processing-failed"

/-- `_on_list_update` -/
def onListUpdate (e : Event) : Folding Unit := do
  let result ← Prog.attempt do
    let inScope ← eventInScope e
    if inScope then
      let _ ← Prog.perform (.recordExchangeEvent e)
  match result with
  | .ok () => pure ()
  | .error _ => pause "user-stream-list-processing-failed"

/-- `_on_resync` -/
def onResync : Asking Unit := do
  let now ← call .time
  setData fun d => { d with
    lastReconciliationStatus := "RECONCILIATION_REQUIRED"
    lastReconciliationAt := some now }
  pause "user-stream-reconnect-reconciliation-required"

/-- `_on_account_update` -/
def onAccountUpdate : Asking Unit := do
  let m ← theMemory
  if m.accountDirtySince.isNone then
    let now ← call .time
    setMemory ({ · with accountDirtySince := some now })

/-- What can happen to the sidecar. -/
inductive Command where
  | start
  | restart
  | setEnabled (on : Bool)
  | setEntries (on : Bool)
  | setMode (mode : ProtectionMode)
  | signal (symbol : Symbol) (pair : Pair) (id : TradeId)
  | submit (symbol : Symbol) (id : TradeId)
  | convert (symbol : Symbol) (args : ConvertArgs)
  | tick
  | emergencyExit (symbol : Symbol)
  | verifiedReconcile
  | orderUpdate (e : Event)
  | listUpdate (e : Event)
  | accountUpdate
  | resync

def drop {α : Type} (m : Acting α) : Acting Unit := do
  let _ ← m

/-- The program of a command. -/
def Command.program (cfg : Config) : Command → Acting Unit
  | .start => SpotSidecar.start cfg
  | .restart => pure ()
  | .setEnabled on => drop (SpotSidecar.setEnabled cfg on)
  | .setEntries on => SpotSidecar.setEntries on ""
  | .setMode mode => setData ({ · with protectionMode := mode })
  | .signal symbol pair id => drop (processSignal cfg symbol pair id)
  | .submit symbol id => drop (SpotSidecar.submit cfg symbol id)
  | .convert symbol args => drop (SpotSidecar.convert cfg symbol args)
  | .tick => SpotSidecar.tick cfg
  | .emergencyExit symbol => drop (SpotSidecar.emergencyExit cfg symbol)
  | .verifiedReconcile => drop (SpotSidecar.verifiedReconcile cfg)
  | .orderUpdate e => onOrderUpdate e
  | .listUpdate e => onListUpdate e
  | .accountUpdate => onAccountUpdate
  | .resync => onResync

/-- One command with the number of acts after which the process dies, if it gets so far. -/
structure Step where
  command : Command
  budget : ℕ

variable {σ : Type}

/-- A command is run until it ends or the process dies; a dead process is started anew. -/
def step (cfg : Config) (env : Env σ) (w : World σ) (s : Step) : World σ :=
  let w := w.note .began
  match s.command with
  | .restart => w.restart
  | command =>
    match (command.program cfg).run (Act.exec env) s.budget w with
    | (.crashed, w) => w.restart
    | (_, w) => w

/-- The sidecar after a list of steps, from an empty store. -/
def runSteps (cfg : Config) (env : Env σ) (e : σ) (steps : List Step) : World σ :=
  steps.foldl (step cfg env) { env := e }

end SpotSidecar
