import SpotSidecar.Adapter.Owner
import SpotSidecar.Supervisor.Signals

/-! The owner's commands and the automatic protection. -/
namespace SpotSidecar.Supervisor
open Interaction
open PairControl (ActiveState Verification)

/-- The reconciliation under the lock of the adapter, which the caller holds. -/
def reconcileHeld (cfg : Config) : Working Reconciliation := do
  .perform .reconcileBegan
  let r ← own (verifiedReconcile cfg.adapter)
  .perform (.reconciled r.ok)
  return r

/-- `verified_reconcile` -/
def reconcile (cfg : Config) : Working Reconciliation := do
  gap .anywhere
  reconcileHeld cfg

/-- `set_enabled(True)` after its reconciliation. The thread does not hold the lock. -/
def armReconciled : Working String := do
  gap .arming
  let s ← own theStore
  if !s.unresolvedIntents.isEmpty then return "OFF: unresolved operation intent"
  else
    gap .arming
    own (setMemory ({ · with enabled := true }))
    let m ← locked theMemory
    return if m.enabled then "ON" else "OFF"

/-- `set_enabled(True)` -/
def setEnabledOn (cfg : Config) : Working String := do
  let s ← locked theStore
  if cfg.adapter.live && s.data.liveRestartRequired then
    return "OFF: live pair/policy changed; fresh signed evidence and restart required"
  else
    let risk ← locked (call .globalPause)
    if risk ≠ "" then return "OFF: global risk pause: " ++ risk
    else
      let result ← reconcile cfg
      if !result.ok then
        return "OFF: reconciliation failed: reconciliation incomplete; entries remain paused"
      else armReconciled

/-- `heartbeat.get("ts")` to `heartbeat.get("pair_config_hash")` against the active pair. -/
def Heartbeat.proves (h : Heartbeat) (active : ActiveState) (now : ℚ) : Bool :=
  match h.timestamp with
  | none => false
  | some ts =>
    h.ok && (-30 ≤ now - ts && now - ts ≤ 120) && h.whitelist = some 1 &&
      h.activePairs = some 1 && h.pair = some active.pair &&
      h.pairGeneration = some active.generation && h.pairConfigHash = some active.pairConfigHash

/-- `freqtrade_pair_ready` -/
def freqtradePairReady : Working Bool := do
  let now ← own (call .time)
  let active ← ask .load
  let heartbeat ← ask .heartbeat
  return heartbeat.any (·.proves active now)

/-- `_active_symbol` -/
def activeSymbol (cfg : Config) (value : String) : Working Symbol := do
  let symbol := cfg.upper value
  let active ← ask .load
  .ensure (symbol = active.symbol) (.of .value ("symbol must be the active pair " ++ active.symbol))
  return symbol

/-- An argument that was read. -/
def argument {α : Type} (value : Option α) (error : String) : Working α :=
  match value with
  | some a => pure a
  | none => .raise (.of .value error)

/-- The answer of a command: whether it is a success, and its result. -/
abbrev Answer := Bool × String

/-- `entries` with `enabled` -/
def resumeEntries (cfg : Config) : Working Answer := do
  let _ ← ask .load
  ask .requireResumeReady
  let ready ← freqtradePairReady
  .ensure ready (.of .value "Freqtrade active-pair proof failed")
  let risk ← locked (call .globalPause)
  .ensure (risk = "") (.of .value ("risk pause must be reconciled/cleared first: " ++ risk))
  let result ← setEnabledOn cfg
  .ensure (result = "ON") (.of .runtime result)
  setEntries true ""
  let marked ← (ask .markActiveAfterResume).attempt
  match marked with
  | .ok () => return (true, result)
  | .error e =>
    let _ ← disarm "pair-switch-active-state-persistence-failed"
    .raise e

def setEntriesCommand (cfg : Config) (enabled : Option Bool) : Working Answer := do
  let on ← argument enabled "entries.enabled must be a JSON boolean"
  if on then resumeEntries cfg
  else
    let result ← disarm "operator-paused"
    return (true, result)

/-- `mode` -/
def setModeCommand (cfg : Config) (mode : Option ProtectionMode) : Working Answer := do
  .ensure (cfg.adapter.live = false) (.of .value
    ("live entry protection mode is evidence-bound; change PROTECTION_MODE, produce fresh " ++
      "signed evidence, and redeploy"))
  let mode ← argument mode "mode is not a valid ProtectionMode"
  locked (SpotSidecar.setData ({ · with protectionMode := mode }))
  .perform .save
  return (true, "mode " ++ requestModeText mode)
where
  requestModeText : ProtectionMode → String
    | .fixedOco => "FIXED_OCO"
    | .trailingOnly => "TRAILING_ONLY"
    | .ocoTrailing => "OCO_TRAILING"

/-- `adapter.set_size` -/
def setSize (cfg : Config) (value : ℚ) : Working Answer := do
  match cfg.adapter.tradeSizeBase with
  | some base =>
    return (false, "fixed base size active: " ++ cfg.amountText base ++
      " BTC; quote-size changes disabled")
  | none =>
    if value < 5 ∨ 100000 < value then return (false, "size must be 5-100000 quote units")
    else
      let size ← .perform .tradeSize
      if cfg.adapter.live ∧ value ≠ size then
        return (false, "live trade size is evidence-bound; change TRADE_SIZE_QUOTE, " ++
          "produce fresh signed evidence, and redeploy")
      else
        .perform (.setTradeSize value)
        return (true, "trade size = " ++ cfg.amountText value ++ " quote units")

def setSizeCommand (cfg : Config) (value : Option ℚ) : Working Answer := do
  let value ← argument value "could not convert to float"
  .ensure (0 < value) (.of .value "trade size must be a positive finite number")
  setSize cfg value

/-- `adapter.set_max` -/
def setMaxCommand (count : Option ℤ) : Working Answer := do
  let count ← argument count "invalid literal for int()"
  return if count = 1 then (true, "max concurrent positions = 1")
    else (false, "Bitcoin release permits exactly one position")

def reconcileCommand (cfg : Config) : Working Answer := do
  let r ← reconcile cfg
  return (r.ok, cfg.reconciliationText r)

/-- `restart_user_stream` -/
def restartStreamCommand (cfg : Config) : Working Answer := do
  setDisabled
  setEntries false "user-stream-manual-restart"
  let _ ← (locked (call (.setGlobalPause "user-stream-manual-restart"))).attempt
  ask .startStream
  let r ← reconcile cfg
  return (true, if r.ok then "all authenticated endpoints and intents verified"
    else "reconciliation incomplete; entries remain paused")

/-- `switch_pair`: the controller calls back for its flat check. -/
def switchPairCommand (cfg : Config) (pair registryHash : String) : Working Answer := do
  let _ ← disarm "pair-switch-owner-resume-required"
  match PairControl.canonicalPair cfg.pairs pair with
  | .error e => .raise (.of .value e.text)
  | .ok target =>
    locked (validatePair cfg.adapter (pairOf target))
    let symbols ← ask (.beginSwitch target registryHash)
    match symbols with
    | none => return (true, "already active")
    | some symbols =>
      let verification ← (locked (verifyFlatForSwitch cfg.adapter symbols)).attempt
      let report ← ask (.selectTarget verification)
      return (true, report)

/-- The callbacks of `complete_switch`. -/
def recheckSwitch (cfg : Config) (symbols : List Symbol) (target : Pair) :
    Working Verification := do
  let verification ← locked (verifyFlatForSwitch cfg.adapter symbols)
  if verification.ok then
    let size ← .perform .tradeSize
    locked (validatePairFunding (cfg.sized size) target)
  return verification

/-- `complete_pair_switch` -/
def completePairSwitchCommand (cfg : Config) : Working Answer := do
  let _ ← disarm "pair-switch-owner-resume-required"
  let (symbols, target) ← ask .completeSwitch
  let recheck ← (recheckSwitch cfg symbols target).attempt
  let published ← ask (.publishSwitch recheck)
  locked (registerPair published.symbol published.pair)
  .perform .save
  if cfg.adapter.live then
    locked (SpotSidecar.setData ({ · with liveRestartRequired := true }))
    .perform .save
    locked (call (.setGlobalPause "live-pair-change-requires-fresh-evidence-and-restart"))
  return (true, published.report)

/-- `verify_pair_switch` -/
def verifyPairSwitchCommand : Working Answer := do
  let ready ← freqtradePairReady
  if ready then
    let report ← ask .markPairVerified
    return (true, report)
  else return (false, "Freqtrade has not proved the active pair configuration")

/-- `manual_entry`: an entry without a signal, on the test network only. -/
def manualEntryCommand (cfg : Config) (id symbol : String) : Working Answer := do
  .ensure (cfg.adapter.live = false) (.of .value "manual entry is enabled only on TestNet")
  let symbol ← activeSymbol cfg symbol
  let size ← .perform .tradeSize
  locked (submit (cfg.sized size) symbol ("manual-" ++ id))

/-- `emergency_exit` -/
def emergencyExitCommand (cfg : Config) (symbol : String) : Working Answer := do
  let _ ← disarm "emergency-exit-owner-resume-required"
  let symbol ← activeSymbol cfg symbol
  let outcome ← locked (emergencyExit cfg.adapter symbol)
  return (outcome.ok, cfg.exitText outcome)

/-- The conversions that the owner asks for. -/
def convertCommand (cfg : Config) (symbol : String) (args : Working ConvertArgs) :
    Working Answer := do
  let _ ← disarm "protection-conversion-owner-resume-required"
  let symbol ← activeSymbol cfg symbol
  let args ← args
  locked (convert cfg.adapter symbol args)

/-- `lock_profit` -/
def lockProfitCommand (cfg : Config) (symbol : String) (pct : Option ℚ) : Working Answer := do
  let pct ← argument pct "could not convert to float"
  .ensure (0 < pct ∧ pct ≤ 100) (.of .value "profit percentage must be within (0,100]")
  convertCommand cfg symbol (pure { mode := .fixedOco, lockProfitPct := some pct })

/-- `tight_trailing` -/
def tightTrailingCommand (cfg : Config) (symbol : String) (delta : Option ℤ) : Working Answer := do
  let delta ← argument delta "invalid literal for int()"
  convertCommand cfg symbol (pure { mode := .trailingOnly, trailingDeltaBips := some delta })

/-- `auto_protection` -/
def autoProtectionCommand (cfg : Config) (enabled : Option Bool) : Working Answer := do
  let enabled ← argument enabled "auto_protection.enabled must be a JSON boolean"
  .ensure (cfg.adapter.live = false) (.of .value
    ("live automatic protection policy is evidence-bound; change the private environment, " ++
      "produce fresh signed evidence, and redeploy"))
  setData ({ · with autoProtectionEnabled := some enabled })
  .perform .save
  return (true, if enabled then "automatic protection enabled" else "automatic protection disabled")

/-- The action of a command. -/
def dispatch (cfg : Config) (id : String) : OwnerCommand → Working Answer
  | .entries enabled => setEntriesCommand cfg enabled
  | .mode mode => setModeCommand cfg mode
  | .status => do
    let _ ← locked readStatus
    return (true, "status")
  | .balance => do
    let (base, quote) ← locked readBalance
    return (true, cfg.amountText base ++ " " ++ cfg.amountText quote)
  | .profit => return (true, "unavailable")
  | .restartStream => restartStreamCommand cfg
  | .setSize value => setSizeCommand cfg value
  | .setMax count => setMaxCommand count
  | .reconcile => reconcileCommand cfg
  | .pair => do
    let report ← ask .pairReport
    return (true, report)
  | .pairs => do
    let report ← ask .eligiblePairs
    return (true, report)
  | .switchPair pair registryHash => switchPairCommand cfg pair registryHash
  | .completePairSwitch => completePairSwitchCommand cfg
  | .verifyPairSwitch => verifyPairSwitchCommand
  | .manualEntry symbol => manualEntryCommand cfg id symbol
  | .emergencyExit symbol => emergencyExitCommand cfg symbol
  | .convert symbol mode => convertCommand cfg symbol do
    let mode ← argument mode "mode is not a valid ProtectionMode"
    return { mode }
  | .breakEven symbol => convertCommand cfg symbol (pure { mode := .fixedOco, breakEven := true })
  | .lockProfit symbol pct => lockProfitCommand cfg symbol pct
  | .tightTrailing symbol delta => tightTrailingCommand cfg symbol delta
  | .autoProtection enabled => autoProtectionCommand cfg enabled
  | .clearRiskPause => do
    ask .clearGlobalPause
    return (true, "risk pause cleared; entries remain off")
  | .unknown _ => return (false, "unknown command")

/-- `_write_command_result` -/
def writeCommandResult (cfg : Config) (c : CommandPayload) (ok : Bool) (result : String) :
    Doing Unit := do
  let payload : Payload :=
    { ok, result := cfg.adapter.redact result, commandId := c.commandId, command := c.command.name }
  .perform (.recordCommand payload)
  .perform (.writeResult payload)

/-- `process_command` for an id that is claimed already. -/
def replayCommand (c : CommandPayload) : Doing Unit := do
  let t ← theTables
  match t.commands c.commandId, t.results c.commandId with
  | some .inProgress, none =>
    .perform (.replaying c.commandId)
    .perform (.writeResult
      { ok := false, result := "prior command outcome is uncertain; reconcile before retrying"
        commandId := c.commandId, command := c.command.name })
    setEntries false "uncertain-prior-command-reconcile-required"
  | some .inProgress, some _ => .perform (.replaying c.commandId)
  | some (.finished payload), none => .perform (.writeResult payload)
  | _, _ => pure ()

/-- `process_command` for a command whose age is not within the window. -/
def expireCommand (cfg : Config) (c : CommandPayload) : Doing Unit := do
  let isNew ← .perform (.claimCommand c.commandId)
  if isNew then
    writeCommandResult cfg c false "expired or invalid command"

/-- `process_command` once the command is claimed. -/
def executeCommand (cfg : Config) (c : CommandPayload) : Doing Unit := do
  .perform (.executing c.commandId)
  let answer ← (dispatch cfg c.commandId c.command).attempt
  match answer with
  | .ok (ok, result) => writeCommandResult cfg c ok result
  | .error e => writeCommandResult cfg c false e.text

/-- Whether the age of a command is within its window. -/
def CommandPayload.timely (cfg : Config) (c : CommandPayload) (now : ℚ) : Bool :=
  c.createdAt.any fun created => -30 ≤ now - created && now - created ≤ cfg.commandMaxAge

/-- `process_command` -/
def processCommand (cfg : Config) : CommandFile → Doing Unit
  | .invalid _ => pure ()
  | .verified c =>
    if !isToken c.commandId then pure ()
    else do
      let now ← own (call .time)
      if c.timely cfg now then
        let isNew ← .perform (.claimCommand c.commandId)
        if isNew then executeCommand cfg c else replayCommand c
      else expireCommand cfg c

/-- `_auto_convert`, under the lock that `maybe_auto_manage` holds. -/
def autoConvert (cfg : Config) (symbol : Symbol) (args : ConvertArgs) : Working String := do
  let m ← own theMemory
  let s ← own theStore
  let wasEnabled := m.enabled && s.data.entriesEnabled
  let (ok, detail) ← own (convert cfg.adapter symbol args)
  if ok then
    let proof ← reconcileHeld cfg
    let s ← own theStore
    let risk ← own (call .globalPause)
    if proof.ok && wasEnabled && s.data.pauseReason = "protection-conversion-in-progress" &&
        risk = "" then
      own (SpotSidecar.setEntries true "")
      .perform .save
      own (setMemory ({ · with enabled := true }))
  return detail

/-- Why `maybe_auto_manage` leaves the position alone before it looks at the position. -/
def autoBlocked (cfg : Config) (d : SupervisorData) (m : Memory) (s : Store) : Option String :=
  if d.autoProtectionEnabled.getD cfg.autoProtectionEnabled = false then
    some "automatic protection management disabled"
  else if !s.unresolvedIntents.isEmpty then
    some "automatic protection blocked: unresolved operation intent"
  else if s.data.lastReconciliationStatus ≠ "RECONCILED" then
    some "automatic protection blocked: reconciliation required"
  else if m.accountDirtySince.isSome then
    some "automatic protection waiting for account reconciliation"
  else none

/-- Why `maybe_auto_manage` does not trust the money-flow snapshot. -/
def Flow.distrusted (cfg : Config) (active : ActiveState) (now : ℚ) : Option Flow → Option String
  | none => some "money-flow state unavailable or belongs to another pair generation"
  | some flow =>
    if flow.ok = false ∨ flow.pairStateHash ≠ some active.stateHash then
      some "money-flow state unavailable or belongs to another pair generation"
    else
      match flow.generatedAt with
      | none => some "money-flow timestamp is malformed"
      | some generated =>
        if now - generated < -30 ∨ cfg.maxFlowAge < now - generated then
          some "money-flow state is stale"
        else none

/-- `maybe_auto_manage` once the snapshot is trusted. -/
def managePosition (cfg : Config) (active : ActiveState) (bullish : Bool) : Working String := do
  let s ← own theStore
  let found ← own (Prog.ofExcept (s.activeTradeForSymbol active.symbol))
  match found with
  | none => return "no managed BTC position"
  | some row =>
    match row.averageEntryPrice with
    | none => return "no managed BTC position"
    | some entry =>
      if !row.lifecycle.convertible then
        return "automatic protection blocked: position requires reconciliation"
      else
        let ready ← ask .streamReady
        if !ready then return "automatic protection blocked: user stream is not ready"
        else
          let current ← own (currentPrice active.symbol)
          if entry ≤ 0 then return "automatic protection blocked: invalid entry price"
          else
            let action ← own (autoAction cfg.adapter (pairOf active.pair)
              cfg.autoBreakEvenTriggerPct cfg.autoTightTrailBips bullish row entry current)
            match action with
            | .keep reason => return reason
            | .trail delta =>
              autoConvert cfg active.symbol
                { mode := .trailingOnly, trailingDeltaBips := some delta }
            | .breakEven =>
              autoConvert cfg active.symbol { mode := .fixedOco, breakEven := true }

/-- `maybe_auto_manage` -/
def maybeAutoManage (cfg : Config) (flow : Option Flow) : Working String := do
  gap .anywhere
  let d ← theData
  let m ← own theMemory
  let s ← own theStore
  match autoBlocked cfg d m s with
  | some reason => return reason
  | none =>
    let active ← ask .load
    let now ← own (call .time)
    match Flow.distrusted cfg active now flow with
    | some reason => return reason
    | none => managePosition cfg active (flow.any (·.bullish))

end SpotSidecar.Supervisor
