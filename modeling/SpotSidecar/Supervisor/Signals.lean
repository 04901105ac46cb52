import SpotSidecar.Interaction.Triple
import SpotSidecar.Supervisor.World

/-! The order manager: what becomes of a signal. -/
namespace SpotSidecar.Supervisor
open Interaction
open PairControl (ActiveState)

/-- What the supervisor reads from its environment. -/
structure Config where
  adapter : SpotSidecar.Config
  pairs : PairControl.PairConfig
  /-- `str.upper` -/
  upper : String → String
  maxFlowAge : ℚ := 45
  requireFlow : Bool := false
  commandMaxAge : ℚ := 120
  autoProtectionEnabled : Bool := false
  autoBreakEvenTriggerPct : ℚ := 1 / 2
  autoTightTrailBips : ℤ := 20
  protectionMode : Option ProtectionMode := some .ocoTrailing
  liveTradingEnabled : Bool := false
  autoConfirm : Bool := false
  releaseInstalled : Bool := true
  recheckSeconds : ℚ := 30
  /-- `json.dumps` of the reports, and `str` of an amount -/
  reconciliationText : Reconciliation → String
  exitText : ExitReport → String
  amountText : ℚ → String

/-- The configuration of the adapter with the trade size of the process. -/
def Config.sized (cfg : Config) (size : ℚ) : SpotSidecar.Config :=
  { cfg.adapter with tradeSizeQuote := size }

/-- A program of the adapter by the thread that holds its lock, or without need of it. -/
def own {α : Type} (m : Acting α) : Working α := m.lift fun _ => Work.adapter

def ask {γ : Type} (q : Query γ) : Working γ := .perform (.ask q)

/-- A callback of the stream; what it raises ends in the thread of the stream. -/
def deliver (p : Point) (e : StreamEvent) : Working (Except Exc Unit) :=
  (e.callback.lift fun _ => Work.callback p).attempt

/-- The callbacks that take the lock of the adapter before the main thread goes on. -/
def gap (p : Point) : Working Unit := do
  let arrived ← .perform (.arrivals p)
  let _ ← Prog.each (deliver p) arrived
  return ()

/-- A program of the adapter after whatever the stream delivers first. -/
def locked {α : Type} (m : Acting α) : Working α := do
  gap .anywhere
  own m

/-- `StateStore.set_entries`: the flags change before the save that may raise. -/
def setEntries (value : Bool) (reason : String) : Working Unit := do
  locked (SpotSidecar.setEntries value reason)
  .perform .save

def theTables : Working Tables := .perform .tables

def theData : Working SupervisorData := .perform .data

def setData (f : SupervisorData → SupervisorData) : Working Unit := do
  let d ← theData
  .perform (.setData (f d))

/-- `set_enabled(False)`, which raises nothing. -/
def setDisabled : Working Unit := locked (setMemory ({ · with enabled := false }))

/-- What `_disarm` says of the failures of its two parts. -/
def disarmErrors : Except Exc Unit → Except Exc Unit → List String
  | .ok _, .ok _ => []
  | .error e, .ok _ => ["state persistence failed: " ++ e.text]
  | .ok _, .error e => ["adapter disarm failed: " ++ e.text]
  | .error e, .error e' =>
    ["state persistence failed: " ++ e.text, "adapter disarm failed: " ++ e'.text]

/-- `_disarm` -/
def disarm (reason : String) : Working String := do
  let persisted ← (setEntries false reason).attempt
  let disabled ← setDisabled.attempt
  match disarmErrors persisted disabled with
  | [] => return "OFF"
  | errors => .raise (.of .runtime ("; ".intercalate errors))

/-- The keys that a signal must have, sorted, and whether this one has them. -/
def Signal.required (s : Signal) : List (String × Bool) :=
  [("candle_time", s.candleTime.isSome), ("entry_tag", s.entryTag.isSome),
   ("generated_at", s.generatedAt.isSome), ("pair", s.pair.isSome),
   ("pair_config_hash", s.pairConfigHash.isSome), ("pair_generation", s.pairGeneration.isSome),
   ("pair_state_hash", s.pairStateHash.isSome), ("payload", s.payload.isSome),
   ("signal_id", s.signalId.isSome), ("strategy", s.strategy.isSome),
   ("symbol", s.symbol.isSome)]

def Signal.missing (s : Signal) : List String := (s.required.filter (!·.2)).map (·.1)

/-- `[A-Za-z0-9_-]{1,128}` -/
def isToken (text : String) : Bool :=
  1 ≤ text.length && text.length ≤ 128 &&
    text.toList.all fun c => c.isAlphanum || c = '_' || c = '-'

/-- The two halves of a canonical pair. -/
def pairOf (text : String) : Pair where
  base := String.ofList (text.toList.takeWhile (· ≠ '/'))
  quote := String.ofList ((text.toList.dropWhile (· ≠ '/')).drop 1)

/-- A signal whose fields, pair, symbol and id were found well formed. -/
structure Candidate where
  signal : Signal
  id : String
  pair : String
  symbol : Symbol
  deriving DecidableEq, Repr

/-- What the checks say that ask nothing but the signal. -/
inductive Screening where
  | refused (reason detail : String) (record : Bool)
  | passed (candidate : Candidate)
  deriving DecidableEq, Repr

/-- `process_signal` up to the look at what became of the same id before. -/
def screen (cfg : Config) (sig : Signal) : Screening :=
  if sig.missing ≠ [] then
    .refused "missing_signal_fields" (",".intercalate sig.missing) true
  else
    match PairControl.canonicalPair cfg.pairs (sig.pair.getD "") with
    | .error e => .refused "invalid_pair" e.text true
    | .ok pair =>
      let symbol := cfg.upper (sig.symbol.getD "")
      if (pairOf pair).base ≠ "BTC" ∨ symbol ≠ (pairOf pair).symbol then
        .refused "btc_pair_symbol_mismatch" (pair ++ " != " ++ symbol) true
      else
        let id := sig.signalId.getD ""
        if isToken id then .passed { signal := sig, id := id, pair := pair, symbol := symbol }
        else .refused "invalid_signal_id" id false

/-- The id under which a refused signal is recorded. -/
def Signal.recordable (s : Signal) : Option String :=
  if s.pair.getD "" ≠ "" then s.signalId.filter (· ≠ "") else none

abbrev Result := Bool × String

/-- `reject` -/
def reject (sig : Option Signal) (reason : String) (record : Bool) : Doing Result := do
  match sig.bind Signal.recordable with
  | some id => if record then .perform (.recordSignal id ("rejected:" ++ reason))
  | none => pure ()
  ask (.move false)
  return (false, reason)

/-- `OrderManager._pause` -/
def pauseAll (reason : String) : Working Unit := do
  setEntries false reason
  locked (call (.setGlobalPause reason))
  let _ ← setDisabled.attempt
  return ()

/-- `_flow_gate` of a snapshot -/
def Flow.gate (cfg : Config) (active : ActiveState) (now : ℚ) : Option Flow → Bool × String
  | none => (false, "money-flow snapshot missing")
  | some flow =>
    if flow.pair ≠ some active.pair ∨ flow.pairStateHash ≠ some active.stateHash then
      (false, "money-flow snapshot belongs to another pair generation")
    else
      match flow.generatedAt with
      | none => (false, "money-flow timestamp is malformed")
      | some generated =>
        if now - generated < -30 ∨ cfg.maxFlowAge < now - generated then
          (false, "money-flow snapshot is stale")
        else if !flow.ok then (false, "money-flow service is degraded")
        else if !flow.bullish then (false, "money-flow context is not bullish")
        else (true, "fresh bullish flow")

/-- What a candidate is refused for by the pair it names. -/
def Candidate.mismatch (c : Candidate) (active : ActiveState) : Option String :=
  if c.pair ≠ active.pair ∨ c.symbol ≠ active.symbol then some "stale_or_wrong_active_pair"
  else if c.signal.pairStateHash ≠ some active.stateHash then some "pair_state_hash_mismatch"
  else if c.signal.pairGeneration ≠ some active.generation then some "pair_generation_mismatch"
  else if c.signal.pairConfigHash ≠ some active.pairConfigHash then
    some "pair_config_hash_mismatch"
  else none

/-- `process_signal`: the checks after the id was found new; the answer is why it is refused. -/
def refusal (cfg : Config) (c : Candidate) : Working (Option String) := do
  let active ← ask .load
  match c.mismatch active with
  | some reason => return some reason
  | none =>
    let t ← theTables
    let (fresh, why) ← ask (.allow c.signal active.pair active.stateHash (t.signals c.id).isSome)
    if !fresh then return some why
    else
      let flow ← ask .moneyFlow
      let now ← own (call .time)
      if cfg.requireFlow && !(Flow.gate cfg active now flow).1 then return some "flow_gate_blocked"
      else
        let s ← locked theStore
        return if s.data.entriesEnabled then none else some "entries_paused"

/-- `process_signal` after a submission that was not accepted. -/
def closeUnsubmitted (c : Candidate) : Working Unit :=
  locked (rejectUnsubmitted c.symbol (pairOf c.pair) c.id)

/-- `process_signal` once the signal is claimed. -/
def submitSignal (cfg : Config) (c : Candidate) : Doing Result := do
  locked (registerPair c.symbol (pairOf c.pair))
  (.perform .save : Working Unit)
  let s ← locked theStore
  locked (upsert c.id (pairOf c.pair)
    { lifecycle := some .signalApproved
      protectionMode := some (some s.data.protectionMode)
      reconciliationStatus := some "SIGNAL_ACCEPTED" })
  let size ← (.perform .tradeSize : Working ℚ)
  .perform (.submitting c.id)
  let (accepted, message) ← locked (submit (cfg.sized size) c.symbol c.id)
  let d ← theData
  let label := if d.simulation then "simulated:" else ""
  let result := label ++ (if accepted then "accepted" else "rejected:" ++ message)
  ask (.recordSignal c.signal result)
  .perform (.recordSignal c.id result)
  if !accepted then
    closeUnsubmitted c
  ask (.move accepted)
  return (accepted, message)

/-- `process_signal` for a signal that passed the checks of its fields. -/
def handleCandidate (cfg : Config) (c : Candidate) : Doing Result := do
  let t ← theTables
  match t.signals c.id with
  | some prior =>
    if prior = "IN_PROGRESS" then
      pauseAll "uncertain-prior-signal-submission-reconcile-required"
      reject c.signal "uncertain_prior_submission" false
    else reject c.signal "duplicate_signal_token" false
  | none =>
    if c.signal.strategy ≠ some "IctSmcStrategy" then
      reject c.signal "unexpected_strategy" true
    else
      let refused ← refusal cfg c
      match refused with
      | some reason => reject c.signal reason true
      | none =>
        let isNew ← .perform (.claimSignal c.id)
        if isNew then submitSignal cfg c
        else reject c.signal "duplicate_signal_token" false

/-- `process_signal` -/
def processSignal (cfg : Config) : SignalFile → Doing Result
  | .tooLarge => reject none "signal_file_too_large" true
  | .invalid _ => reject none "invalid_signed_envelope" false
  | .verified sig =>
    match screen cfg sig with
    | .refused reason _ record => reject sig reason record
    | .passed c => handleCandidate cfg c

/-! ### What keeps the parts of the handling keeps the whole -/

section
open Prog
variable {σ : Type} {cfg : Config} {env : Env σ} {I : World σ → Prop}
  (hreject : ∀ sig reason record, Keeps (Deed.exec env) I (reject sig reason record))
include hreject

/-- `S` holds from the claim of the signal until its submission. -/
theorem keeps_handleCandidate {S : World σ → Prop} {c : Candidate}
    (hread : Keeps (Deed.exec env) I (liftM theTables : Doing Tables))
    (hpause : ∀ reason, Keeps (Deed.exec env) I (liftM (pauseAll reason) : Doing Unit))
    (hrefusal : Keeps (Deed.exec env) I (liftM (refusal cfg c) : Doing (Option String)))
    (hclaim : Triple (Deed.exec env) I (.perform (.claimSignal c.id))
      (fun isNew w => I w ∧ (isNew = true → S w)) (fun _ => I) I)
    (hsubmit : Triple (Deed.exec env) S (submitSignal cfg c) (fun _ => I) (fun _ => I) I) :
    Keeps (Deed.exec env) I (handleCandidate cfg c) := by
  unfold handleCandidate
  refine .bind hread fun t => ?_
  split
  · split
    · exact .bind (hpause _) fun _ => hreject _ _ _
    · exact hreject _ _ _
  · split
    · exact hreject _ _ _
    · refine .bind hrefusal fun refused => ?_
      split
      · exact hreject _ _ _
      · refine Triple.bind hclaim fun isNew => ?_
        split
        · next hnew => exact hsubmit.weaken fun w hw => hw.2 hnew
        · exact (hreject _ _ _).weaken fun w hw => hw.1

theorem keeps_processSignal (file : SignalFile)
    (hcandidate : ∀ c, Keeps (Deed.exec env) I (handleCandidate cfg c)) :
    Keeps (Deed.exec env) I (processSignal cfg file) := by
  cases file with
  | tooLarge => exact hreject none "signal_file_too_large" true
  | invalid detail => exact hreject none "invalid_signed_envelope" false
  | verified sig =>
    unfold processSignal
    dsimp only
    split
    · exact hreject _ _ _
    · exact hcandidate _

end

end SpotSidecar.Supervisor
