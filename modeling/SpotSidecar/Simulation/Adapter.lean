import SpotSidecar.Supervisor.Signals
import SpotSidecar.Collections.Dict
import SpotSidecar.Text.Hex

/-! The simulated adapter and what the supervisor does around it: a process with its memory over
the durable state, which signals, owner commands, injected faults and restarts act on. -/
namespace SpotSidecar.Simulation
open Interaction

/-- A word of the fault queue; any other word fills the entry. -/
inductive Fault where
  | none
  | timeout
  | reject
  | partialFill
  | other (text : String)
  deriving DecidableEq, Repr

/-- A value of `sim_positions`. -/
structure Position where
  qty : ℚ
  entryPrice : ℚ
  orderListId : ℤ
  entryOrderId : ℤ
  stopOrderId : ℤ
  isPartial : Bool
  pair : Pair
  deriving DecidableEq, Repr

/-- What the adapter keeps only while its process lives. -/
structure Memory where
  running : Bool := false
  enabled : Bool := false
  counter : ℕ := 0
  positions : Dict Symbol Position := ∅

/-- An entry that was placed: its trade and the store just before its intent was written. -/
structure Placement where
  tradeId : TradeId
  store : Store

/-- Nothing runs where `process` is `none`. `failures` is what the next acts of the current turn
fail with, `now` its clock, and `placed` a record about the run that no act reads. -/
structure World where
  store : Store := {}
  signals : Dict TradeId String := ∅
  faults : List Fault := []
  process : Option Memory := none
  now : ℚ := 0
  failures : List (Option Exc) := []
  placed : List Placement := []

inductive Act : Type → Type 1 where
  | memory : Act Memory
  | setMemory (m : Memory) : Act Unit
  | time : Act ℚ
  | store : Act Store
  | setData (d : SidecarData) : Act Unit
  | save : Act Unit
  | nextFault : Act Fault
  | prepareIntent (d : IntentDraft) : Act Bool
  | markIntentSubmitting (id : IntentId) : Act Unit
  | finishIntent (id : IntentId) (state : IntentState) (orderId listId : Ident)
      (error : Option String) : Act Unit
  | upsertTrade (id : TradeId) (pair : Pair) (f : TradeFields) : Act Unit
  | recordExchangeEvent (e : Event) : Act Bool
  | onExchangeEvent (e : Event) : Act Unit
  | signalResult (id : TradeId) : Act (Option String)
  | claimSignal (id : TradeId) : Act Bool
  | recordSignal (id : TradeId) (result : String) : Act Unit
  | recordGuard (id : TradeId) (result : String) : Act Unit

/-- What an act does where it does not fail. -/
def Act.answer : (γ : Type) → Act γ → World → Except Exc γ × World
  | _, .memory, w =>
    match w.process with
    | some m => (.ok m, w)
    | none => (.error { kind := .runtime, text := "no process" }, w)
  | _, .setMemory m, w => (.ok (), { w with process := some m })
  | _, .time, w => (.ok w.now, w)
  | _, .store, w => (.ok w.store, w)
  | _, .setData d, w => (.ok (), { w with store := { w.store with data := d } })
  | _, .save, w => (.ok (), w)
  | _, .nextFault, w =>
    match w.faults with
    | [] => (.ok .none, w)
    | fault :: plan => (.ok fault, { w with faults := plan })
  | _, .prepareIntent d, w =>
    match w.store.prepareIntent d with
    | .ok (b, s) =>
      (.ok b,
        { w with store := s, placed := if b then ⟨d.tradeId, w.store⟩ :: w.placed else w.placed })
    | .error e => (.error e, w)
  | _, .markIntentSubmitting id, w =>
    match w.store.markIntentSubmitting id with
    | .ok s => (.ok (), { w with store := s })
    | .error e => (.error e, w)
  | _, .finishIntent id state orderId listId error, w =>
    match w.store.finishIntent id state orderId listId error with
    | .ok s => (.ok (), { w with store := s })
    | .error e => (.error e, w)
  | _, .upsertTrade id pair f, w => (.ok (), { w with store := w.store.upsertTrade id pair f })
  | _, .recordExchangeEvent e, w =>
    let r := w.store.recordExchangeEvent e
    (.ok r.1, { w with store := r.2 })
  | _, .onExchangeEvent _, w => (.ok (), w)
  | _, .signalResult id, w => (.ok (w.signals.lookup id), w)
  | _, .claimSignal id, w =>
    if (w.signals.lookup id).isNone then
      (.ok true, { w with signals := w.signals.insert id "IN_PROGRESS" })
    else (.ok false, w)
  | _, .recordSignal id result, w => (.ok (), { w with signals := w.signals.insert id result })
  | _, .recordGuard _ _, w => (.ok (), w)

/-- One failure less to come. -/
def World.spend (w : World) : World := { w with failures := w.failures.tail }

/-- The files, the database and the risk guard may fail at every act, which then does nothing. -/
def Act.exec (γ : Type) (op : Act γ) (w : World) : Except Exc γ × World :=
  match w.failures.head?.join with
  | some e => (.error e, w.spend)
  | none => op.answer γ w.spend

abbrev Sim := Prog Exc Act

/-- The digest of the text of an entry intent, cut to 32 digits. -/
abbrev Digest := TradeId → Symbol → IntentId

def theStore : Sim Store := .perform .store

def theMemory : Sim Memory := .perform .memory

def setMemory (f : Memory → Memory) : Sim Unit := do
  let m ← theMemory
  .perform (.setMemory (f m))

def upsert (id : TradeId) (pair : Pair) (f : TradeFields) : Sim Unit :=
  .perform (.upsertTrade id pair f)

def finish (id : IntentId) (state : IntentState) (orderId listId : Ident) (error : Option String) :
    Sim Unit :=
  .perform (.finishIntent id state orderId listId error)

/-- `int(time.time() * 1000)` -/
def milliseconds : Sim ℤ := do
  let now ← .perform .time
  return ⌊now * 1000⌋

/-- `_emit` -/
def emit (e : Event) : Sim Unit := do
  let isNew ← .perform (.recordExchangeEvent e)
  if isNew then .perform (.onExchangeEvent e)

/-- `StateStore.set_entries` -/
def setEntries (value : Bool) (reason : String) : Sim Unit := do
  let s ← theStore
  .perform (.setData (s.setEntries value reason).data)
  .perform .save

/-- `set_enabled` -/
def setEnabled (on : Bool) : Sim Unit := setMemory ({ · with enabled := on })

/-- `_intent`, the part before it is known whether the intent is new -/
def entryDraft (digest : Digest) (tradeId : TradeId) (symbol : Symbol) : IntentDraft where
  intentId := digest tradeId symbol
  operation := .entry
  tradeId := tradeId
  symbol := symbol
  endpoint := .orderListOtoco
  request := { symbol := symbol }
  requestSha256 := 0
  listClientOrderId :=
    some ("SIM-" ++ String.ofList ((Hex.digits Hex.lower 32 (digest tradeId symbol)).take 20))

/-- `_intent` -/
def intent (digest : Digest) (tradeId : TradeId) (symbol : Symbol) : Sim IntentId := do
  let isNew ← .perform (.prepareIntent (entryDraft digest tradeId symbol))
  if isNew then return digest tradeId symbol
  else .raise { kind := .runtime, text := "duplicate simulation operation intent" }

/-- What one entry is made of: its number, its symbol and its time in milliseconds. -/
structure Entry where
  n : ℕ
  symbol : Symbol
  ts : ℤ
  deriving DecidableEq, Repr

namespace Entry

def entryOrderId (x : Entry) : ℤ := 100000 + x.n * 10

def listId (x : Entry) : ℤ := 500000 + x.n

def protectionOrderId (x : Entry) : ℤ := x.entryOrderId + 2

/-- `dict(common, I=n * 100 + k, X=status, z=.., Z=.., E=ts + at)` -/
def report (x : Entry) (k : ℕ) (status : OrderStatus) (filled quote : ℚ) (later : ℤ) : Event where
  eventType := .executionReport
  symbol := some x.symbol
  orderId := .int x.entryOrderId
  side := .buy
  orderType := .limit
  originalQty := .num 1
  rawEventId := some (.number (x.n * 100 + k))
  status := status
  cumulative := .num filled
  quote := .num quote
  eventTime := some (x.ts + later)

def listStarted (x : Entry) : Event where
  eventType := .listStatus
  eventTime := some (x.ts + 3)
  symbol := some x.symbol
  orderListId := .int x.listId
  listStatusType := .execStarted
  listOrderStatus := .executing
  listClientOrderId := "sim-list-" ++ toString x.n

def protection (x : Entry) (filled : ℚ) : Event where
  eventType := .executionReport
  rawEventId := some (.number (x.n * 100 + 5))
  symbol := some x.symbol
  orderId := .int x.protectionOrderId
  orderListId := .int x.listId
  side := .sell
  orderType := .stopLossLimit
  status := .new
  originalQty := .num filled
  cumulative := .num 0
  eventTime := some (x.ts + 4)

/-- What `sim_positions` keeps of the entry. -/
def position (x : Entry) (pair : Pair) (isPartial : Bool) (filled : ℚ) : Position where
  qty := filled
  entryPrice := 100
  orderListId := x.listId
  entryOrderId := x.entryOrderId
  stopOrderId := x.protectionOrderId
  isPartial := isPartial
  pair := pair

end Entry

/-- `submit`: the entry was rejected. -/
def rejectEntry (x : Entry) (id : IntentId) : Sim Verdict := do
  emit { x.report 2 .rejected 0 0 1 with rejectReason := "INSUFFICIENT_BALANCE" }
  finish id .definiteReject .null .null (some "simulated reject")
  return (false, "SIMULATED entry definitely rejected")

/-- The events of a fill and of the protection behind it. -/
def emitFill (x : Entry) (pair : Pair) (isPartial : Bool) (filled : ℚ) : Sim Unit := do
  emit { x.report 3 (if isPartial then .partiallyFilled else .filled) filled (filled * 100) 1 with
    commissionAsset := pair.quote }
  if isPartial then emit (x.report 4 .canceled filled (filled * 100) 2)
  emit x.listStarted
  emit (x.protection filled)

/-- `submit`: the entry was filled, half of it for a partial fill, and protected. -/
def fillEntry (x : Entry) (tradeId : TradeId) (pair : Pair) (id : IntentId) (isPartial : Bool) :
    Sim Verdict := do
  let filled : ℚ := if isPartial then 1 / 2 else 1
  emitFill x pair isPartial filled
  upsert tradeId pair
    { stopOrderId := some (some x.protectionOrderId)
      protectedQuantity := some (some filled) }
  finish id .confirmed (.int x.entryOrderId) (.int x.listId) none
  setMemory fun m => { m with
    positions := m.positions.insert x.symbol (x.position pair isPartial filled) }
  return (true, "SIMULATED " ++ x.symbol ++
    (if isPartial then " partial fill protected" else " filled and protected") ++
    " (order " ++ toString x.entryOrderId ++ ", list " ++ toString x.listId ++ ")")

/-- `submit` once the intent is marked. -/
def submitFaulted (x : Entry) (tradeId : TradeId) (pair : Pair) (id : IntentId) (fault : Fault) :
    Sim Verdict := do
  if fault = .timeout then
    finish id .ambiguous .null .null (some "simulated accepted-timeout")
    upsert tradeId pair
      { lifecycle := some .ambiguous
        reconciliationStatus := some "SIMULATED_AMBIGUOUS_RECONCILE_REQUIRED" }
    return (false, "SIMULATED accepted-timeout; outcome ambiguous and no retry is allowed")
  else
    upsert tradeId pair
      { entryOrderId := some (some x.entryOrderId), orderListId := some (some x.listId) }
    emit (x.report 1 .new 0 0 0)
    if fault = .reject then rejectEntry x id
    else fillEntry x tradeId pair id (fault = .partialFill)

/-- `submit` once it is decided that an entry is placed. -/
def place (digest : Digest) (tradeId : TradeId) (symbol : Symbol) (pair : Pair) : Sim Verdict := do
  setMemory fun m => { m with counter := m.counter + 1 }
  let m ← theMemory
  let fault ← .perform .nextFault
  let ts ← milliseconds
  let id ← intent digest tradeId symbol
  .perform (.markIntentSubmitting id)
  submitFaulted ⟨m.counter, symbol, ts⟩ tradeId pair id fault

/-- `str(trade_id or self.state_store._active_trade_id(pair) or "")` -/
def tradeIdOf (s : Store) (pair : Pair) (tradeId : Option TradeId) : TradeId :=
  match tradeId.filter (· ≠ "") with
  | some id => id
  | none => ((s.activeTradeForPair pair).map (·.tradeId)).getD ""

/-- `submit`; `max_positions` is 1, which `set_max` cannot change. -/
def submit (digest : Digest) (symbol : Symbol) (tradeId : Option TradeId) : Sim Verdict := do
  let m ← theMemory
  if !m.running || !m.enabled then return (false, "simulation entries are not armed")
  else
    let s ← theStore
    let pair ← Prog.ofExcept (s.pairForSymbol symbol)
    let id := tradeIdOf s pair tradeId
    if id = "" then return (false, "no durable trade record exists for simulation entry")
    else if 1 ≤ m.positions.entries.length then
      return (false, "maximum simulated positions reached")
    else place digest id symbol pair

/-- What `emergency_exit` answers. -/
structure ExitReport where
  ok : Bool
  stage : String
  haltPersisted : Bool
  submitted : Bool := false
  executedQty : Option ℚ := none
  detail : String
  deriving DecidableEq, Repr

/-- The event of an emergency exit. -/
def Position.exitEvent (p : Position) (symbol : Symbol) (ts : ℤ) : Event where
  eventType := .executionReport
  rawEventId := some (.number ts)
  symbol := some symbol
  orderId := .int p.stopOrderId
  orderListId := .int p.orderListId
  side := .sell
  orderType := .stopLossLimit
  status := .filled
  cumulative := .num p.qty
  quote := .num (p.qty * p.entryPrice)
  eventTime := some ts

/-- `emergency_exit` -/
def emergencyExit (symbol : Symbol) : Sim ExitReport := do
  let m ← theMemory
  match m.positions.lookup symbol with
  | none =>
    return { ok := false, stage := "not-found", haltPersisted := false
             detail := "no such open position" }
  | some position =>
    setEnabled false
    let ts ← milliseconds
    emit (position.exitEvent symbol ts)
    setMemory fun m => { m with positions := m.positions.erase symbol }
    return { ok := true, stage := "verified-exit", haltPersisted := true, submitted := true
             executedQty := some position.qty
             detail := "SIMULATED emergency exit of " ++ symbol ++ " verified" }

/-- An event about the list of a position that is converted. -/
def listEvent (symbol : Symbol) (list : ℤ) (type word : ListWord) (time : ℤ) : Event where
  eventType := .listStatus
  eventTime := some time
  symbol := some symbol
  orderListId := .int list
  listStatusType := type
  listOrderStatus := word
  listClientOrderId := "sim-convert-" ++ toString list

/-- `convert`; `mode` is the text of the mode. -/
def convert (symbol : Symbol) (mode : String) : Sim Verdict := do
  let m ← theMemory
  match m.positions.lookup symbol with
  | none => return (false, "position not found")
  | some position =>
    let ts ← milliseconds
    let newList := position.orderListId + 1000
    emit (listEvent symbol position.orderListId .allDone .allDone ts)
    emit (listEvent symbol newList .execStarted .executing (ts + 1))
    setMemory fun m => { m with
      positions := m.positions.insert symbol { position with orderListId := newList } }
    return (true, "SIMULATED " ++ symbol ++ " protection changed to " ++ mode)

/-- `mirror_positions` -/
def mirrorPositions (status : String) : Sim ℕ := do
  let s ← theStore
  let now ← .perform .time
  .perform (.setData { s.data with
    lastReconciliationStatus := status
    lastReconciliationAt := some now })
  .perform .save
  let m ← theMemory
  return m.positions.entries.length

/-- The intents that `verified_reconcile` refuses. -/
def ambiguousIntents (s : Store) : List Intent :=
  s.unresolvedIntents.filter fun i => i.state = .submitting || i.state = .ambiguous

/-- `verified_reconcile`: whether it is well, and its detail -/
def verifiedReconcile : Sim Verdict := do
  let s ← theStore
  let ok := (ambiguousIntents s).isEmpty
  let mirrored ← mirrorPositions (if ok then "RECONCILED_SIMULATION" else "SIMULATION_AMBIGUOUS")
  return (ok,
    if ok then "simulation reconcile complete; " ++ toString mirrored ++ " position(s)"
    else "simulation has unresolved ambiguous intent(s)")

/-- `verify_flat_for_switch` -/
def verifyFlatForSwitch : Sim Verdict := do
  let m ← theMemory
  let s ← theStore
  if m.positions.entries ≠ [] then return (false, "simulated position is open")
  else if s.activeTradeRows ≠ [] then return (false, "durable nonterminal trade exists")
  else if s.unresolvedIntents ≠ [] then return (false, "unresolved operation intent exists")
  else return (true, "simulation state is flat")

end SpotSidecar.Simulation
