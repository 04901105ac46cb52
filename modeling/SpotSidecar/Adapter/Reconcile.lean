import SpotSidecar.Adapter.Convert

/-! Reconciliation with the exchange and the emergency exit. -/
namespace SpotSidecar
open Interaction

/-- `_refresh_durable_exchange_state`: the three orders it asks for. -/
def refreshQueries (row : TradeRow) : List (Option ℤ × ClientId) :=
  [(knownId row.entryOrderId, row.entryClientOrderId.getD ""), (knownId row.takeProfitOrderId, ""),
    (knownId row.stopOrderId, "")].filter fun q => q.1.isSome || q.2 ≠ ""

/-- One order GET of the refresh. -/
def refreshOrder (row : TradeRow) (query : Option ℤ × ClientId) : Folding Unit := do
  let reply ← getOrder row.pair.symbol query.1 query.2
  match reply with
  | none => .raise (.of .runtime "order GET returned no orderId")
  | some response =>
    .ensure response.orderId.truthy (.of .runtime "order GET returned no orderId")
    match query.1 with
    | some id =>
      let found ← Prog.ofExcept response.orderId.required
      .ensure (found = id) (.of .runtime "order GET identity mismatch")
    | none => pure ()
    .ensure (response.symbol.getD row.pair.symbol = row.pair.symbol)
      (.of .runtime "order GET symbol mismatch")
    let _ ← recordRestEvent response.toReport (.ofOption row.orderListId)

/-- The event that the refresh makes of an order-list GET. -/
def listEvent (symbol : Symbol) (listId : ℤ) (listing : Response) : Event where
  eventType := .listStatus
  symbol := some symbol
  orderListId := .int listId
  listStatusType := listing.listStatusType
  listOrderStatus := listing.listOrderStatus
  eventTime := some (listing.transactionTime.getD listing.updateTime)
  rawEventId := some (.restList listId listing.listStatusType listing.listOrderStatus)

/-- The order-list GET of the refresh. -/
def refreshList (row : TradeRow) (listId : ℤ) : Folding Unit := do
  let reply ← getOrderList (some listId) ""
  let listing ← asObject reply
  let found ← Prog.ofExcept listing.orderListId.toInt
  .ensure (found = listId) (.of .runtime "order-list GET identity mismatch")
  let _ ← Prog.perform (.recordExchangeEvent (listEvent row.pair.symbol listId listing))
  let _ ← Prog.each (recordRestEvent · (.int listId)) listing.orderReports

/-- The refresh of one trade. -/
def refreshTrade (original : TradeRow) : Folding Unit := do
  let _ ← Prog.each (fun q => (refreshOrder original q).attempt) (refreshQueries original)
  match knownId original.orderListId with
  | some listId =>
    let _ ← (refreshList original listId).attempt
  | none => pure ()
  replayTrade original.tradeId
  let s ← theStore
  if (s.trade original.tradeId).any (·.lifecycle = .entryPartiallyFilled) then
    setMemory fun m => { m with partialRecovery := m.partialRecovery.insert original.pair.symbol }
    pause "partial-entry-fill-needs-protection"

/-- `_refresh_durable_exchange_state` -/
def refreshDurableExchangeState : Folding Unit := do
  let s ← theStore
  let _ ← Prog.each refreshTrade s.activeTradeRows

/-- The larger of the two quantities that a row records as bought or protected. -/
def TradeRow.recorded (row : TradeRow) : ℚ :=
  max (row.filledQuantity.getD 0) (row.protectedQuantity.getD 0)

/-- `_reconcile_confirmed_emergency_exits` for the last confirmed exit of a trade. -/
def reconcileExit (cfg : Config) (row : TradeRow) (intent : Intent) (orderId : ℤ) :
    Acting Bool := do
  let requested := intent.request.quantity.getD 0
  let rules ← rulesOf cfg row.pair
  let reply ← getOrder intent.symbol (some orderId) ""
  let order ← asObject reply
  let found ← Prog.ofExcept order.orderId.toInt
  .ensure (found = orderId) (.of .runtime "emergency order identity mismatch")
  .ensure (order.symbol.getD "" = intent.symbol) (.of .runtime "emergency order symbol mismatch")
  .ensure (order.side = .sell) (.of .runtime "emergency order side mismatch")
  let executed ← Prog.ofExcept order.executedQty.decimalOrZero
  match executed with
  | none => .raise (.of .runtime "emergency quantities are not finite positive values")
  | some executed =>
    .ensure (0 < requested ∧ 0 < row.recorded ∧ 0 < executed)
      (.of .runtime "emergency quantities are not finite positive values")
    .ensure (intent.request.newClientOrderId = some order.clientOrderId)
      (.of .runtime "emergency client order identity mismatch")
    let origQty ← Prog.ofExcept (if order.status = .filled ∧ executed = requested then
      order.origQty.decimalOrZero else .ok none)
    if requested = floorStep row.recorded rules.step ∧ origQty = some requested then
      let _ ← recordRestEvent order.toReport .null
      upsert row.tradeId row.pair
        { lifecycle := some .exitFilled
          reconciliationStatus := some "EMERGENCY_EXIT_RECONCILED" }
      return true
    else return false

/-- `_reconcile_confirmed_emergency_exits` for one trade; no answer where it has no such exit. -/
def reconcileExits (cfg : Config) (row : TradeRow) : Acting (Option Bool) := do
  let s ← theStore
  let exits := (s.intentsForTrade row.tradeId).filter fun i =>
    i.operation = .emergencyExit && i.state = .confirmed
  match exits.getLast? with
  | none => return none
  | some intent =>
    let orderId ← Prog.ofExcept intent.exchangeOrderId.toInt
    if orderId ≤ 0 then return some false
    else
      let result ← (reconcileExit cfg row intent orderId).attempt
      match result with
      | .ok ok => return some ok
      | .error _ => return some false

/-- `_reconcile_confirmed_emergency_exits`: whether every such exit is proven complete. -/
def reconcileConfirmedEmergencyExits (cfg : Config) : Acting Bool := do
  let s ← theStore
  let results ← Prog.each (reconcileExits cfg) s.activeTradeRows
  return results.all (·.getD true)

/-- The ids that the nonterminal rows record. -/
def knownOrderIds (rows : List TradeRow) : List ℤ := rows.flatMap Store.replayOrderIds

def knownListIds (rows : List TradeRow) : List ℤ :=
  rows.filterMap fun row => knownId row.orderListId

/-- Every enumerated order and list is recorded by a nonterminal row. -/
def enumerationOwned (rows : List TradeRow) (orders lists : List (Option Ident)) :
    Except String Unit := do
  let ids := (orders.filterMap id).mapM Ident.required
  let listIds := (lists.filterMap id).mapM Ident.required
  match ids, listIds with
  | .ok ids, .ok listIds =>
    if ids.dedup.length ≠ orders.length then
      .error "exchange open-order identity is incomplete"
    else if listIds.dedup.length ≠ lists.length then
      .error "exchange open-list identity is incomplete"
    else if ids.all (· ∈ knownOrderIds rows) && listIds.all (· ∈ knownListIds rows) then .ok ()
    else .error "unowned exchange order or order list exists"
  | _, _ => .error "exchange order identity is malformed"

/-- The lifecycles for which `_reconciled_ownership` demands open protection. -/
def Lifecycle.protectionState : Lifecycle → Bool
  | .entryFilled | .protectionActive | .breakEvenArmed | .profitLocked | .trailingActive => true
  | _ => false

/-- The part of `_reconciled_ownership` that judges the one nonterminal trade. -/
def ownedTrade (row : TradeRow) (orders lists : List (Option Ident)) (total step : ℚ) :
    Except Exc (Except String Unit) := do
  let filled := row.filledQuantity.getD 0
  let kept := row.protectedQuantity.getD 0
  let rounded := floorStep total step
  if filled < 0 ∨ kept < 0 then throw (.of .value "invalid recorded BTC quantity")
  else if floorStep row.recorded step < rounded ∨ rounded < floorStep kept step then
    return .error "BTC balance is outside the durable bot-owned quantity"
  else if row.lifecycle = .entryPartiallyFilled then
    return .error "partially-filled entry BTC is not yet verified protected"
  else if row.lifecycle = .entrySubmitted ∧ 0 < rounded then
    return .error "submitted entry has BTC exposure but no verified protection"
  else if row.lifecycle.protectionState then
    let isOpen ← durableProtectionIsOpen row orders lists
    return if isOpen then .ok () else .error "durable exchange protection is not open"
  else return .ok ()

/-- The exceptions that `_reconciled_ownership` turns into a reason. -/
def Exc.malformedOwnership (e : Exc) : Bool :=
  e.kind = .arithmetic || e.kind = .type || e.kind = .value

/-- `_reconciled_ownership` once every open order is known to be owned. -/
def judgeBalance (cfg : Config) (active : Pair) (rows : List TradeRow)
    (orders lists : List (Option Ident)) (balances : Balances) :
    Asking (Except String Unit) := do
  let total := totalOf balances "BTC"
  .ensure (0 ≤ total) (.of .value "invalid BTC total")
  let rules ← rulesOf cfg active
  match rows with
  | [] =>
    return if 0 < floorStep total rules.step then .error "unowned BTC balance exists" else .ok ()
  | row :: _ => Prog.ofExcept (ownedTrade row orders lists total rules.step)

/-- `_reconciled_ownership` -/
def reconciledOwnership (cfg : Config) (orders lists : List (Option Ident)) (balances : Balances) :
    Asking (Except String Unit) := do
  let s ← theStore
  let rows := s.activeTradeRows
  if 1 < rows.length then return .error "multiple nonterminal BTC trade records"
  else
    let active ← call .activePair
    if rows.any (·.pair ≠ active) then return .error "nonterminal trade belongs to another pair"
    else match enumerationOwned rows orders lists with
      | .error reason => return .error reason
      | .ok () =>
        (judgeBalance cfg active rows orders lists balances).handle fun e =>
          if e.malformedOwnership then
            pure (.error ("BTC ownership state is malformed: " ++ cfg.redact e.text))
          else .raise e

/-- Whether an entry is past its window; a missing time counts as past. -/
def entryIsStale (cfg : Config) (row : TradeRow) : Asking Bool :=
  match row.entrySubmittedAt with
  | none => pure true
  | some submitted => do
    let now ← call .time
    return decide (cfg.maxEntryOpenSeconds < now - submitted)

/-- The stale-entry control of `verified_reconcile` for one row. -/
def controlStaleEntry (cfg : Config) (row : TradeRow) : Acting Bool := do
  let result ← Prog.attempt do
    let stale ← entryIsStale cfg row
    if stale then expireStaleEntry cfg row
    else return (true, "entry remains within its bounded open window")
  match result with
  | .ok (ok, _) => return ok
  | .error _ => return false

/-- The partial-fill recovery of one symbol. -/
def recoverPartial (cfg : Config) (symbol : Symbol) : Acting Bool := do
  let result ← (placePartialProtection cfg symbol).attempt
  match result with
  | .ok (true, _) =>
    setMemory fun m => { m with partialRecovery := m.partialRecovery.erase symbol }
    return true
  | _ => return false

/-- What `verified_reconcile` reports of its endpoints. -/
structure Reconciliation where
  intentResolution : Bool
  emergencyExitRecovery : Bool
  staleEntryControl : Bool
  partialFillRecovery : Bool
  openOrders : Bool
  openOrderList : Bool
  account : Bool
  intents : Bool
  ownership : Except String Unit

def Reconciliation.ok (r : Reconciliation) : Bool :=
  r.intentResolution && r.emergencyExitRecovery && r.staleEntryControl && r.partialFillRecovery &&
    r.openOrders && r.openOrderList && r.account && r.intents && r.ownership.isOk

/-- An enumeration that must be a list, or nothing where it fails. -/
def enumerate (c : Call (Option (List (Option Ident)))) :
    Asking (Option (List (Option Ident))) := do
  let answer ← (call c).attempt
  match answer with
  | .ok items => return items
  | .error _ => return none

def enumerateBalances : Asking (Option Balances) := do
  let answer ← accountBalances.attempt
  match answer with
  | .ok balances => return some balances
  | .error _ => return none

/-- The ownership endpoint of `verified_reconcile`. -/
def ownershipEndpoint (cfg : Config) (orders lists : Option (List (Option Ident)))
    (balances : Option Balances) : Asking (Except String Unit) :=
  match orders, lists, balances with
  | some orders, some lists, some balances => reconciledOwnership cfg orders lists balances
  | _, _, _ => pure (.error "authenticated ownership enumeration is incomplete")

/-- The end of `verified_reconcile`: the verdict is made durable. -/
def recordVerdict (r : Reconciliation) : Asking Unit := do
  let now ← call .time
  setData fun d => { d with
    lastReconciliationStatus := if r.ok then "RECONCILED" else "RECONCILIATION_FAILED"
    lastReconciliationAt := some now }
  if !r.ok then
    pause "reconciliation-failed"

/-- `verified_reconcile` after every recovery: enumerate the account and judge it. -/
def judgeAccount (cfg : Config) (resolved emergency stale partials : Bool) :
    Asking Reconciliation := do
  let orders ← enumerate (.openOrders none)
  let lists ← enumerate .openOrderLists
  let balances ← enumerateBalances
  let s ← theStore
  let ownership ← ownershipEndpoint cfg orders lists balances
  let result : Reconciliation :=
    { intentResolution := resolved
      emergencyExitRecovery := emergency
      staleEntryControl := stale
      partialFillRecovery := partials
      openOrders := orders.isSome
      openOrderList := lists.isSome
      account := balances.isSome
      intents := s.unresolvedIntents.isEmpty
      ownership := ownership }
  recordVerdict result
  return result

/-- `verified_reconcile` -/
def verifiedReconcile (cfg : Config) : Acting Reconciliation := do
  let resolution ← resolveOperationIntents cfg
  refreshDurableExchangeState
  let emergency ← reconcileConfirmedEmergencyExits cfg
  let s ← theStore
  let stale ← Prog.each (controlStaleEntry cfg)
    (s.activeTradeRows.filter (·.lifecycle = .entrySubmitted))
  let m ← theMemory
  let partials ← Prog.each (recoverPartial cfg) (m.partialRecovery.insertionSort (· ≤ ·))
  judgeAccount cfg (resolution.remaining = 0) emergency (stale.all id) (partials.all id)

end SpotSidecar
