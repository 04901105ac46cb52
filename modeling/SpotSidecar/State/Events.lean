import SpotSidecar.State.Store

/-! Folding authenticated exchange events into trade rows. -/
namespace SpotSidecar

/-- `_event_updates`: the columns one event sets. `lifecycle` is the lifecycle the event
proposes; whether the row takes it is decided in `applyEvent`. -/
structure EventUpdates where
  reconciliationStatus : String := "USER_STREAM_EVENT_APPLIED"
  commissionAsset : Option Asset := none
  filledQuantity : Option ℚ := none
  averageEntryPrice : Option ℚ := none
  protectedQuantity : Option ℚ := none
  lifecycle : Option Lifecycle := none
  deriving DecidableEq, Repr

namespace Event

/-- `executed`: the cumulative quantity, zero where it is missing or malformed. -/
def executed (e : Event) : ℚ := e.cumulative.nonneg?.getD 0

/-- `CANCELED`, `EXPIRED`, `EXPIRED_IN_MATCH` or `REJECTED` -/
def ended (e : Event) : Bool :=
  e.status = .canceled || e.status = .expired || e.status = .expiredInMatch ||
    e.status = .rejected

/-- The order types of a protective SELL. -/
def protective (e : Event) : Bool :=
  e.orderType = .stopLoss || e.orderType = .stopLossLimit || e.orderType = .takeProfit ||
    e.orderType = .takeProfitLimit || e.orderType = .limitMaker

/-- The lifecycle an execution report proposes. -/
def proposes (e : Event) : Option Lifecycle :=
  match e.side with
  | .buy =>
    if e.status = .partiallyFilled then some .entryPartiallyFilled
    else if e.status = .filled then some .entryFilled
    else if e.ended then some (if 0 < e.executed then .entryPartiallyFilled else .entryRejected)
    else none
  | .sell =>
    if (e.status = .new ∨ e.status = .partiallyFilled) ∧ e.protective then some .protectionActive
    else if e.status = .filled then some .exitFilled
    else none
  | .other _ => none

/-- The reconciliation status an execution report leaves, before its phase is looked at. -/
def numericStatus (e : Event) : String :=
  if e.cumulative.nonneg?.isNone then "MALFORMED_FILL_NUMERIC_RECONCILE_REQUIRED"
  else if e.side = .buy ∧ 0 < e.executed ∧ !e.quote.isMissing ∧ e.quote.nonneg?.isNone then
    "MALFORMED_FILL_NUMERIC_RECONCILE_REQUIRED"
  else "USER_STREAM_EVENT_APPLIED"

/-- The order quantity of a working SELL, if it is finite and positive. -/
def protectedQuantity? (e : Event) : Option ℚ :=
  match e.originalQty with
  | .num q => if 0 < q then some q else none
  | _ => none

def workingSell (e : Event) : Bool :=
  e.side = .sell && !e.originalQty.isMissing && (e.status = .new || e.status = .partiallyFilled)

def executionStatus (e : Event) : String :=
  if e.side = .buy ∧ e.status = .partiallyFilled then
    "ENTRY_PARTIAL_FILL_CANCEL_AND_PROTECT_REQUIRED"
  else if e.side = .buy ∧ e.ended then
    if 0 < e.executed then "ENTRY_TERMINAL_PARTIAL_FILL_RECONCILE_REQUIRED"
    else "ENTRY_TERMINAL_NO_FILL"
  else if e.side = .sell ∧ e.ended then "SELL_PROTECTION_TERMINAL_RECONCILE_REQUIRED"
  else if e.side ≠ .buy ∧ e.side ≠ .sell ∧ e.status = .rejected then
    "UNMATCHED_REJECTION_RECONCILE_REQUIRED"
  else if e.workingSell ∧ e.protectedQuantity?.isNone then
    "MALFORMED_PROTECTION_NUMERIC_RECONCILE_REQUIRED"
  else e.numericStatus

def listUpdateStatus (e : Event) (old : Lifecycle) : String :=
  if (e.listStatusType = .execStarted ∨ e.listStatusType = .updated) ∧
      e.listOrderStatus = .executing then "ORDER_LIST_EXECUTING_PHASE_UNPROVEN"
  else if e.listStatusType = .allDone ∨ e.listOrderStatus = .allDone then
    if old = .exitFilled then "ORDER_LIST_TERMINAL_EXIT_CONFIRMED"
    else "ORDER_LIST_TERMINAL_RECONCILE_REQUIRED"
  else if e.listStatusType = .response ∨ e.listOrderStatus = .reject then
    "ORDER_LIST_ACTION_REJECTED_RECONCILE_REQUIRED"
  else "USER_STREAM_EVENT_APPLIED"

end Event

/-- `StateStore._event_updates` -/
def eventUpdates (row : TradeRow) (e : Event) : EventUpdates :=
  let commission := if e.commissionAsset = "" then none else some e.commissionAsset
  match e.eventType with
  | .executionReport =>
    { reconciliationStatus := e.executionStatus
      commissionAsset := commission
      filledQuantity := if e.side = .buy ∧ !e.cumulative.isMissing then some e.executed else none
      averageEntryPrice :=
        if e.side = .buy ∧ 0 < e.executed ∧ !e.quote.isMissing then
          e.quote.nonneg?.map (· / e.executed)
        else none
      protectedQuantity := if e.workingSell then e.protectedQuantity? else none
      lifecycle := e.proposes }
  | .listStatus =>
    { reconciliationStatus := e.listUpdateStatus row.lifecycle, commissionAsset := commission }
  | .other _ => { commissionAsset := commission }

/-- The rank guard: a closed row keeps its lifecycle, and no other lifecycle than
RECONCILED gives way to a lower rank. -/
def Lifecycle.advance (old : Lifecycle) : Option Lifecycle → Lifecycle
  | none => old
  | some new =>
    if !old.terminal && (old = .reconciled || old.stateRank ≤ new.stateRank) then new else old

/-- `StateStore._apply_event` -/
def applyEvent (row : TradeRow) (e : Event) (key : EventKey) (now : ℕ) : TradeRow :=
  let updates := eventUpdates row e
  { row with
    lifecycle := row.lifecycle.advance updates.lifecycle
    filledQuantity := updates.filledQuantity.or row.filledQuantity
    averageEntryPrice := updates.averageEntryPrice.or row.averageEntryPrice
    protectedQuantity := updates.protectedQuantity.or row.protectedQuantity
    commissionAsset := updates.commissionAsset.or row.commissionAsset
    lastExchangeEventId := some (match e.rawEventId with
      | some r => .raw r
      | none => .key key)
    lastEventTime := some (match e.eventTime with
      | some t => if t = 0 then now else t
      | none => now)
    reconciliationStatus := some updates.reconciliationStatus
    updatedAt := now }

/-- Apply stored events in the order they were recorded. -/
def foldEvents (events : List StoredEvent) (now : ℕ) (row : TradeRow) : TradeRow :=
  events.foldl (fun row stored => applyEvent row stored.event stored.key now) row

theorem foldEvents_tradeId (events : List StoredEvent) (now : ℕ) (row : TradeRow) :
    (foldEvents events now row).tradeId = row.tradeId := by
  induction events generalizing row with
  | nil => rfl
  | cons e events ih => exact ih _

/-- An identifier that `_matching_trade_rows` makes a clause of: not `None` and not `-1`. -/
def Ident.clause : Ident → Bool
  | .int n => n != -1
  | .bad => true
  | _ => false

/-- `id = ?` on an integer column. -/
def Ident.equals (i : Ident) (column : Option ℤ) : Bool :=
  i.column.isSome && i.column = column

/-- Whether `_matching_trade_rows` selects the row. -/
def TradeRow.matchesEvent (row : TradeRow) (orderId orderListId : Ident)
    (symbol : Option Symbol) : Bool :=
  symbol = some row.pair.symbol &&
    ((orderId.clause && (orderId.equals row.entryOrderId || orderId.equals row.takeProfitOrderId ||
        orderId.equals row.stopOrderId)) ||
      (orderListId.clause && orderListId.equals row.orderListId))

namespace Store

/-- Persist one event and apply it to the rows it matches, unless its key is known. -/
def recordExchangeEvent (s : Store) (e : Event) : Bool × Store :=
  let key := e.key
  if s.events.any (·.key = key) then (false, s)
  else
    let recorded : Store := { s.tick with events := s.events ++ [⟨key, e⟩] }
    (true, recorded.mapTrades
      (fun row =>
        if row.matchesEvent e.orderId e.orderListId e.symbol then applyEvent row e key (s.clock + 1)
        else row)
      fun row => by split <;> rfl)

/-- The order ids that replay looks for. -/
def replayOrderIds (row : TradeRow) : List ℤ :=
  ([row.entryOrderId, row.takeProfitOrderId, row.stopOrderId].filterMap knownId)

/-- Whether the replay query selects a stored event for the row. -/
def replaySelects (row : TradeRow) (e : Event) : Bool :=
  e.symbol = some row.pair.symbol &&
    ((replayOrderIds row).any (fun id => e.orderId.equals (some id)) ||
      ((knownId row.orderListId).isSome && e.orderListId.equals (knownId row.orderListId)))

/-- The stored events that replay applies to the row, in the order they were recorded. -/
def replayed (s : Store) (row : TradeRow) : List StoredEvent :=
  s.events.filter fun stored => replaySelects row stored.event

/-- Apply the stored events that belong to the row. -/
def replayExchangeEventsForTrade (s : Store) (id : TradeId) : ℕ × Store :=
  match s.trade id with
  | none => (0, s)
  | some row =>
    let selected := s.replayed row
    (selected.length, s.tick.updateTrade id (foldEvents selected (s.clock + 1))
      (foldEvents_tradeId selected _))

end Store
end SpotSidecar
