import SpotSidecar.State.Values

/-! Rows of the durable tables and the queries over them. -/
namespace SpotSidecar

inductive Lifecycle where
  | signalApproved
  | entrySubmitted
  | entryPartiallyFilled
  | entryFilled
  | protectionActive
  | breakEvenArmed
  | profitLocked
  | trailingActive
  | exitFilled
  | entryRejected
  | ambiguous
  | reconciled
  | error
  deriving DecidableEq, Repr

namespace Lifecycle

/-- The two lifecycles that `active_trade_rows` leaves out. -/
def terminal : Lifecycle → Bool
  | .exitFilled | .entryRejected => true
  | _ => false

/-- `StateStore._state_rank` -/
def stateRank : Lifecycle → ℕ
  | .signalApproved => 0
  | .entrySubmitted => 1
  | .entryPartiallyFilled => 2
  | .entryFilled => 3
  | .reconciled => 4
  | .protectionActive => 5
  | .breakEvenArmed => 6
  | .profitLocked => 7
  | .trailingActive => 8
  | .exitFilled => 9
  | .entryRejected => 9
  | .ambiguous => 10
  | .error => 10

end Lifecycle

inductive EventType where
  | executionReport
  | listStatus
  | other (text : String)
  deriving DecidableEq, Repr

/-- `event["I"]` or `event["u"]`: the stream numbers its events, the adapter names
the events it rebuilds from REST answers. -/
inductive RawEventId where
  | number (n : ℤ)
  | rest (orderId : ℤ) (status : OrderStatus) (time : ℤ) (executed : Scalar)
  | restList (listId : ℤ) (listStatusType listOrderStatus : ListWord)
  deriving DecidableEq, Repr

/-- An exchange event. Every field is the short key, or its long form where that is missing. -/
structure Event where
  eventType : EventType
  symbol : Option Symbol := none
  orderId : Ident := .absent
  orderListId : Ident := .absent
  eventTime : Option ℤ := none
  rawEventId : Option RawEventId := none
  listStatusType : ListWord := .other ""
  listOrderStatus : ListWord := .other ""
  listClientOrderId : ClientId := ""
  rejectReason : String := ""
  executionType : String := ""
  side : Side := .other ""
  status : OrderStatus := .other ""
  orderType : OrderType := .other ""
  cumulative : Scalar := .absent
  quote : Scalar := .absent
  originalQty : Scalar := .absent
  commissionAsset : Asset := ""
  commissionAmount : Scalar := .absent
  deriving DecidableEq, Repr

/-- The parts that `_event_identity` joins into the event key. -/
structure EventKey where
  eventType : EventType
  symbol : Option Symbol
  orderId : Ident
  orderListId : Ident
  rawEventId : Option RawEventId
  eventTime : Option ℤ
  listStatusType : ListWord
  listOrderStatus : ListWord
  listClientOrderId : ClientId
  rejectReason : String
  executionType : String
  status : OrderStatus
  cumulative : Scalar
  deriving DecidableEq, Repr

/-- `StateStore._event_identity` -/
def Event.key (e : Event) : EventKey where
  eventType := e.eventType
  symbol := e.symbol
  orderId := e.orderId
  orderListId := e.orderListId
  rawEventId := e.rawEventId
  eventTime := e.eventTime
  listStatusType := e.listStatusType
  listOrderStatus := e.listOrderStatus
  listClientOrderId := e.listClientOrderId
  rejectReason := e.rejectReason
  executionType := e.executionType
  status := e.status
  cumulative := e.cumulative

/-- `last_exchange_event_id`: the raw id, else the key. -/
inductive EventRef where
  | raw (r : RawEventId)
  | key (k : EventKey)
  deriving DecidableEq, Repr

/-- A row of `trade_records`. -/
structure TradeRow where
  tradeId : TradeId
  pair : Pair
  lifecycle : Lifecycle := .signalApproved
  entryClientOrderId : Option ClientId := none
  entrySubmittedAt : Option ℚ := none
  entryOrderId : Option ℤ := none
  orderListId : Option ℤ := none
  takeProfitOrderId : Option ℤ := none
  stopOrderId : Option ℤ := none
  filledQuantity : Option ℚ := none
  protectedQuantity : Option ℚ := none
  averageEntryPrice : Option ℚ := none
  protectionMode : Option ProtectionMode := none
  trailingDelta : Option ℤ := none
  commissionAsset : Option Asset := none
  lastExchangeEventId : Option EventRef := none
  lastEventTime : Option ℤ := none
  reconciliationStatus : Option String := none
  updatedAt : ℕ := 0
  deriving DecidableEq, Repr

/-- The fields of one `upsert_trade` call; a field that is not passed is `none`. -/
structure TradeFields where
  lifecycle : Option Lifecycle := none
  entryClientOrderId : Option (Option ClientId) := none
  entrySubmittedAt : Option (Option ℚ) := none
  entryOrderId : Option (Option ℤ) := none
  orderListId : Option (Option ℤ) := none
  takeProfitOrderId : Option (Option ℤ) := none
  stopOrderId : Option (Option ℤ) := none
  filledQuantity : Option (Option ℚ) := none
  protectedQuantity : Option (Option ℚ) := none
  averageEntryPrice : Option (Option ℚ) := none
  protectionMode : Option (Option ProtectionMode) := none
  trailingDelta : Option (Option ℤ) := none
  reconciliationStatus : Option String := none
  deriving DecidableEq, Repr

/-- The columns an UPDATE sets. -/
def TradeRow.set (row : TradeRow) (f : TradeFields) (now : ℕ) : TradeRow :=
  { row with
    lifecycle := f.lifecycle.getD row.lifecycle
    entryClientOrderId := f.entryClientOrderId.getD row.entryClientOrderId
    entrySubmittedAt := f.entrySubmittedAt.getD row.entrySubmittedAt
    entryOrderId := f.entryOrderId.getD row.entryOrderId
    orderListId := f.orderListId.getD row.orderListId
    takeProfitOrderId := f.takeProfitOrderId.getD row.takeProfitOrderId
    stopOrderId := f.stopOrderId.getD row.stopOrderId
    filledQuantity := f.filledQuantity.getD row.filledQuantity
    protectedQuantity := f.protectedQuantity.getD row.protectedQuantity
    averageEntryPrice := f.averageEntryPrice.getD row.averageEntryPrice
    protectionMode := f.protectionMode.getD row.protectionMode
    trailingDelta := f.trailingDelta.getD row.trailingDelta
    reconciliationStatus := f.reconciliationStatus.or row.reconciliationStatus
    updatedAt := now }

theorem TradeRow.set_tradeId (row : TradeRow) (f : TradeFields) (now : ℕ) :
    (row.set f now).tradeId = row.tradeId := rfl

/-- Truth value of a nullable integer column. -/
def truthyId : Option ℤ → Bool
  | some n => n != 0
  | none => false

/-- A nullable integer column that is not in `(None, "", 0, "0")`. -/
def knownId (id : Option ℤ) : Option ℤ := id.filter (· != 0)

inductive Operation where
  | entry
  | protection
  | partialFillProtection
  | emergencyExit
  | replaceProtection
  | cancelProtection
  | cancelPartialEntry
  | cancelStaleEntry
  deriving DecidableEq, Repr

inductive IntentState where
  | prepared
  | submitting
  | confirmed
  | definiteReject
  | ambiguous
  | aborted
  deriving DecidableEq, Repr

/-- The states that `unresolved_intents` selects. -/
def IntentState.unresolved : IntentState → Bool
  | .prepared | .submitting | .ambiguous => true
  | _ => false

/-- The states that `finish_intent` accepts. -/
def IntentState.finished : IntentState → Bool
  | .prepared | .submitting => false
  | _ => true

/-- A row of `operation_intents`. The request text is the object it decodes to, kept
with the digest of the text that was stored. -/
structure Intent where
  intentId : IntentId
  operation : Operation
  tradeId : TradeId
  symbol : Symbol
  endpoint : Endpoint
  request : Params
  requestSha256 : ℕ
  clientOrderId : Option ClientId := none
  listClientOrderId : Option ClientId := none
  parentIntentId : Option IntentId := none
  state : IntentState := .prepared
  exchangeOrderId : Ident := .null
  exchangeOrderListId : Ident := .null
  error : Option String := none
  createdAt : ℕ := 0
  updatedAt : ℕ := 0
  deriving DecidableEq, Repr

/-- A row of `exchange_events`, kept with the decoded payload. -/
structure StoredEvent where
  key : EventKey
  event : Event
  deriving DecidableEq, Repr

/-- The JSON side file of the store. -/
structure SidecarData where
  protectionMode : ProtectionMode := .ocoTrailing
  entriesEnabled : Bool := false
  pauseReason : String := "startup-safe-default"
  lastReconciliationStatus : String := "NOT_RUN"
  lastReconciliationAt : Option ℚ := none
  liveRestartRequired : Bool := false
  symbolPairs : List (Symbol × Pair) := []
  deriving DecidableEq, Repr

end SpotSidecar
