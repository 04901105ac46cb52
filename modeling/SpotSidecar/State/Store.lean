import SpotSidecar.State.Rows
import Mathlib.Data.List.Sort

/-! The durable store: trade rows, the order-intent ledger, the event table and the side
file. Each function is one transaction; a transaction that raises leaves the store as it was. -/
namespace SpotSidecar

/-- `clock` stands for the timestamps: every write is stamped later than all before it.
The last two fields are the primary keys of the tables. -/
structure Store where
  trades : List TradeRow := []
  intents : List Intent := []
  events : List StoredEvent := []
  data : SidecarData := {}
  clock : ℕ := 0
  trades_nodup : (trades.map (·.tradeId)).Nodup := by exact List.nodup_nil
  intents_nodup : (intents.map (·.intentId)).Nodup := by exact List.nodup_nil

/-- What `prepare_intent` is given. -/
structure IntentDraft where
  intentId : IntentId
  operation : Operation
  tradeId : TradeId
  symbol : Symbol
  endpoint : Endpoint
  request : Params
  requestSha256 : ℕ
  clientOrderId : Option ClientId := none
  listClientOrderId : Option ClientId := none
  parentIntentId : Option IntentId := none
  closeParentIntentId : Option IntentId := none
  deriving DecidableEq, Repr

def IntentDraft.row (d : IntentDraft) (now : ℕ) : Intent where
  intentId := d.intentId
  operation := d.operation
  tradeId := d.tradeId
  symbol := d.symbol
  endpoint := d.endpoint
  request := d.request
  requestSha256 := d.requestSha256
  clientOrderId := d.clientOrderId
  listClientOrderId := d.listClientOrderId
  parentIntentId := d.parentIntentId
  createdAt := now
  updatedAt := now

/-- The columns set where a child intent closes its parent. -/
def Intent.closedBy (now : ℕ) (i : Intent) : Intent :=
  if i.state = .prepared then
    { i with
      state := .aborted
      error := some "resumed atomically into child intent"
      updatedAt := now }
  else i

/-- The columns set at the may-have-landed boundary. -/
def Intent.marked (now : ℕ) (i : Intent) : Intent :=
  if i.state = .prepared then { i with state := .submitting, updatedAt := now } else i

def Intent.finish (state : IntentState) (orderId listId : Ident) (error : Option String) (now : ℕ)
    (i : Intent) : Intent :=
  { i with
    state := state
    exchangeOrderId := orderId
    exchangeOrderListId := listId
    error := error
    updatedAt := now }

theorem Intent.finish_intentId (state : IntentState) (orderId listId : Ident)
    (error : Option String) (now : ℕ) (i : Intent) :
    (i.finish state orderId listId error now).intentId = i.intentId := rfl

theorem Intent.closedBy_intentId (now : ℕ) (i : Intent) :
    (i.closedBy now).intentId = i.intentId := by
  unfold closedBy
  split <;> rfl

theorem Intent.marked_intentId (now : ℕ) (i : Intent) : (i.marked now).intentId = i.intentId := by
  unfold marked
  split <;> rfl

namespace Store

def trade (s : Store) (id : TradeId) : Option TradeRow := s.trades.find? (·.tradeId = id)

def intent (s : Store) (id : IntentId) : Option Intent := s.intents.find? (·.intentId = id)

/-- Rows are listed in the order of their creation, which is the order of `created_at`. -/
def unresolvedIntents (s : Store) : List Intent := s.intents.filter (·.state.unresolved)

def intentsForTrade (s : Store) (id : TradeId) : List Intent := s.intents.filter (·.tradeId = id)

def activeTradeRows (s : Store) : List TradeRow :=
  (s.trades.filter (!·.lifecycle.terminal)).insertionSort (·.updatedAt ≤ ·.updatedAt)

/-- The nonterminal row of a pair that was updated last. -/
def activeTradeForPair (s : Store) (pair : Pair) : Option TradeRow :=
  (s.activeTradeRows.filter (·.pair = pair)).getLast?

def pairForSymbol (s : Store) (symbol : Symbol) : Except Exc Pair :=
  match s.data.symbolPairs.lookup symbol with
  | some pair => .ok pair
  | none => .error { kind := .value, text := "no authoritative pair mapping registered" }

def activeTradeForSymbol (s : Store) (symbol : Symbol) : Except Exc (Option TradeRow) :=
  (s.pairForSymbol symbol).map s.activeTradeForPair

/-- Change rows of the ledger; `h` says that no id changes. -/
def mapIntents (s : Store) (f : Intent → Intent) (h : ∀ i, (f i).intentId = i.intentId) : Store :=
  { s with
    intents := s.intents.map f
    intents_nodup := by
      rw [List.map_map, show (·.intentId) ∘ f = (·.intentId) from funext h]
      exact s.intents_nodup }

/-- Change trade rows; `h` says that no id changes. -/
def mapTrades (s : Store) (f : TradeRow → TradeRow) (h : ∀ r, (f r).tradeId = r.tradeId) : Store :=
  { s with
    trades := s.trades.map f
    trades_nodup := by
      rw [List.map_map, show (·.tradeId) ∘ f = (·.tradeId) from funext h]
      exact s.trades_nodup }

def tick (s : Store) : Store := { s with clock := s.clock + 1 }

theorem intent_eq_none {s : Store} {id : IntentId} :
    s.intent id = none ↔ id ∉ s.intents.map (·.intentId) := by
  simp [intent, List.find?_eq_none]

theorem trade_eq_none {s : Store} {id : TradeId} :
    s.trade id = none ↔ id ∉ s.trades.map (·.tradeId) := by
  simp [trade, List.find?_eq_none]

theorem tick_intent {s : Store} {d : IntentDraft} {now : ℕ} (h : s.intent d.intentId = none) :
    s.tick.intent (d.row now).intentId = none := h

theorem tick_trade {s : Store} {id : TradeId} {pair : Pair} {f : TradeFields} {now : ℕ}
    (h : s.trade id = none) :
    s.tick.trade (TradeRow.set { tradeId := id, pair := pair } f now).tradeId = none := h

def insertIntent (s : Store) (i : Intent) (h : s.intent i.intentId = none) : Store :=
  { s with
    intents := s.intents ++ [i]
    intents_nodup := by
      rw [List.map_append, List.map_singleton, List.nodup_append_comm, List.singleton_append,
        List.nodup_cons]
      exact ⟨intent_eq_none.mp h, s.intents_nodup⟩ }

def insertTrade (s : Store) (r : TradeRow) (h : s.trade r.tradeId = none) : Store :=
  { s with
    trades := s.trades ++ [r]
    trades_nodup := by
      rw [List.map_append, List.map_singleton, List.nodup_append_comm, List.singleton_append,
        List.nodup_cons]
      exact ⟨trade_eq_none.mp h, s.trades_nodup⟩ }

/-- Set the columns of the intent with this id. -/
def updateIntent (s : Store) (id : IntentId) (f : Intent → Intent)
    (h : ∀ i, (f i).intentId = i.intentId) : Store :=
  s.mapIntents (fun i => if i.intentId = id then f i else i) fun i => by
    split
    · exact h i
    · rfl

/-- Set the columns of the trade with this id. -/
def updateTrade (s : Store) (id : TradeId) (f : TradeRow → TradeRow)
    (h : ∀ r, (f r).tradeId = r.tradeId) : Store :=
  s.mapTrades (fun r => if r.tradeId = id then f r else r) fun r => by
    split
    · exact h r
    · rfl

/-- Insert a PREPARED intent unless its id exists; with a parent to close, move the parent
from PREPARED to ABORTED in the same transaction. -/
def prepareIntent (s : Store) (d : IntentDraft) : Except Exc (Bool × Store) :=
  if h : s.intent d.intentId = none then
    let inserted := s.tick.insertIntent (d.row (s.clock + 1)) (tick_intent h)
    match d.closeParentIntentId with
    | none => .ok (true, inserted)
    | some parent =>
      if inserted.intents.any fun i => i.intentId = parent && i.state = .prepared then
        .ok (true, inserted.updateIntent parent (Intent.closedBy (s.clock + 1))
          (Intent.closedBy_intentId _))
      else
        .error { kind := .runtime
                 text := "replacement parent was not uniquely PREPARED; child intent rolled back" }
  else .ok (false, s)

/-- Record the may-have-landed boundary immediately before the POST. -/
def markIntentSubmitting (s : Store) (id : IntentId) : Except Exc Store :=
  if s.intents.any fun i => i.intentId = id && i.state = .prepared then
    .ok (s.tick.updateIntent id (Intent.marked (s.clock + 1)) (Intent.marked_intentId _))
  else .error { kind := .runtime, text := "intent is not uniquely PREPARED" }

def finishIntent (s : Store) (id : IntentId) (state : IntentState) (orderId listId : Ident)
    (error : Option String) : Except Exc Store :=
  if !state.finished then .error { kind := .value, text := "unsupported terminal intent state" }
  else if s.intents.any (·.intentId = id) then
    .ok (s.tick.updateIntent id (Intent.finish state orderId listId error (s.clock + 1))
      (Intent.finish_intentId _ _ _ _ _))
  else .error { kind := .runtime, text := "unknown intent" }

/-- Insert or update a trade row. An existing row keeps its pair, and its lifecycle
unless one is passed. -/
def upsertTrade (s : Store) (id : TradeId) (pair : Pair) (f : TradeFields) : Store :=
  if h : s.trade id = none then
    s.tick.insertTrade (TradeRow.set { tradeId := id, pair := pair } f (s.clock + 1)) (tick_trade h)
  else s.tick.updateTrade id (·.set f (s.clock + 1)) (TradeRow.set_tradeId · f _)

def registerSymbolPair (s : Store) (symbol : Symbol) (pair : Pair) : Except Exc Store :=
  if symbol = "" ∨ pair.symbol ≠ symbol then
    .error { kind := .value, text := "symbol/pair mapping is inconsistent" }
  else
    .ok { s with data := { s.data with
            symbolPairs := (symbol, pair) :: s.data.symbolPairs.filter (·.1 ≠ symbol) } }

def setEntries (s : Store) (value : Bool) (reason : String) : Store :=
  { s with data := { s.data with
      entriesEnabled := value
      pauseReason := if value then "" else if reason = "" then "operator-paused" else reason } }

end Store
end SpotSidecar
