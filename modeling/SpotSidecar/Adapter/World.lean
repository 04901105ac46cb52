import SpotSidecar.Collections.Dict
import SpotSidecar.Interaction.Triple
import SpotSidecar.State.Events

/-! The world the adapter acts on: its store, its memory and the collaborators it was
constructed with. The collaborators are code outside the adapter; they answer anything. -/
namespace SpotSidecar
open Interaction

/-- What the adapter keeps only while its process lives. -/
structure Memory where
  started : Bool := false
  enabled : Bool := false
  partialRecovery : List Symbol := []
  accountDirtySince : Option ℚ := none
  deriving DecidableEq, Repr

/-- The decoded `exchangeInfo` row of a symbol. -/
structure SymbolInfo where
  symbol : Symbol
  baseAsset : Asset
  quoteAsset : Asset
  trading : Bool := true
  spotAllowed : Bool := true
  tickSize : ℚ
  stepSize : ℚ
  minQty : ℚ := 0
  maxQty : ℚ := 0
  minNotional : ℚ := 0
  maxNotional : ℚ := 0
  minTrailingBelowDelta : ℤ := 10
  maxTrailingBelowDelta : ℤ := 2000
  ocoAllowed : Bool := false
  otoAllowed : Bool := false
  allowTrailingStop : Bool := false
  deriving DecidableEq, Repr

inductive OrderKey where
  | orderId (n : ℤ)
  | clientId (c : ClientId)
  deriving DecidableEq, Repr

inductive ListKey where
  | orderListId (n : ℤ)
  | listClientId (c : ClientId)
  deriving DecidableEq, Repr

/-- Calls that change nothing at the exchange. -/
inductive Call : Type → Type 1 where
  | time : Call ℚ
  | newClientId (role : String) : Call ClientId
  | activePair : Call Pair
  | symbolInfo (symbol : Symbol) : Call SymbolInfo
  | tickerPrice (symbol : Symbol) : Call Scalar
  | orderBook (symbol : Symbol) : Call (List Scalar × List Scalar)
  | account : Call (Option (List (Asset × ℚ × ℚ)))
  | openOrders (symbol : Option Symbol) : Call (Option (List (Option Ident)))
  | openOrderLists : Call (Option (List (Option Ident)))
  | getOrder (symbol : Symbol) (key : OrderKey) : Call Reply
  | getOrderList (key : ListKey) : Call Reply
  | validateReplacement (symbol : Symbol) (endpoint : Endpoint) (params : Params)
      (replacingOrderIds : List (Option ℤ)) (replacingOrderList : Bool) : Call Unit
  | globalPause : Call String
  | setGlobalPause (reason : String) : Call Unit
  | recordGuard (id : TradeId) (result : String) : Call Unit
  | onExchangeEvent (e : Event) : Call Unit

/-- Calls that may change orders at the exchange. -/
inductive Post where
  | place (endpoint : Endpoint) (params : Params)
  | cancelOrder (symbol : Symbol) (orderId : ℤ)
  | cancelOrderList (symbol : Symbol) (orderListId : ℤ)
  deriving DecidableEq, Repr

/-- The collaborators with their state: gateway, filter validator, risk guard, pair
controller, clock and client-id source. -/
structure Env (σ : Type) where
  call : ∀ γ : Type, Call γ → σ → Except Exc γ × σ
  post : Post → σ → Except Exc Reply × σ

/-- Acts that touch neither the ledger nor the trade and event tables. -/
inductive Ask : Type → Type 1 where
  | store : Ask Store
  | memory : Ask Memory
  | setMemory (m : Memory) : Ask Unit
  | setData (d : SidecarData) : Ask Unit
  | signalResult (id : TradeId) : Ask (Option String)
  | claimSignal (id : TradeId) : Ask Bool
  | recordSignal (id : TradeId) (result : String) : Ask Unit
  | call {γ : Type} (c : Call γ) : Ask γ

/-- Acts that touch the tables only by recording exchange events. -/
inductive Fold : Type → Type 1 where
  | ask {γ : Type} (a : Ask γ) : Fold γ
  | recordExchangeEvent (e : Event) : Fold Bool
  | replayExchangeEventsForTrade (id : TradeId) : Fold ℕ

inductive Act : Type → Type 1 where
  | fold {γ : Type} (f : Fold γ) : Act γ
  | prepareIntent (d : IntentDraft) : Act Bool
  | markIntentSubmitting (id : IntentId) : Act Unit
  | finishIntent (id : IntentId) (state : IntentState) (orderId listId : Ident)
      (error : Option String) : Act Unit
  | upsertTrade (id : TradeId) (pair : Pair) (f : TradeFields) : Act Unit
  | post (p : Post) : Act Reply

/-- What the history of a run remembers. -/
inductive Item where
  | began
  | marked (id : IntentId)
  | finished (id : IntentId) (state : IntentState)
  | upserted (id : TradeId) (f : TradeFields)
  | minted (client : ClientId)
  | gotSymbolInfo (info : SymbolInfo)
  | gotAccount (balances : List (Asset × ℚ × ℚ))
  | gotOpenOrders (symbol : Option Symbol) (items : List (Option Ident))
  | gotOpenOrderLists (items : List (Option Ident))
  | gotOrder (symbol : Symbol) (key : OrderKey) (reply : Except Exc Reply)
  | gotOrderList (key : ListKey) (reply : Except Exc Reply)
  | posted (p : Post) (reply : Except Exc Reply)

/-- The balances in an answer about the account. -/
def Item.balances? : Item → Option (List (Asset × ℚ × ℚ))
  | .gotAccount balances => some balances
  | _ => none

/-- An item of the history with the store just before it. -/
structure Entry where
  store : Store
  item : Item

/-- `signals` is the table `processed_signals`. The history is a record about the run, newest
entry first; no act reads it. -/
structure World (σ : Type) where
  store : Store := {}
  signals : Dict TradeId String := ∅
  memory : Memory := {}
  env : σ
  history : List Entry := []

namespace World
variable {σ : Type}

def note (w : World σ) (i : Item) : World σ := { w with history := ⟨w.store, i⟩ :: w.history }

/-- A new process over the same durable state. -/
def restart (w : World σ) : World σ := { w with memory := {} }

end World

/-- The history item of a call. -/
def Call.item? : {γ : Type} → Call γ → Except Exc γ → Option Item
  | _, .getOrder symbol key, r => some (.gotOrder symbol key r)
  | _, .getOrderList key, r => some (.gotOrderList key r)
  | _, .newClientId _, r => r.toOption.map .minted
  | _, .symbolInfo _, r => r.toOption.map .gotSymbolInfo
  | _, .account, r => r.toOption.join.map .gotAccount
  | _, .openOrders symbol, r => r.toOption.join.map (.gotOpenOrders symbol)
  | _, .openOrderLists, r => r.toOption.join.map .gotOpenOrderLists
  | _, _, _ => none

section exec
variable {σ : Type} (env : Env σ)

def Ask.exec : (γ : Type) → Ask γ → World σ → Except Exc γ × World σ
  | _, .store, w => (.ok w.store, w)
  | _, .memory, w => (.ok w.memory, w)
  | _, .setMemory m, w => (.ok (), { w with memory := m })
  | _, .setData d, w => (.ok (), { w with store := { w.store with data := d } })
  | _, .signalResult id, w => (.ok (w.signals.lookup id), w)
  | _, .claimSignal id, w =>
    let isNew := (w.signals.lookup id).isNone
    (.ok isNew, { w with
      signals := if isNew then w.signals.insert id "IN_PROGRESS" else w.signals })
  | _, .recordSignal id result, w => (.ok (), { w with signals := w.signals.insert id result })
  | _, .call c, w =>
    let answer := env.call _ c w.env
    (answer.1, match c.item? answer.1 with
      | some i => { w.note i with env := answer.2 }
      | none => { w with env := answer.2 })

def Fold.exec : (γ : Type) → Fold γ → World σ → Except Exc γ × World σ
  | _, .ask a, w => a.exec env _ w
  | _, .recordExchangeEvent e, w =>
    let r := w.store.recordExchangeEvent e
    (.ok r.1, { w with store := r.2 })
  | _, .replayExchangeEventsForTrade id, w =>
    let r := w.store.replayExchangeEventsForTrade id
    (.ok r.1, { w with store := r.2 })

def Act.exec : (γ : Type) → Act γ → World σ → Except Exc γ × World σ
  | _, .fold f, w => f.exec env _ w
  | _, .prepareIntent d, w =>
    match w.store.prepareIntent d with
    | .ok (b, s) => (.ok b, { w with store := s })
    | .error e => (.error e, w)
  | _, .markIntentSubmitting id, w =>
    match w.store.markIntentSubmitting id with
    | .ok s => (.ok (), { w.note (.marked id) with store := s })
    | .error e => (.error e, w)
  | _, .finishIntent id state orderId listId error, w =>
    match w.store.finishIntent id state orderId listId error with
    | .ok s => (.ok (), { w.note (.finished id state) with store := s })
    | .error e => (.error e, w)
  | _, .upsertTrade id pair f, w =>
    (.ok (), { w.note (.upserted id f) with store := w.store.upsertTrade id pair f })
  | _, .post p, w =>
    let answer := env.post p w.env
    (answer.1, { w.note (.posted p answer.1) with env := answer.2 })

end exec

/-- Programs over the three classes of acts, each usable as one of the next. -/
abbrev Asking := Prog Exc Ask
abbrev Folding := Prog Exc Fold
abbrev Acting := Prog Exc Act

instance : MonadLift Asking Folding := ⟨Prog.lift fun _ => Fold.ask⟩
instance : MonadLift Folding Acting := ⟨Prog.lift fun _ => Act.fold⟩

end SpotSidecar
