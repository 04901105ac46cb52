import SpotSidecar.Adapter.Run

/-! A small exchange that can be run: it keeps orders, lists and balances, answers every
question from them, and follows a script of what happens after each request. -/
namespace SpotSidecar

structure DeskOrder where
  id : ℤ
  list : ℤ
  client : ClientId
  side : Side
  type : OrderType
  qty : ℚ
  executed : ℚ := 0
  status : OrderStatus := .new
  deriving DecidableEq, Repr

structure DeskList where
  id : ℤ
  client : ClientId
  isOpen : Bool := true
  deriving DecidableEq, Repr

/-- What happens at the exchange without the adapter. -/
inductive Move where
  /-- An order trades; a commission in the base asset is taken from a BUY. -/
  | fill (id : ℤ) (qty commission : ℚ)
  | deposit (qty : ℚ)
  deriving DecidableEq, Repr

/-- How a request is answered. -/
inductive Manner where
  | answered
  /-- The request is refused, and the refusal is definite. -/
  | refused
  /-- The request takes effect, but its answer is lost. -/
  | lost
  /-- The request does not arrive. -/
  | dropped
  deriving DecidableEq, Repr

/-- What the script says about one request: what happens at once, how it is answered,
and what happens next. -/
structure Turn where
  meanwhile : List Move := []
  manner : Manner := .answered
  next : List Move := []
  deriving DecidableEq, Repr

structure Desk where
  orders : List DeskOrder := []
  lists : List DeskList := []
  free : ℚ := 0
  locked : ℚ := 0
  quote : ℚ := 1000000
  nextId : ℤ := 1
  minted : ℕ := 0
  price : ℚ := 100
  script : List Turn := []
  deriving DecidableEq, Repr

namespace DeskOrder

/-- Working at the exchange. -/
def live (o : DeskOrder) : Bool := o.status = .new || o.status = .partiallyFilled

def pending (o : DeskOrder) : Bool := o.status = .other "PENDING_NEW"

/-- What the exchange tells about an order; a standalone order has the list id `-1`. -/
def report (o : DeskOrder) : Report where
  orderId := .int o.id
  orderListId := .int o.list
  symbol := some "BTCUSDT"
  side := o.side
  type := o.type
  status := o.status
  clientOrderId := o.client
  executedQty := .num o.executed
  cummulativeQuoteQty := .num (o.executed * 100)
  origQty := .num o.qty

end DeskOrder

namespace Desk

def setOrder (d : Desk) (id : ℤ) (f : DeskOrder → DeskOrder) : Desk :=
  { d with orders := d.orders.map fun o => if o.id = id then f o else o }

/-- Release or take the base that a resting SELL binds. -/
def lock (d : Desk) (qty : ℚ) : Desk := { d with free := d.free - qty, locked := d.locked + qty }

/-- End an order that has not filled. -/
def expire (d : Desk) (o : DeskOrder) (status : OrderStatus) : Desk :=
  let d := if o.live && o.side = .sell then d.lock (-(o.qty - o.executed)) else d
  d.setOrder o.id ({ · with status := status })

/-- The two SELL legs of an OCO bind the base once. -/
def expireLeg (d : Desk) (o : DeskOrder) (status : OrderStatus) : Desk :=
  d.setOrder o.id ({ · with status := status })

def members (d : Desk) (list : ℤ) : List DeskOrder := d.orders.filter (·.list = list)

def closeList (d : Desk) (list : ℤ) : Desk :=
  { d with lists := d.lists.map fun l => if l.id = list then { l with isOpen := false } else l }

/-- The base that the live SELL legs of a list bind. -/
def bound (d : Desk) (list : ℤ) : ℚ :=
  (((d.members list).filter fun o => o.side = .sell && o.live).map
    fun o => o.qty - o.executed).foldl
    max 0

/-- End every order of a list that has not ended. -/
def endList (d : Desk) (list : ℤ) (status : OrderStatus) : Desk :=
  let d := d.lock (-d.bound list)
  let d := (d.members list).foldl
    (fun d o => if o.live || o.pending then d.expireLeg o status else d) d
  d.closeList list

/-- The pending SELL legs of a list start to work when its BUY has filled. -/
def activate (d : Desk) (list : ℤ) : Desk :=
  let d := (d.members list).foldl
    (fun d o => if o.pending then d.setOrder o.id ({ · with status := .new }) else d) d
  d.lock (d.bound list)

/-- An order trades. -/
def fill (d : Desk) (o : DeskOrder) (qty commission : ℚ) : Desk :=
  let executed := o.executed + qty
  let done := executed = o.qty
  let traded := d.setOrder o.id ({ · with
    executed := executed
    status := if done then .filled else .partiallyFilled })
  match o.side with
  | .buy =>
    let d := { traded with free := d.free + qty - commission, quote := d.quote - qty * d.price }
    if done && o.list ≠ -1 then d.activate o.list else d
  | _ =>
    let d := { traded with locked := d.locked - qty, quote := d.quote + qty * d.price }
    if o.list ≠ -1 then
      let d := (d.members o.list).foldl
        (fun d leg => if leg.live && leg.id ≠ o.id then d.expireLeg leg .expired else d) d
      if done then d.closeList o.list else d
    else d

def move (d : Desk) : Move → Desk
  | .fill id qty commission =>
    match d.orders.find? (·.id = id) with
    | some o => if o.live then d.fill o qty commission else d
    | none => d
  | .deposit qty => { d with free := d.free + qty }

def listing (d : Desk) (l : DeskList) : Response where
  orderListId := .int l.id
  symbol := some "BTCUSDT"
  orderReports := (d.members l.id).map DeskOrder.report
  listStatusType := if l.isOpen then .execStarted else .allDone
  listOrderStatus := if l.isOpen then .executing else .allDone

def showOrder (d : Desk) (p : DeskOrder → Bool) : Except Exc Reply :=
  match d.orders.find? p with
  | some o => .ok (some { toReport := o.report })
  | none => .error { kind := .binanceApi, text := "Order does not exist.", code := .int (-2013) }

def showList (d : Desk) (p : DeskList → Bool) : Except Exc Reply :=
  match d.lists.find? p with
  | some l => .ok (some (d.listing l))
  | none =>
    .error { kind := .binanceApi, text := "Order list does not exist.", code := .int (-2018) }

/-- A standalone order. An immediate-or-cancel order trades at once. -/
def placeOrder (d : Desk) (p : Params) : Desk :=
  let o : DeskOrder :=
    { id := d.nextId
      list := -1
      client := p.newClientOrderId.getD ""
      side := p.side.getD .sell
      type := p.type.getD .limit
      qty := p.quantity.getD 0 }
  let d := { d with nextId := d.nextId + 1, orders := d.orders ++ [o] }
  let d := d.lock o.qty
  if p.timeInForce = some "IOC" then d.fill o o.qty 0 else d

/-- A list with its legs. -/
def placeList (d : Desk) (p : Params) : Desk :=
  let id := d.nextId
  let sell (n : ℤ) (client : Option ClientId) (type : Option OrderType) : List DeskOrder :=
    match client with
    | none => []
    | some client =>
      [{ id := id + n, list := id, client := client, side := .sell
         type := type.getD .stopLossLimit
         qty := (p.quantity.or p.pendingQuantity).getD 0
         status := if p.workingClientOrderId.isSome then .other "PENDING_NEW" else .new }]
  let buy : List DeskOrder := match p.workingClientOrderId with
    | none => []
    | some client =>
      [{ id := id + 1, list := id, client := client, side := .buy, type := .limit
         qty := p.workingQuantity.getD 0 }]
  let legs := buy ++ sell 2 (p.pendingAboveClientOrderId.or p.aboveClientOrderId)
      (p.pendingAboveType.or p.aboveType) ++
    sell 3 ((p.pendingBelowClientOrderId.or p.belowClientOrderId).or p.pendingClientOrderId)
      ((p.pendingBelowType.or p.belowType).or p.pendingType)
  let d := { d with
    nextId := id + 4
    orders := d.orders ++ legs
    lists := d.lists ++ [DeskList.mk id (p.listClientOrderId.getD "") true] }
  d.lock (d.bound id)

/-- The effect of a request with its answer. -/
def perform (d : Desk) : Post → Except Exc Reply × Desk
  | .place endpoint p =>
    if endpoint.isOrderList then
      let d' := d.placeList p
      (d'.showList (·.id = d.nextId), d')
    else
      let d' := d.placeOrder p
      (d'.showOrder (·.id = d.nextId), d')
  | .cancelOrder _ id =>
    match d.orders.find? (·.id = id) with
    | some o =>
      if o.live then
        let d' := d.expire o .canceled
        (d'.showOrder (·.id = id), d')
      else
        (.error { kind := .binanceApi, text := "Unknown order sent.", code := .int (-2011) }, d)
    | none =>
      (.error { kind := .binanceApi, text := "Unknown order sent.", code := .int (-2011) }, d)
  | .cancelOrderList _ id =>
    match d.lists.find? (·.id = id) with
    | some l =>
      if l.isOpen then
        let d' := d.endList id .canceled
        (d'.showList (·.id = id), d')
      else
        (.error { kind := .binanceApi, text := "Unknown order sent.", code := .int (-2011) }, d)
    | none =>
      (.error { kind := .binanceApi, text := "Unknown order sent.", code := .int (-2011) }, d)

def post (p : Post) (d : Desk) : Except Exc Reply × Desk :=
  let turn : Turn := d.script.head?.getD {}
  let d := turn.meanwhile.foldl move { d with script := d.script.tail }
  let (answer, d') := match turn.manner with
    | .answered => d.perform p
    | .refused =>
      (.error { kind := .binanceApi, text := "insufficient balance", code := .int (-2010) }, d)
    | .lost => (.error { kind := .requests, text := "timed out" }, (d.perform p).2)
    | .dropped => (.error { kind := .requests, text := "timed out" }, d)
  (answer, turn.next.foldl move d')

def openOrders (d : Desk) : List (Option Ident) :=
  (d.orders.filter (·.live)).map fun o => some (.int o.id)

def openLists (d : Desk) : List (Option Ident) :=
  (d.lists.filter (·.isOpen)).map fun l => some (.int l.id)

def info : SymbolInfo where
  symbol := "BTCUSDT"
  baseAsset := "BTC"
  quoteAsset := "USDT"
  tickSize := 1 / 100
  stepSize := 1 / 1000
  minQty := 1 / 1000
  ocoAllowed := true
  otoAllowed := true
  allowTrailingStop := true

def call : (γ : Type) → Call γ → Desk → Except Exc γ × Desk
  | _, .time, d => (.ok 0, d)
  | _, .newClientId role, d => (.ok (role ++ toString d.minted), { d with minted := d.minted + 1 })
  | _, .activePair, d => (.ok ⟨"BTC", "USDT"⟩, d)
  | _, .symbolInfo _, d => (.ok info, d)
  | _, .tickerPrice _, d => (.ok (.num d.price), d)
  | _, .orderBook _, d => (.ok ([.num d.price], [.num d.price]), d)
  | _, .account, d => (.ok (some [("BTC", d.free, d.locked), ("USDT", d.quote, 0)]), d)
  | _, .openOrders _, d => (.ok (some d.openOrders), d)
  | _, .openOrderLists, d => (.ok (some d.openLists), d)
  | _, .getOrder _ (.orderId id), d => (d.showOrder (·.id = id), d)
  | _, .getOrder _ (.clientId c), d => (d.showOrder (·.client = c), d)
  | _, .getOrderList (.orderListId id), d => (d.showList (·.id = id), d)
  | _, .getOrderList (.listClientId c), d => (d.showList (·.client = c), d)
  | _, .validateReplacement .., d => (.ok (), d)
  | _, .globalPause, d => (.ok "", d)
  | _, .setGlobalPause _, d => (.ok (), d)
  | _, .recordGuard .., d => (.ok (), d)
  | _, .onExchangeEvent _, d => (.ok (), d)

/-- A number that stands for the digest of a text. -/
def digest (codes : List ℕ) : ℕ := codes.foldl (fun n c => n * 2097152 + c) 1

def textCodes (s : String) : List ℕ := 0 :: s.toList.map Char.toNat

def seedDigest : Seed → ℕ
  | .submission operation tradeId _ _ list client =>
    digest (operation.ctorIdx :: (textCodes tradeId ++ textCodes list ++ textCodes client))
  | .request operation tradeId p =>
    digest (operation.ctorIdx :: (textCodes tradeId ++ textCodes (p.listClientOrderId.getD "") ++
      textCodes (p.newClientOrderId.getD "") ++
      [(p.orderListId.getD 0 + 2).toNat, (p.orderId.getD 0 + 2).toNat]))

/-- The adapter as it is run against the desk. -/
def config : Config where
  hash := seedDigest
  requestHash _ := 0

/-- A command that is run to its end. -/
def whole (c : Command) : Step := ⟨c, 10000⟩

/-- A position of the bot, bought in full and protected by the list of its entry. -/
def opening : List Step :=
  [whole .start, whole (.setEnabled true), whole (.setEntries true),
    whole (.submit "BTCUSDT" "t1"), whole .verifiedReconcile]

/-- The exchange and the other collaborators of the adapter. -/
def env : Env Desk where
  call := call
  post := post

end Desk
end SpotSidecar
