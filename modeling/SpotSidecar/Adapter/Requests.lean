import SpotSidecar.State.Store

/-! Order requests and the classification of their answers: the pure part of the adapter. -/
namespace SpotSidecar

/-- The text an intent id is the digest of. -/
inductive Seed where
  | submission (operation : Operation) (tradeId : TradeId) (symbol : Symbol) (endpoint : Endpoint)
      (listClientId clientId : ClientId)
  | request (operation : Operation) (tradeId : TradeId) (request : Params)
  deriving DecidableEq, Repr

/-- What the adapter reads from its environment when it is constructed. -/
structure Config where
  settings : ProtectionSettings := {}
  tradeSizeQuote : ℚ := 100
  tradeSizeBase : Option ℚ := none
  maxEntryOpenSeconds : ℚ := 300
  breakEvenSlippagePct : ℚ := 5 / 100
  allowedQuotes : List Asset := []
  live : Bool := false
  hash : Seed → IntentId
  requestHash : Params → ℕ
  redact : String → String := id

def Exc.of (kind : ExcKind) (text : String) : Exc := { kind, text }

/-- `str(a or b or "")` -/
def firstText (texts : List (Option String)) : String :=
  ((texts.filterMap id).find? (· ≠ "")).getD ""

inductive SubmissionClass where
  | definiteReject
  | ambiguous
  deriving DecidableEq, Repr

/-- `int(value) if value is not None else None`; `none` where the conversion fails. -/
def Ident.optionalInt : Ident → Option (Option ℤ)
  | .int n => some (some n)
  | .bad => none
  | _ => some none

def definiteCodes : List ℤ :=
  [-1013, -1015, -1021, -1022, -2010, -2011, -2014, -2015, -2021, -2022]

/-- `classify_submission_error` -/
def classifySubmissionError (e : Exc) : SubmissionClass :=
  if e.kind = .requests then .ambiguous
  else match e.statusCode.optionalInt, e.code.optionalInt with
    | some status, some code =>
      if status.any (fun s => s = 418 || s = 429 || 500 ≤ s) then .ambiguous
      else if code.any (fun c => c = -1006 || c = -1007) then .ambiguous
      else if e.kind = .binanceOrder then .definiteReject
      else if e.kind = .binanceApi ∧
          (code.any (fun c => c ∈ definiteCodes || (-1135 ≤ c && c ≤ -1100)) ∨
            status.any (fun s => s = 401 || s = 403)) then .definiteReject
      else .ambiguous
    | _, _ => .ambiguous

namespace Report

/-- `_terminal_order_status` -/
def terminal (r : Report) : Bool :=
  r.status = .filled || r.status = .canceled || r.status = .expired ||
    r.status = .expiredInMatch || r.status = .rejected

/-- `order.get("updateTime") or order.get("transactTime") or order.get("time") or 0` -/
def eventTime (r : Report) : ℤ :=
  if r.updateTime ≠ 0 then r.updateTime
  else if r.transactTime ≠ 0 then r.transactTime
  else r.time

end Report

/-- `_terminal_list_status` -/
def Response.terminalList (r : Response) : Bool :=
  r.listStatusType = .allDone || r.listOrderStatus = .allDone

/-- `order.get("orderListId") if endpoint.startswith("orderList/") else order.get("orderId")` -/
def Response.identifier (r : Response) (endpoint : Endpoint) : Ident :=
  if endpoint.isOrderList then r.orderListId else r.orderId

/-- `_rest_event`. Side, status and type are kept as decoded. -/
def restEvent (order : Report) (orderListId : Ident) : Except Exc (Option Event) :=
  if !order.orderId.truthy || order.status = .other "" then .ok none
  else do
    let orderId ← order.orderId.toInt
    let executed := order.executedQty.getD (.num 0)
    return some
      { eventType := .executionReport
        symbol := order.symbol.filter (· ≠ "")
        orderId := .int orderId
        orderListId := order.orderListId.getD orderListId
        side := order.side
        status := order.status
        orderType := order.type
        cumulative := executed
        quote := order.cummulativeQuoteQty.getD (order.cumulativeQuoteQty.getD (.num 0))
        originalQty := order.origQty.getD (order.quantity.getD (.num 0))
        eventTime := some order.eventTime
        rawEventId := some (.rest orderId order.status order.eventTime executed) }

inductive Role where
  | entry
  | takeProfit
  | stop
  deriving DecidableEq, Repr

/-- `client_roles.get(client_id)`: a later key of the mapping overrides an equal earlier one. -/
def clientRole (request : Params) (client : ClientId) : Option Role :=
  if client = "" then none
  else if client = firstText [request.pendingClientOrderId, request.newClientOrderId] then
    some .stop
  else if client = firstText [request.pendingBelowClientOrderId, request.belowClientOrderId] then
    some .stop
  else if client = firstText [request.pendingAboveClientOrderId, request.aboveClientOrderId] then
    some .takeProfit
  else if client = firstText [request.workingClientOrderId] then some .entry
  else none

/-- The leg a report of a list is bound to. -/
def Report.role (request : Params) (r : Report) : Option Role :=
  let role := clientRole request (firstText [some r.clientOrderId, some r.origClientOrderId])
  if r.side = .buy ∨ role = some .entry then some .entry
  else if r.type = .limitMaker ∨ role = some .takeProfit then some .takeProfit
  else if r.type = .stopLoss ∨ r.type = .stopLossLimit ∨ role = some .stop then some .stop
  else none

/-- The exchange ids an answer gives to a trade. -/
structure ResponseIds where
  list : Option ℤ := none
  entry : Option ℤ := none
  takeProfit : Option ℤ := none
  stop : Option ℤ := none
  deriving DecidableEq, Repr

def ResponseIds.assign (ids : ResponseIds) (id : Option ℤ) : Option Role → ResponseIds
  | some .entry => { ids with entry := id }
  | some .takeProfit => { ids with takeProfit := id }
  | some .stop => { ids with stop := id }
  | none => ids

/-- `response.get("orderReports") or response.get("orders") or []` -/
def Response.legs (r : Response) : List Report :=
  if r.orderReports.isEmpty then r.orders else r.orderReports

/-- `_response_ids` -/
def responseIds (response : Response) (request : Params) : Except Exc ResponseIds := do
  let list ← response.orderListId.toId
  response.legs.foldlM (fun ids leg => do
    let id ← leg.orderId.toId
    return ids.assign id (leg.role request)) { list }

/-- The mode that the shape of a protective request stands for. -/
def requestMode (endpoint : Endpoint) (request : Params) : ProtectionMode :=
  if endpoint = .order then .trailingOnly
  else if request.belowTrailingDelta.isSome then .ocoTrailing
  else .fixedOco

/-- The lifecycle that recovery gives to a trade protected in this mode. -/
def ProtectionMode.lifecycle : ProtectionMode → Lifecycle
  | .trailingOnly => .trailingActive
  | _ => .protectionActive

namespace ProtectionSettings

/-- `_delta` -/
def delta (rules : SymbolRules) (requested : ℤ) : ℤ :=
  max rules.trailMin (min requested rules.trailMax)

/-- `floor_step(price * (1 - bips / 10000), tick)` -/
def below (rules : SymbolRules) (price : ℚ) (bips : ℤ) : ℚ :=
  floorStep (price * (1 - bips / 10000)) rules.tick

def pendingQty (s : ProtectionSettings) (rules : SymbolRules) (qty : ℚ) : Except Exc ℚ :=
  if s.feePctPerSide < 0 ∨ 100 ≤ s.feePctPerSide then
    .error (.of .value "fee percentage must be within [0,100)")
  else .ok (floorStep (qty * (1 - s.feePctPerSide / 100)) rules.step)

end ProtectionSettings

/-- Client ids are drawn in the order in which the request names them. -/
structure EntryIds where
  list : ClientId
  working : ClientId
  first : ClientId
  second : ClientId

/-- `OrderRequestFactory.entry`, once its client ids are drawn. -/
def entryRequest (s : ProtectionSettings) (mode : ProtectionMode) (rules : SymbolRules)
    (qty entry pending : ℚ) (ids : EntryIds) : Endpoint × Params :=
  let delta := ProtectionSettings.delta rules s.trailingDeltaBips
  let trailFloor := ProtectionSettings.below rules entry (delta + s.limitFillBufferBips)
  let common : Params :=
    { symbol := rules.symbol
      listClientOrderId := some ids.list
      workingClientOrderId := some ids.working
      workingType := some .limit
      workingSide := some .buy
      workingPrice := some entry
      workingQuantity := some qty
      workingTimeInForce := some "GTC"
      pendingSide := some .sell
      pendingQuantity := some pending
      newOrderRespType := some "FULL" }
  match mode with
  | .trailingOnly =>
    (.orderListOto, { common with
      pendingClientOrderId := some ids.first
      pendingType := some .stopLossLimit
      pendingPrice := some trailFloor
      pendingTrailingDelta := some delta
      pendingTimeInForce := some "GTC" })
  | mode =>
    let legs := { common with
      pendingAboveClientOrderId := some ids.first
      pendingAboveType := some .limitMaker
      pendingAbovePrice := some (floorStep (entry * (1 + s.takeProfitPct / 100)) rules.tick)
      pendingBelowClientOrderId := some ids.second
      pendingBelowType := some .stopLossLimit
      pendingBelowTimeInForce := some "GTC" }
    let stop := floorStep (entry * (1 - s.fixedStopPct / 100)) rules.tick
    (.orderListOtoco, if mode = .fixedOco then
      { legs with
        pendingBelowStopPrice := some stop
        pendingBelowPrice := some (ProtectionSettings.below rules stop s.limitFillBufferBips) }
    else
      { legs with
        pendingBelowTrailingDelta := some delta
        pendingBelowPrice := some trailFloor })

/-- The standalone trailing stop of `OrderRequestFactory.replacement`. -/
def trailingRequest (s : ProtectionSettings) (rules : SymbolRules) (qty current : ℚ) (delta : ℤ)
    (client : ClientId) : Params where
  symbol := rules.symbol
  side := some .sell
  type := some .stopLossLimit
  quantity := some qty
  price := some (ProtectionSettings.below rules current (delta + s.limitFillBufferBips))
  trailingDelta := some delta
  timeInForce := some "GTC"
  newClientOrderId := some client

/-- The part of an OCO replacement that does not depend on its stop leg. -/
def ocoRequest (s : ProtectionSettings) (rules : SymbolRules) (qty entry current : ℚ)
    (list above below : ClientId) : Params where
  symbol := rules.symbol
  side := some .sell
  quantity := some qty
  listClientOrderId := some list
  aboveClientOrderId := some above
  aboveType := some .limitMaker
  abovePrice := some
    (floorStep (max (entry * (1 + s.takeProfitPct / 100)) (current * (1 + 2 / 1000))) rules.tick)
  belowClientOrderId := some below
  belowType := some .stopLossLimit
  belowTimeInForce := some "GTC"
  newOrderRespType := some "FULL"

/-- `fee_adjusted_break_even` -/
def feeAdjustedBreakEven (entry buyFeePct sellFeePct slippagePct : ℚ) : Except Exc ℚ :=
  let outside (p : ℚ) : Bool := p < 0 || 100 ≤ p
  if entry ≤ 0 ∨ outside buyFeePct ∨ outside sellFeePct ∨ outside slippagePct then
    .error (.of .value "invalid break-even inputs")
  else
    let ratio := 1 - (sellFeePct + slippagePct) / 100
    if ratio ≤ 0 then .error (.of .value "fees/slippage leave no proceeds")
    else .ok (entry * (1 + (buyFeePct + slippagePct) / 100) / ratio)

end SpotSidecar
