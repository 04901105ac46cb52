import SpotSidecar.Adapter.Requests
import SpotSidecar.Adapter.World

/-! What the adapter asks of its collaborators before and after it acts. -/
namespace SpotSidecar
open Interaction

def theStore : Asking Store := .perform .store

def theMemory : Asking Memory := .perform .memory

def call {γ : Type} (c : Call γ) : Asking γ := .perform (.call c)

def setMemory (f : Memory → Memory) : Asking Unit := do
  let m ← theMemory
  .perform (.setMemory (f m))

def signalResult (id : TradeId) : Asking (Option String) := .perform (.signalResult id)

def claimSignal (id : TradeId) : Asking Bool := .perform (.claimSignal id)

def recordSignal (id : TradeId) (result : String) : Asking Unit :=
  .perform (.recordSignal id result)

def setData (f : SidecarData → SidecarData) : Asking Unit := do
  let s ← theStore
  .perform (.setData (f s.data))

/-- `response.get(...)` on a value that is not an object raises. -/
def asObject (reply : Reply) : Asking Response :=
  match reply with
  | some r => pure r
  | none => .raise (.of .attribute "object has no attribute 'get'")

/-- `gateway.get_order` -/
def getOrder (symbol : Symbol) (orderId : Option ℤ) (clientId : ClientId) : Asking Reply :=
  match orderId with
  | some n => call (.getOrder symbol (.orderId n))
  | none =>
    if clientId ≠ "" then call (.getOrder symbol (.clientId clientId))
    else .raise (.of .value "order_id or client_id is required")

/-- `gateway.get_order_list` -/
def getOrderList (orderListId : Option ℤ) (listClientId : ClientId) : Asking Reply :=
  match orderListId with
  | some n => call (.getOrderList (.orderListId n))
  | none =>
    if listClientId ≠ "" then call (.getOrderList (.listClientId listClientId))
    else .raise (.of .value "order_list_id or list_client_id is required")

/-- `canonical_pair`, with the quote allowlist of the operator. -/
def canonicalPair (cfg : Config) (pair : Pair) : Asking Unit := do
  .ensure (pair.base = "BTC") (.of .value "pair must use the form BTC/QUOTE")
  .ensure (cfg.allowedQuotes = [] ∨ pair.quote ∈ cfg.allowedQuotes)
    (.of .value "pair quote is outside the configured BTC quote allowlist")

/-- `validate_exchange_symbol` -/
def validateExchangeSymbol (pair : Pair) (info : SymbolInfo) : Asking Unit := do
  .ensure (info.symbol = pair.symbol)
    (.of .value "exchangeInfo symbol does not match the requested pair")
  .ensure info.trading (.of .value "symbol is not TRADING")
  .ensure (info.baseAsset = "BTC") (.of .value "base asset must be BTC")
  .ensure (info.quoteAsset = pair.quote)
    (.of .value "quote asset does not match the requested pair")
  .ensure info.spotAllowed (.of .value "Spot trading is disabled")

/-- `_rules` -/
def rulesOf (cfg : Config) (pair : Pair) : Asking SymbolRules := do
  canonicalPair cfg pair
  let info ← call (.symbolInfo pair.symbol)
  validateExchangeSymbol pair info
  if h : 0 < info.tickSize ∧ 0 < info.stepSize then
    return { symbol := pair.symbol
             base := "BTC"
             quote := pair.quote
             tick := info.tickSize
             step := info.stepSize
             minQty := info.minQty
             maxQty := info.maxQty
             minNotional := info.minNotional
             maxNotional := info.maxNotional
             trailMin := info.minTrailingBelowDelta
             trailMax := info.maxTrailingBelowDelta
             ocoAllowed := info.ocoAllowed
             otoAllowed := info.otoAllowed
             trailingAllowed := info.allowTrailingStop
             tick_pos := h.1
             step_pos := h.2 }
  else .raise (.of .runtime "symbol lacks required Spot price/quantity filters")

/-- `_require_mode_capabilities` -/
def requireModeCapabilities (rules : SymbolRules) (mode : ProtectionMode) (forEntry : Bool) :
    Asking Unit :=
  .ensure ((forEntry → rules.otoAllowed) ∧ (mode ≠ .trailingOnly → rules.ocoAllowed) ∧
      (mode ≠ .fixedOco → rules.trailingAllowed))
    (.of .value "symbol cannot support the mode: capability unavailable")

/-- `_price` -/
def priceOf (value : Scalar) : Asking ℚ :=
  match value with
  | .num q => do
    .ensure (0 < q) (.of .value "exchange price must be finite and positive")
    return q
  | .nonFinite => .raise (.of .value "exchange price must be finite and positive")
  | _ => .raise (.of .arithmetic "invalid decimal")

/-- `_best_ask` -/
def bestAsk (symbol : Symbol) : Asking ℚ := do
  let book ← call (.orderBook symbol)
  match book.2 with
  | ask :: _ => priceOf ask
  | [] => .raise (.of .runtime "ask book is empty")

/-- `_best_bid` -/
def bestBid (symbol : Symbol) : Asking ℚ := do
  let book ← call (.orderBook symbol)
  match book.1 with
  | bid :: _ => priceOf bid
  | [] => .raise (.of .runtime "bid book is empty")

/-- `_current` -/
def currentPrice (symbol : Symbol) : Asking ℚ := do
  let price ← call (.tickerPrice symbol)
  priceOf price

abbrev Balances := List (Asset × ℚ × ℚ)

/-- `_balances(gateway.account())` -/
def accountBalances : Asking Balances := do
  let account ← call .account
  match account with
  | some balances => return balances
  | none => .raise (.of .runtime "Binance account response has no balances list")

/-- `balances.get(asset, (0, 0))`: the last row of an asset counts. -/
def balanceOf (balances : Balances) (asset : Asset) : ℚ × ℚ :=
  (balances.reverse.lookup asset).getD (0, 0)

def totalOf (balances : Balances) (asset : Asset) : ℚ :=
  (balanceOf balances asset).1 + (balanceOf balances asset).2

/-- `_free` -/
def freeBalance (asset : Asset) : Asking ℚ := do
  let balances ← accountBalances
  return (balanceOf balances asset).1

/-- `_event_in_scope` -/
def eventInScope (e : Event) : Asking Bool :=
  match e.symbol with
  | none => .raise (.of .value "order event has no symbol")
  | some symbol => do
    let s ← theStore
    match s.pairForSymbol symbol with
    | .ok pair =>
      .ensure (pair.base = "BTC" ∧ pair.symbol = symbol)
        (.of .value "order event pair mapping is invalid")
      return true
    | .error _ =>
      let info ← call (.symbolInfo symbol)
      .ensure (info.symbol = symbol ∧ info.baseAsset ≠ "")
        (.of .value "order event metadata identity is unverified")
      .ensure (info.baseAsset ≠ "BTC")
        (.of .value "unregistered BTC order event requires ownership reconciliation")
      return false

/-- `_record_authenticated_event` -/
def recordAuthenticatedEvent (e : Event) : Folding Bool := do
  let inScope ← eventInScope e
  if inScope then
    let isNew ← Prog.perform (.recordExchangeEvent e)
    if isNew then
      call (.onExchangeEvent e)
    return isNew
  else
    return false

/-- Record the event of an order answer, if it has one; the answer is whether it had. -/
def recordRestEvent (order : Report) (orderListId : Ident) : Folding Bool := do
  let event ← Prog.ofExcept (restEvent order orderListId)
  match event with
  | some e =>
    let _ ← recordAuthenticatedEvent e
    return true
  | none => return false

/-- `_record_response_events` -/
def recordResponseEvents (response : Response) (orderListId : Ident) : Folding Unit := do
  let orders := response.orderReports ++
    if response.orderId.truthy then [response.toReport] else []
  let _ ← Prog.each (recordRestEvent · orderListId) orders
  return ()

def replayTrade (id : TradeId) : Folding Unit := do
  let _ ← Prog.perform (.replayExchangeEventsForTrade id)
  return ()

/-- `_preflight` -/
def preflight (rules : SymbolRules) (endpoint : Endpoint) (params : Params)
    (replacingOrderIds : List (Option ℤ)) (replacingOrderList : Bool) : Asking Unit :=
  call (.validateReplacement rules.symbol endpoint params replacingOrderIds replacingOrderList)

/-- `_lookup`: any error is no answer. -/
def lookup (endpoint : Endpoint) (symbol : Symbol) (params : Params) : Asking Reply := do
  let found ← (if endpoint.isOrderList then
      getOrderList none (params.listClientOrderId.getD "")
    else getOrder symbol none (params.newClientOrderId.getD "")).attempt
  match found with
  | .ok reply => return reply
  | .error _ => return none

def setEntries (value : Bool) (reason : String) : Asking Unit := do
  let s ← theStore
  .perform (.setData (s.setEntries value reason).data)

/-- `_pause` -/
def pause (reason : String) : Asking Unit := do
  setMemory ({ · with enabled := false })
  setEntries false reason
  let _ ← (call (.setGlobalPause reason)).attempt
  return ()

/-- `_configured_entry_quantity` -/
def configuredEntryQuantity (cfg : Config) (rules : SymbolRules) (entry : ℚ) : Asking (ℚ × ℚ) := do
  let quantity := floorStep (cfg.tradeSizeBase.getD (cfg.tradeSizeQuote / entry)) rules.step
  .ensure (0 < quantity) (.of .runtime "configured BTC entry quantity rounds to zero")
  return (quantity, quantity * entry)

/-- `OrderRequestFactory.entry` -/
def factoryEntry (cfg : Config) (mode : ProtectionMode) (rules : SymbolRules) (qty entry : ℚ) :
    Asking (Endpoint × Params) := do
  let qty := floorStep qty rules.step
  let entry := floorStep entry rules.tick
  let pending ← Prog.ofExcept (cfg.settings.pendingQty rules qty)
  .ensure (0 < pending) (.of .value "fee-shaved protective quantity rounds to zero")
  let list ← call (.newClientId "ENTRYLIST")
  let working ← call (.newClientId "ENTRY")
  let first ← call (.newClientId (if mode = .trailingOnly then "TRAIL" else "TP"))
  let second ← (if mode = .trailingOnly then pure "" else call (.newClientId "STOP"))
  return entryRequest cfg.settings mode rules qty entry pending { list, working, first, second }

/-- `OrderRequestFactory.replacement` -/
def factoryReplacement (cfg : Config) (mode : ProtectionMode) (rules : SymbolRules)
    (qty entry current : ℚ) (stopPrice : Option ℚ) (trailingDeltaBips : Option ℤ) :
    Asking (Endpoint × Params) := do
  let s := cfg.settings
  let qty := floorStep qty rules.step
  .ensure (0 < qty ∧ 0 < entry ∧ 0 < current)
    (.of .value "replacement quantity and prices must be positive")
  let delta := ProtectionSettings.delta rules
    ((trailingDeltaBips.filter (· ≠ 0)).getD s.trailingDeltaBips)
  match mode with
  | .trailingOnly =>
    let client ← call (.newClientId "TRAIL")
    return (.order, trailingRequest s rules qty current delta client)
  | mode =>
    let list ← call (.newClientId "PROTECT")
    let above ← call (.newClientId "TP")
    let below ← call (.newClientId "STOP")
    let params := ocoRequest s rules qty entry current list above below
    if mode = .fixedOco then
      let stop := floorStep (stopPrice.getD (entry * (1 - s.fixedStopPct / 100))) rules.tick
      .ensure (stop < current) (.of .value "fixed protective stop must be below current price")
      return (.orderListOco, { params with
        belowStopPrice := some stop
        belowPrice := some (ProtectionSettings.below rules stop s.limitFillBufferBips) })
    else
      return (.orderListOco, { params with
        belowTrailingDelta := some delta
        belowPrice := some
          (ProtectionSettings.below rules current (delta + s.limitFillBufferBips)) })

end SpotSidecar
