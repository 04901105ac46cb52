import SpotSidecar.Filters.Checks

/-! The capacity for orders and order lists, and the whole check of a request. -/
namespace SpotSidecar.Filters

/-- A row of the open order lists. -/
structure ListRow where
  symbol : Symbol
  deriving DecidableEq, Repr

structure Balance where
  asset : Asset
  free : Scalar
  locked : Scalar
  deriving DecidableEq, Repr

/-- What the authenticated callables answer; a callable may be missing. -/
structure Providers where
  openOrders : Option (Except Exc (Decoded (List Report))) := none
  allOpenOrders : Option (Except Exc (Decoded (List Report))) := none
  openOrderLists : Option (Except Exc (Decoded (List ListRow))) := none
  account : Option (Except Exc (Decoded (List Balance))) := none

/-- `_positive_limit`; a filter that is not published has the limit zero. -/
def positiveLimit (row : Option Ident) (name : String) : Except Exc ℤ :=
  match row with
  | none => .ok 0
  | some (.int n) =>
    if 0 < n then .ok n else .error (unavailable (name ++ " limit must be positive"))
  | some _ => .error (unavailable (name ++ " limit is missing or malformed"))

/-- The rows that a callable answers. -/
def enumerated {α : Type} (provider : Except Exc (Decoded (List α))) (description : String) :
    Except Exc (List α) :=
  match provider with
  | .error e => .error (unavailable (description ++ " enumeration failed: " ++ e.text))
  | .ok .malformed => .error (unavailable (description ++ " enumeration is malformed"))
  | .ok (.ok rows) => .ok rows

/-- One row of the open orders has an id and a symbol. -/
def checkRow (description : String) (row : Report) : Except Exc Unit :=
  match row.orderId.toInt with
  | .error _ => .error (unavailable (description ++ " contains malformed orderId"))
  | .ok id => require (0 < id ∧ row.symbol.getD "" ≠ "")
      (unavailable (description ++ " contains an order without orderId or symbol"))

/-- `_open_order_rows` -/
def openOrderRows (provider : Except Exc (Decoded (List Report))) (description : String) :
    Except Exc (List Report) := do
  let rows ← enumerated provider description
  rows.forM (checkRow description)
  return rows

/-- `_algo_order_count` -/
def algoOrderCount (rows : List Report) (description : String) : Except Exc ℕ := do
  rows.forM fun row => require (row.type.text ≠ "")
    (unavailable (description ++ " contains an order without type"))
  return rows.countP fun row => isAlgoType row.type

/-- The finite nonnegative decimal of a field that must be there. -/
def balanceOf (asset : Asset) : Scalar → Except Exc ℚ
  | .num q => if 0 ≤ q then .ok q else .error (unavailable (asset ++ " account balance is invalid"))
  | .nonFinite => .error (unavailable (asset ++ " account balance is invalid"))
  | _ => .error (unavailable (asset ++ " account balance is malformed"))

/-- `_base_balance` -/
def baseBalance (account : Decoded (List Balance)) (asset : Asset) : Except Exc ℚ :=
  match account with
  | .malformed => .error (unavailable "account balance response is malformed")
  | .ok rows =>
    match rows.filter (·.asset = asset) with
    | [row] => do
      let free ← balanceOf asset row.free
      let locked ← balanceOf asset row.locked
      return free + locked
    | matching => .error (unavailable
        ("account balance response returned " ++ toString matching.length ++ " " ++
          asset ++ " rows"))

/-- A request with what is published and open when it is checked. -/
structure Validation where
  symbol : Symbol
  endpoint : Endpoint
  request : FilterRequest
  entry : SymbolEntry
  exchangeFilters : ExchangeFilters := {}
  data : PublicData
  providers : Providers := {}
  replacingOrderIds : List (Option ℤ) := []
  replacingOrderList : Bool := false
  allowedQuotes : List Asset := []
  /-- how a decimal is printed -/
  str : ℚ → String

namespace Validation
variable (v : Validation)

abbrev filters : SymbolFilters := v.entry.filters

/-- `validate_replacement` up to the filters. -/
def checkEntry : Except Exc Unit := do
  let e := v.entry
  require (e.status = "TRADING")
    (violation (v.symbol ++ " status is '" ++ e.status ++ "', not TRADING"))
  require (e.isSpotTradingAllowed = true) (violation (v.symbol ++ " spot trading is not allowed"))
  require (e.baseAsset = "BTC") (violation (v.symbol ++ " base asset is not BTC"))
  require (v.allowedQuotes = [] ∨ e.quoteAsset ∈ v.allowedQuotes) (violation
    (v.symbol ++ " quote '" ++ e.quoteAsset ++ "' is outside ALLOWED_STABLE_QUOTES"))
  require (e.symbol = "BTC" ++ e.quoteAsset)
    (violation (v.symbol ++ " exchangeInfo assets do not reconstruct the symbol"))
  require (v.endpoint = .orderListOto → e.otoAllowed = true)
    (violation (v.symbol ++ " does not currently allow OTO order lists"))
  require (v.endpoint = .orderListOtoco → e.otoAllowed = true ∧ e.ocoAllowed = true)
    (violation (v.symbol ++ " does not currently allow OTOCO order lists"))
  require (v.endpoint = .orderListOco → e.ocoAllowed = true)
    (violation (v.symbol ++ " does not currently allow OCO order lists"))

/-- Whether there is a percent filter. -/
def percentFiltered : Bool :=
  v.filters.percentPriceBySide.isSome || v.filters.percentPrice.isSome

/-- The official reference price, which is asked for if a rule needs it. -/
def official (range : Option PriceRange) : Except Exc (Option ℚ) :=
  if range.isSome || v.percentFiltered then v.data.officialReferencePrice v.symbol else .ok none

/-- The reference price of the percent filter, if there is one. -/
def reference (official : Option ℚ) : Except Exc (Option ℚ) :=
  if v.percentFiltered then
    match official with
    | some official => .ok (some official)
    | none => (v.data.fallbackReferencePrice v.symbol v.filters).map some
  else .ok none

/-- What the legs are checked against. -/
def legChecks (legs : List OrderLeg) : Except Exc LegChecks := do
  let bounds ← v.filters.bounds
  let range ← v.data.priceRangeRule v.symbol
  let trailing ← trailingBounds v.symbol v.entry legs
  let official ← v.official range
  let reference ← v.reference official
  return {
    symbol := v.symbol
    filters := v.filters
    str := v.str
    bounds, trailing, range, official, reference }

/-- The names of the filters that the legs were checked against. -/
def checkedNames (range : Option PriceRange) : List String :=
  (if v.filters.priceFilter.isSome then ["PRICE_FILTER"] else []) ++
    (if v.filters.percentPriceBySide.isSome then ["PERCENT_PRICE_BY_SIDE"]
      else if v.filters.percentPrice.isSome then ["PERCENT_PRICE"] else []) ++
    (if v.filters.lotSize.isSome then ["LOT_SIZE"] else []) ++ ["NOTIONAL"] ++
    (if v.filters.trailingDelta.isSome then ["TRAILING_DELTA"] else []) ++
    if range.isSome then ["PRICE_RANGE"] else []

def incomingBuy (legs : List OrderLeg) : ℚ :=
  ((legs.filter (·.side = .buy)).map (·.qty)).sum

def newAlgo (legs : List OrderLeg) : ℕ := legs.countP (·.isAlgo)

def needsExchangeOrders : Bool :=
  v.exchangeFilters.exchangeMaxNumOrders.isSome || v.exchangeFilters.exchangeMaxNumAlgoOrders.isSome

def needsSymbolOrders (legs : List OrderLeg) : Bool :=
  v.filters.maxNumOrders.isSome || v.filters.maxNumAlgoOrders.isSome ||
    (v.filters.maxPosition.isSome && 0 < incomingBuy legs)

/-- The open orders that are asked for: of the whole account, and of the symbol. -/
def openOrders (legs : List OrderLeg) : Except Exc (List Report × List Report) :=
  if v.needsExchangeOrders then
    match v.providers.allOpenOrders with
    | none =>
      .error (unavailable "account-wide open-order provider is required for exchange filters")
    | some provider => do
      let rows ← openOrderRows provider "account-wide open-order"
      return (rows, rows.filter (·.symbol = some v.symbol))
  else if v.needsSymbolOrders legs then
    match v.providers.openOrders with
    | none => .error (unavailable
        ("symbol open-order provider is required for " ++ v.symbol ++ " filters"))
    | some provider => do
      let rows ← openOrderRows provider (v.symbol ++ " open-order")
      require (∀ row ∈ rows, row.symbol = some v.symbol) (unavailable
        (v.symbol ++ " open-order enumeration returned another symbol"))
      return ([], rows)
  else .ok ([], [])

/-- The ids of the orders that the request replaces. -/
def replaced : List ℤ := (v.replacingOrderIds.filterMap id).filter (· ≠ 0)

/-- The rows that stay when the replaced orders are gone; each was found to have an integer id. -/
def effective (rows : List Report) : List Report :=
  rows.filter fun row => row.orderId.toInt.toOption.all (· ∉ v.replaced)

/-- A count of open and new objects stays within a limit; the answer names the filter, if it is
published. -/
def checkCount (row : Option Ident) (name scope counted : String) (count : Except Exc ℕ)
    (new : ℕ) : Except Exc (List String) := do
  let limit ← positiveLimit row name
  if limit = 0 then return []
  else
    let count ← count
    require ((count + new : ℤ) ≤ limit) (violation
      (scope ++ " would exceed " ++ name ++ " " ++ toString limit ++ " (" ++ toString count ++
        counted ++ " + " ++ toString new ++ " new)"))
    return [name]

/-- One row in the sum of the open BUYs. -/
def addBuy (sum : ℚ) (row : Report) : Except Exc ℚ :=
  match row.side with
  | .other _ => .error (unavailable (v.symbol ++ " open order has missing or invalid side"))
  | .sell => .ok sum
  | .buy =>
    match row.origQty with
    | .num q =>
      if 0 ≤ q then .ok (sum + q)
      else .error (unavailable (v.symbol ++ " open BUY quantity is invalid"))
    | .nonFinite => .error (unavailable (v.symbol ++ " open BUY quantity is invalid"))
    | _ => .error (unavailable (v.symbol ++ " open BUY quantity is malformed"))

/-- The quantity of the open BUYs. -/
def openBuy (rows : List Report) : Except Exc ℚ := rows.foldlM v.addBuy 0

/-- `MAX_POSITION` -/
def checkPosition (legs : List OrderLeg) (symbolOrders : List Report) : Except Exc (List String) :=
  match v.filters.maxPosition with
  | none => return []
  | some row =>
    if incomingBuy legs ≤ 0 then return []
    else do
      let maxPosition ← (match row with
        | .num q => if 0 < q then .ok q
          else .error (unavailable (v.symbol ++ " MAX_POSITION maximum is invalid"))
        | .nonFinite => .error (unavailable (v.symbol ++ " MAX_POSITION maximum is invalid"))
        | _ => .error (unavailable
          (v.symbol ++ " MAX_POSITION maximum is missing or malformed")))
      let provider ← (match v.providers.account with
        | none => .error (unavailable
          ("account provider is required for " ++ v.symbol ++ " MAX_POSITION"))
        | some provider => .ok provider)
      let account ← (match provider with
        | .error e => .error (unavailable
          ("account balance enumeration failed for " ++ v.symbol ++ ": " ++ e.text))
        | .ok account => .ok account)
      let balance ← baseBalance account v.entry.baseAsset
      let open_ ← v.openBuy symbolOrders
      let incoming := incomingBuy legs
      require (balance + open_ + incoming ≤ maxPosition) (violation
        (v.symbol ++ " would exceed MAX_POSITION " ++ v.str maxPosition ++ " (" ++ v.str balance ++
          " balance + " ++ v.str open_ ++ " open BUY + " ++ v.str incoming ++ " new BUY)"))
      return ["MAX_POSITION"]

/-- The open lists that are counted: one less, if the request replaces a list. -/
def effectiveLists {α : Type} (lists : List α) : ℕ :=
  lists.length - if v.replacingOrderList then 1 else 0

/-- The capacity for order lists. -/
def checkLists : Except Exc (List String) :=
  if !v.endpoint.isOrderList then return []
  else do
    let row := v.filters.maxNumOrderLists
    let exchangeRow := v.exchangeFilters.exchangeMaxNumOrderLists
    let limit ← positiveLimit row "MAX_NUM_ORDER_LISTS"
    let exchangeLimit ← positiveLimit exchangeRow "EXCHANGE_MAX_NUM_ORDER_LISTS"
    if limit = 0 ∧ exchangeLimit = 0 then return []
    else
      match v.providers.openOrderLists with
      | none => .error (unavailable "open order-list provider is required for order-list filters")
      | some provider => do
        let lists ← enumerated provider "open order-list"
        require (limit = 0 ∨ ∀ l ∈ lists, l.symbol ≠ "") (unavailable
          "open order-list row lacks symbol for symbol-scoped filter")
        let own := lists.filter (·.symbol = v.symbol)
        let names ← checkCount row "MAX_NUM_ORDER_LISTS" v.symbol " effective open"
          (.ok (v.effectiveLists own)) 1
        let exchangeNames ← checkCount exchangeRow "EXCHANGE_MAX_NUM_ORDER_LISTS" "account"
          " effective open" (.ok (v.effectiveLists lists)) 1
        return names ++ exchangeNames

/-- `validate_replacement` after the check of the legs. -/
def checkCapacity (legs : List OrderLeg) : Except Exc (List String) := do
  let (allOrders, symbolOrders) ← v.openOrders legs
  let symbolOrders := v.effective symbolOrders
  let allOrders := v.effective allOrders
  let orders ← checkCount v.filters.maxNumOrders "MAX_NUM_ORDERS" v.symbol " effective open"
    (.ok symbolOrders.length) legs.length
  let algo ← checkCount v.filters.maxNumAlgoOrders "MAX_NUM_ALGO_ORDERS" v.symbol " open"
    (algoOrderCount symbolOrders (v.symbol ++ " open-order")) (newAlgo legs)
  let position ← v.checkPosition legs symbolOrders
  let exchangeOrders ← checkCount v.exchangeFilters.exchangeMaxNumOrders "EXCHANGE_MAX_NUM_ORDERS"
    "account" " effective open" (.ok allOrders.length) legs.length
  let exchangeAlgo ← checkCount v.exchangeFilters.exchangeMaxNumAlgoOrders
    "EXCHANGE_MAX_NUM_ALGO_ORDERS" "account" " open"
    (algoOrderCount allOrders "account-wide open-order") (newAlgo legs)
  let lists ← v.checkLists
  return orders ++ algo ++ position ++ exchangeOrders ++ exchangeAlgo ++ lists

end Validation

structure Summary where
  symbol : Symbol
  endpoint : Endpoint
  legs : ℕ
  referencePrice : Option ℚ
  executionReferencePrice : Option ℚ
  executionRule : Option PriceRange
  filtersChecked : List String
  deriving DecidableEq, Repr

/-- `SpotFilterValidator.validate_replacement`, of the snapshot that it goes by. -/
def validateReplacement (v : Validation) : Except Exc Summary := do
  v.checkEntry
  let legs ← legsFromRequest v.endpoint v.request
  let checks ← v.legChecks legs
  legs.forM checks.checkLeg
  let names ← v.checkCapacity legs
  return {
    symbol := v.symbol
    endpoint := v.endpoint
    legs := legs.length
    referencePrice := checks.reference
    executionReferencePrice := checks.official
    executionRule := checks.range
    filtersChecked := v.checkedNames checks.range ++ names }

/-- The replacement of a position by a take profit and a trailing stop, under every kind of
filter. -/
def sampleValidation : Validation where
  symbol := "BTCUSDT"
  endpoint := .orderListOco
  request := .ofParams {
    symbol := "BTCUSDT"
    quantity := some (1 / 10)
    aboveType := some .limitMaker
    abovePrice := some 112
    belowType := some .stopLossLimit
    belowPrice := some 109
    belowTrailingDelta := some 40 }
  entry := {
    symbol := "BTCUSDT"
    status := "TRADING"
    isSpotTradingAllowed := true
    baseAsset := "BTC"
    quoteAsset := "USDT"
    otoAllowed := true
    ocoAllowed := true
    allowTrailingStop := true
    filters := {
      priceFilter := some { tickSize := .num (1 / 10), minPrice := .num (1 / 10) }
      lotSize := some { stepSize := .num (1 / 1000), minQty := .num (1 / 1000), maxQty := .num 10 }
      notional := some { minNotional := .num 5, maxNotional := .num 9000 }
      trailingDelta := some { minTrailingBelowDelta := .int 10, maxTrailingBelowDelta := .int 2000 }
      percentPriceBySide := some {
        askMultiplierUp := .num 5
        askMultiplierDown := .num (1 / 5)
        avgPriceMins := .int 5 }
      maxNumOrders := some (.int 200)
      maxNumAlgoOrders := some (.int 5)
      maxNumOrderLists := some (.int 2)
      maxPosition := some (.num 3) } }
  data := {
    referencePrice := .ok .noReferencePrice
    avgPrice := .ok (.num 110)
    tickerPrice := .ok (.num 111)
    executionRules := .ok (.ok [{
      symbol := "BTCUSDT"
      rules := .ok [{ ruleType := "PRICE_RANGE", askLimitMultUp := .num 2 }] }]) }
  providers := { openOrders := some (.ok (.ok [])), openOrderLists := some (.ok (.ok [])) }
  str := toString

end SpotSidecar.Filters
