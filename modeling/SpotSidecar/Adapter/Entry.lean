import SpotSidecar.Adapter.Recovery

/-! Entries: their submission, their expiry and the protection of partial fills. -/
namespace SpotSidecar
open Interaction

/-- `submit` once it is decided what to submit. -/
def submitEntry (cfg : Config) (tradeId : TradeId) (symbol : Symbol) (pair : Pair)
    (endpoint : Endpoint) (params : Params) : Acting Verdict := do
  let now ← call .time
  let s ← theStore
  upsert tradeId pair
    { lifecycle := some .entrySubmitted
      entryClientOrderId := some params.workingClientOrderId
      entrySubmittedAt := some (some now)
      protectionMode := some (some s.data.protectionMode)
      trailingDelta := some (some cfg.settings.trailingDeltaBips)
      reconciliationStatus := some "ENTRY_INTENT_PREPARED" }
  let submitted ← submitOnce cfg .entry tradeId symbol endpoint params none
  match submitted.state, submitted.response with
  | .definiteReject, _ =>
    upsert tradeId pair
      { lifecycle := some .entryRejected
        reconciliationStatus := some "ENTRY_DEFINITELY_REJECTED" }
    return (false, submitted.detail)
  | .confirmed, some response =>
    bindIntent submitted.intentId response params
    return (true, "entry confirmed")
  | .confirmed, none => .raise (.of .attribute "object has no attribute 'get'")
  | _, _ =>
    upsert tradeId pair
      { lifecycle := some .ambiguous
        reconciliationStatus := some "ENTRY_AMBIGUOUS_RECONCILE_REQUIRED" }
    return (false, "entry outcome ambiguous; entries paused and no retry permitted")

/-- The request of an entry, or why there is none. -/
def planEntry (cfg : Config) (symbol : Symbol) (pair : Pair) :
    Asking (Except String (Endpoint × Params)) := do
  let rules ← rulesOf cfg pair
  let quoteFree ← freeBalance rules.quote
  let ask ← bestAsk symbol
  let entry := floorStep ask rules.tick
  let (quantity, requiredQuote) ← configuredEntryQuantity cfg rules entry
  if quoteFree < requiredQuote then return .error "insufficient quote balance"
  else
    let s ← theStore
    let mode := s.data.protectionMode
    requireModeCapabilities rules mode true
    let (endpoint, params) ← factoryEntry cfg mode rules quantity entry
    preflight rules endpoint params [] false
    return .ok (endpoint, params)

/-- `submit` -/
def submit (cfg : Config) (symbol : Symbol) (tradeId : TradeId) : Acting Verdict := do
  let m ← theMemory
  let s ← theStore
  if !m.started || !m.enabled || !s.data.entriesEnabled then
    return (false, "entries are not armed")
  else
    let active ← call .activePair
    if symbol ≠ active.symbol then return (false, "signal symbol is not the active BTC pair")
    else if tradeId = "" then return (false, "trade_id is required for intent-first execution")
    else
      let s ← theStore
      if s.activeTradeRows.any (·.tradeId ≠ tradeId) then
        return (false, "another BTC exposure is nonterminal")
      else if !s.unresolvedIntents.isEmpty then
        return (false, "an operation intent is unresolved")
      else
        let plan ← planEntry cfg symbol active
        match plan with
        | .error detail => return (false, detail)
        | .ok (endpoint, params) => submitEntry cfg tradeId symbol active endpoint params

/-- The open orders or lists of an answer; iterating over anything else raises. -/
def asList (answer : Option (List (Option Ident))) : Asking (List (Option Ident)) :=
  match answer with
  | some items => pure items
  | none => .raise (.of .type "object is not iterable")

/-- `{int(item.get(key, 0) or 0) for item in items if isinstance(item, dict)}` -/
def openIds (items : List (Option Ident)) : Except Exc (List ℤ) :=
  (items.filterMap id).mapM Ident.toInt

/-- `_durable_protection_is_open` -/
def durableProtectionIsOpen (row : TradeRow) (orders lists : List (Option Ident)) :
    Except Exc Bool := do
  let orderIds ← openIds orders
  let listIds ← openIds lists
  let stop := row.stopOrderId.getD 0
  let takeProfit := row.takeProfitOrderId.getD 0
  if row.protectionMode = some .trailingOnly then
    return stop ≠ 0 && stop ∈ orderIds
  else
    let list := row.orderListId.getD 0
    return list ≠ 0 && list ∈ listIds && stop ∈ orderIds && takeProfit ∈ orderIds

/-- Look up the working BUY, by its order id where that is known. -/
def lookupEntry (row : TradeRow) (symbol : Symbol) : Asking Response := do
  let reply ← getOrder symbol (knownId row.entryOrderId) (row.entryClientOrderId.getD "")
  asObject reply

/-- Record what a lookup of the working BUY shows and reread the row. -/
def foldEntry (row : TradeRow) (event : Event) : Folding TradeRow := do
  let _ ← recordAuthenticatedEvent event
  replayTrade row.tradeId
  let s ← theStore
  return (s.trade row.tradeId).getD row

/-- `row.get("average_entry_price") or self._current(symbol)` -/
def entryPriceOf (row : TradeRow) (symbol : Symbol) : Asking ℚ :=
  match row.averageEntryPrice with
  | some price => pure price
  | none => currentPrice symbol

/-- `_place_partial_protection` once the working BUY is terminal: protect what it bought. -/
def protectFilled (cfg : Config) (row : TradeRow) (symbol : Symbol) (pair : Pair)
    (rules : SymbolRules) : Acting Verdict := do
  let held ← freeBalance "BTC"
  let qty := floorStep (min held (row.filledQuantity.getD 0)) rules.step
  if qty ≤ 0 then return (false, "no sellable BTC quantity for partial-fill protection")
  else
    let entryPrice ← entryPriceOf row symbol
    let current ← currentPrice symbol
    let s ← theStore
    let mode := s.data.protectionMode
    requireModeCapabilities rules mode false
    let (endpoint, params) ← factoryReplacement cfg mode rules qty entryPrice current none none
    preflight rules endpoint params [] false
    let submitted ← submitOnce cfg .partialFillProtection row.tradeId symbol endpoint params none
    match submitted.state, submitted.response with
    | .confirmed, some response =>
      bindIntent submitted.intentId response params
      upsert row.tradeId pair { reconciliationStatus := some "PARTIAL_FILL_PROTECTED" }
      return (true, "partial fill protected")
    | .confirmed, none => .raise (.of .attribute "object has no attribute 'get'")
    | _, _ => return (false, "partial-fill protection not confirmed: " ++ submitted.detail)

/-- `any(int(item.get("orderListId", 0) or 0) == int(row.get("order_list_id") or 0))` -/
def listStillOpen (row : TradeRow) : List (Option Ident) → Asking Bool
  | [] => return false
  | none :: _ => .raise (.of .attribute "object has no attribute 'get'")
  | some item :: items => do
    let id ← Prog.ofExcept item.toInt
    if id = row.orderListId.getD 0 then return true else listStillOpen row items

/-- `_rest_event` of an answer that may not be an object. -/
def replyEvent (reply : Reply) (row : TradeRow) : Except Exc (Option Event) :=
  match reply with
  | some entry => restEvent entry.toReport (.ofOption row.orderListId)
  | none => .ok none

/-- `_place_partial_protection`: cancel the entry list and read the final fill. -/
def cancelPartialEntry (cfg : Config) (row : TradeRow) (symbol : Symbol) :
    Acting (Except String TradeRow) := do
  let (canceled, detail) ← cancelEntryList cfg row symbol .cancelPartialEntry
  if canceled then
    -- `int(row["entry_order_id"])` raises where the column is null
    let id ← Prog.ofExcept (Ident.required (.ofOption row.entryOrderId))
    let reply ← getOrder symbol (some id) ""
    let event ← Prog.ofExcept (replyEvent reply row)
    match event, reply with
    | some event, some entry =>
      if entry.terminal then
        let row ← foldEntry row event
        return .ok row
      else return .error "working entry is not terminal after list cancellation"
    | _, _ => return .error "working entry is not terminal after list cancellation"
  else return .error detail

/-- A filled entry whose recorded protection is seen open. -/
def filledAndProtected (row : TradeRow) (entry : Report)
    (orders lists : Option (List (Option Ident))) : Asking Bool := do
  if entry.status = .filled then
    let orders ← asList orders
    let lists ← asList lists
    .ofExcept (durableProtectionIsOpen row orders lists)
  else return false

/-- The statuses of a working BUY that `_place_partial_protection` goes on with. -/
def OrderStatus.recoverable (s : OrderStatus) : Bool :=
  s = .partiallyFilled || s = .canceled || s = .expired || s = .rejected || s = .filled

/-- `_place_partial_protection` once the working BUY is looked up and recorded. -/
def settlePartial (cfg : Config) (row : TradeRow) (entry : Report) (symbol : Symbol)
    (pair : Pair) (rules : SymbolRules) : Acting Verdict := do
  let orders ← call (.openOrders (some symbol))
  let lists ← call .openOrderLists
  let isOpen ← filledAndProtected row entry orders lists
  if isOpen then
    upsert row.tradeId pair
      { lifecycle := some .protectionActive
        reconciliationStatus := some "ENTRY_FILLED_AND_PENDING_PROTECTION_VERIFIED_OPEN" }
    return (true, "entry completed and exchange protection is verified open")
  else if !entry.status.recoverable then
    return (false, "working entry status is not recoverable")
  else
    let lists ← asList lists
    let originalOpen ← listStillOpen row lists
    if originalOpen then
      let canceled ← cancelPartialEntry cfg row symbol
      match canceled with
      | .ok row => protectFilled cfg row symbol pair rules
      | .error detail => return (false, detail)
    else if entry.terminal then protectFilled cfg row symbol pair rules
    else
      return (false, "working BUY is still active while its order list is absent; " ++
        "standalone protection would create a double-sell race")

/-- `_place_partial_protection` -/
def placePartialProtection (cfg : Config) (symbol : Symbol) : Acting Verdict := do
  let s ← theStore
  let found ← Prog.ofExcept (s.activeTradeForSymbol symbol)
  match found with
  | none => return (false, "partial trade record is missing")
  | some row =>
    let active ← call .activePair
    let rules ← rulesOf cfg active
    let entry ← lookupEntry row symbol
    let id ← Prog.ofExcept entry.orderId.toInt
    if id ≠ row.entryOrderId.getD 0 then return (false, "working entry lookup identity mismatch")
    else
      let event ← Prog.ofExcept (restEvent entry.toReport (.ofOption row.orderListId))
      match event with
      | none => return (false, "working entry lookup did not contain a terminal/active status")
      | some event =>
        let row ← foldEntry row event
        settlePartial cfg row entry.toReport symbol active rules

/-- `Decimal(str(order.get("executedQty") or "0"))`, finite and nonnegative -/
def executedQty (order : Report) : Except Exc (Option ℚ) :=
  order.executedQty.decimalOrZero.map fun q => q.filter (0 ≤ ·)

/-- `_expire_stale_entry`: the entry ended with no fill. -/
def rejectUnfilled (row : TradeRow) : Acting Unit := do
  let s ← theStore
  if (s.trade row.tradeId).isSome then
    upsert row.tradeId row.pair
      { lifecycle := some .entryRejected
        reconciliationStatus := some "STALE_ENTRY_CANCELED_WITH_NO_FILL" }

/-- `_expire_stale_entry` once the working BUY is terminal. -/
def settleStale (cfg : Config) (row : TradeRow) (symbol : Symbol) (executed : ℚ)
    (status : OrderStatus) : Acting Verdict := do
  if 0 < executed ∨ status = .filled then
    setMemory fun m => { m with partialRecovery := m.partialRecovery.insert symbol }
    pause "stale-entry-fill-needs-protection"
    placePartialProtection cfg symbol
  else
    rejectUnfilled row
    return (true, "stale unfilled entry canceled and verified terminal")

/-- `_expire_stale_entry`: cancel the entry list and read the final fill. -/
def cancelStaleEntry (cfg : Config) (row : TradeRow) (symbol : Symbol) : Acting Verdict := do
  let (canceled, detail) ← cancelEntryList cfg row symbol .cancelStaleEntry
  if canceled then
    let id ← Prog.ofExcept (Ident.required (.ofOption row.entryOrderId))
    let reply ← getOrder symbol (some id) ""
    let entry ← asObject reply
    if !entry.terminal then
      return (false, "stale working BUY is not terminal after cancellation")
    else
      let event ← Prog.ofExcept (restEvent entry.toReport (.ofOption row.orderListId))
      match event with
      | none => return (false, "terminal stale entry lookup returned no status")
      | some event =>
        let _ ← recordAuthenticatedEvent event
        let executed ← Prog.ofExcept (executedQty entry.toReport)
        match executed with
        | none => return (false, "terminal stale entry quantity is malformed")
        | some executed => settleStale cfg row symbol executed entry.status
  else return (false, detail)

/-- `_expire_stale_entry` for an entry outside its window. -/
def expireLateEntry (cfg : Config) (row : TradeRow) (symbol : Symbol) : Acting Verdict := do
  let entry ← lookupEntry row symbol
  let id ← Prog.ofExcept entry.orderId.toInt
  if id ≠ row.entryOrderId.getD 0 then return (false, "stale entry lookup identity mismatch")
  else
    let event ← Prog.ofExcept (restEvent entry.toReport (.ofOption row.orderListId))
    match event with
    | none => return (false, "stale entry lookup returned no status")
    | some event =>
      let _ ← recordAuthenticatedEvent event
      let executed ← Prog.ofExcept (executedQty entry.toReport)
      match executed with
      | none => return (false, "stale entry executed quantity is malformed")
      | some executed =>
        if entry.terminal then settleStale cfg row symbol executed entry.status
        else cancelStaleEntry cfg row symbol

/-- `_expire_stale_entry` -/
def expireStaleEntry (cfg : Config) (row : TradeRow) : Acting Verdict := do
  match row.entrySubmittedAt with
  | none => return (false, "entry submission time is missing or malformed")
  | some submitted =>
    let now ← call .time
    if now - submitted ≤ cfg.maxEntryOpenSeconds then
      return (true, "entry remains within its bounded open window")
    else expireLateEntry cfg row row.pair.symbol

end SpotSidecar
