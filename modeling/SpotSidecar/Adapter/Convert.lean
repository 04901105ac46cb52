import SpotSidecar.Adapter.Entry

/-! Replacing the protection of a position. -/
namespace SpotSidecar
open Interaction

structure ConvertArgs where
  mode : ProtectionMode
  breakEven : Bool := false
  lockProfitPct : Option ℚ := none
  trailingDeltaBips : Option ℤ := none
  deriving DecidableEq, Repr

/-- What `convert` has settled before it cancels anything. -/
structure Conversion where
  row : TradeRow
  symbol : Symbol
  pair : Pair
  rules : SymbolRules
  entry : ℚ
  qty : ℚ
  mode : ProtectionMode
  stopPrice : Option ℚ
  endpoint : Endpoint
  params : Params

/-- The lifecycles that `convert` accepts. -/
def Lifecycle.convertible : Lifecycle → Bool
  | .protectionActive | .breakEvenArmed | .profitLocked | .trailingActive => true
  | _ => false

/-- The stop of a break-even or profit-lock conversion. -/
def lockedStopPrice (cfg : Config) (rules : SymbolRules) (entry : ℚ) (lockProfitPct : Option ℚ) :
    Except Exc ℚ := do
  let fee := cfg.settings.feePctPerSide
  let breakEven ← feeAdjustedBreakEven entry fee fee cfg.breakEvenSlippagePct
  let stop := match lockProfitPct with
    | some pct => max breakEven (entry * (1 + |pct| / 100))
    | none => breakEven
  let buffer : ℚ := cfg.settings.limitFillBufferBips / 10000
  return ceilStep (ceilStep stop rules.tick / (1 - buffer)) rules.tick

/-- Whether the conversion asks for a fixed stop above the entry. -/
def ConvertArgs.locked (args : ConvertArgs) : Bool := args.breakEven || args.lockProfitPct.isSome

def stopPriceFor (cfg : Config) (rules : SymbolRules) (entry : ℚ) (args : ConvertArgs) :
    Except Exc (Option ℚ) :=
  if args.locked then (lockedStopPrice cfg rules entry args.lockProfitPct).map some else .ok none

/-- `convert` up to the first preflight. -/
def planConversion (cfg : Config) (symbol : Symbol) (args : ConvertArgs) :
    Asking (Except String Conversion) := do
  let s ← theStore
  let found ← Prog.ofExcept (s.activeTradeForSymbol symbol)
  match found with
  | none => return .error "position not found"
  | some row =>
    let s ← theStore
    if !s.unresolvedIntents.isEmpty then
      return .error "unresolved operation intent; reconcile before changing protection"
    else if !row.lifecycle.convertible then
      return .error "position is not in a confirmed protected lifecycle"
    else
      let active ← call .activePair
      if active.symbol ≠ symbol ∨ active ≠ row.pair then
        return .error "protection belongs to a different active pair"
      else
        let rules ← rulesOf cfg active
        let entry := row.averageEntryPrice.getD 0
        let current ← currentPrice symbol
        let qty := floorStep ((row.protectedQuantity.or row.filledQuantity).getD 0) rules.step
        if entry ≤ 0 ∨ qty ≤ 0 then
          return .error "entry price or protected quantity is unavailable"
        else
          let stopPrice ← Prog.ofExcept (stopPriceFor cfg rules entry args)
          if stopPrice.any fun stop => !(entry < stop && stop < current) then
            return .error "profit-lock stop must be above entry and below current price"
          else
            let mode := if args.locked then .fixedOco else args.mode
            requireModeCapabilities rules mode false
            let (endpoint, params) ← factoryReplacement cfg mode rules qty entry current stopPrice
              args.trailingDeltaBips
            preflight rules endpoint params [row.takeProfitOrderId, row.stopOrderId]
              (truthyId row.orderListId)
            return .ok { row := row, symbol := symbol, pair := active, rules := rules
                         entry := entry, qty := qty, mode := mode, stopPrice := stopPrice
                         endpoint := endpoint, params := params }

/-- The draft of the REPLACE_PROTECTION plan. -/
def planDraft (cfg : Config) (c : Conversion) : IntentDraft where
  intentId := cfg.hash (.request .replaceProtection c.row.tradeId c.params)
  operation := .replaceProtection
  tradeId := c.row.tradeId
  symbol := c.symbol
  endpoint := c.endpoint
  request := c.params
  requestSha256 := cfg.requestHash c.params
  clientOrderId := some (c.params.newClientOrderId.getD "")
  listClientOrderId := some (c.params.listClientOrderId.getD "")

/-- The lifecycle a finished conversion gives to the trade. -/
def ConvertArgs.lifecycle (args : ConvertArgs) (mode : ProtectionMode) : Lifecycle :=
  if args.breakEven then .breakEvenArmed
  else if args.lockProfitPct.isSome then .profitLocked
  else if mode = .fixedOco then .protectionActive
  else .trailingActive

/-- `convert` after the replacement was confirmed: persist its ids. -/
def finishConversion (cfg : Config) (args : ConvertArgs) (c : Conversion) (endpoint : Endpoint)
    (params : Params) (held : ℚ) (id : IntentId) (response : Response) : Acting Verdict := do
  bindIntent id response params
  let ids ← Prog.ofExcept (responseIds response params)
  let stop ← Prog.ofExcept (if endpoint = .order then response.orderId.toId else .ok ids.stop)
  upsert c.row.tradeId c.pair
    { lifecycle := some (args.lifecycle c.mode)
      orderListId := some ids.list
      takeProfitOrderId := some ids.takeProfit
      stopOrderId := some stop
      protectedQuantity := some (some (min held c.qty))
      protectionMode := some (some c.mode)
      trailingDelta := some (some
        ((args.trailingDeltaBips.filter (· ≠ 0)).getD cfg.settings.trailingDeltaBips))
      reconciliationStatus := some "PROTECTION_REPLACED" }
  return (true, "protection changed")

/-- The planned replacement, or a smaller one where less is held than was planned. -/
def replacementFor (cfg : Config) (args : ConvertArgs) (c : Conversion) (held : ℚ) :
    Asking (Endpoint × Params) := do
  if held < c.qty then
    let current ← currentPrice c.symbol
    factoryReplacement cfg c.mode c.rules held c.entry current c.stopPrice args.trailingDeltaBips
  else return (c.endpoint, c.params)

/-- `convert` after the cancel: submit the replacement for what is held. -/
def submitReplacement (cfg : Config) (args : ConvertArgs) (c : Conversion) (planId : IntentId)
    (held : ℚ) : Acting Verdict := do
  let (endpoint, params) ← replacementFor cfg args c held
  preflight c.rules endpoint params [] false
  let submitted ← submitOnce cfg .protection c.row.tradeId c.symbol endpoint params (some planId)
  match submitted.state, submitted.response with
  | .confirmed, some response =>
    finishConversion cfg args c endpoint params held submitted.intentId response
  | .confirmed, none => .raise (.of .attribute "object has no attribute 'get'")
  | _, _ =>
    upsert c.row.tradeId c.pair
      { lifecycle := some .ambiguous
        reconciliationStatus := some "PROTECTION_REPLACEMENT_UNCONFIRMED" }
    return (false, "replacement unconfirmed; no blind second sell: " ++ submitted.detail)

/-- `convert` once the old protection is canceled. -/
def replaceCanceled (cfg : Config) (args : ConvertArgs) (c : Conversion) (planId : IntentId) :
    Acting Verdict := do
  let free ← freeBalance "BTC"
  let held := floorStep free c.rules.step
  if held ≤ 0 then
    let balances ← accountBalances
    if 0 < floorStep (totalOf balances "BTC") c.rules.step then
      return (false, "BTC remains locked after cancellation; replacement plan retained")
    else
      finish planId .aborted (some "position exited during protection cancellation")
      upsert c.row.tradeId c.pair
        { lifecycle := some .exitFilled
          reconciliationStatus := some "EXITED_DURING_PROTECTION_CONVERSION" }
      return (true, "position exited while old protection was canceled; no replacement placed")
  else submitReplacement cfg args c planId held

/-- `convert` from the plan on. -/
def executeConversion (cfg : Config) (args : ConvertArgs) (c : Conversion) : Acting Verdict := do
  let plan := planDraft cfg c
  let isNew ← prepare plan
  if isNew then
    setMemory ({ · with enabled := false })
    setEntries false "protection-conversion-in-progress"
    let (canceled, detail) ← cancelProtection cfg c.row c.symbol
    if canceled then replaceCanceled cfg args c plan.intentId
    else return (false, detail)
  else return (false, "replacement intent already exists")

/-- `convert` -/
def convert (cfg : Config) (symbol : Symbol) (args : ConvertArgs) : Acting Verdict := do
  let planned ← planConversion cfg symbol args
  match planned with
  | .error detail => return (false, detail)
  | .ok c => executeConversion cfg args c

end SpotSidecar
