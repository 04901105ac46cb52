import SpotSidecar.Adapter.Reconcile

/-! The emergency exit. -/
namespace SpotSidecar
open Interaction

/-- What `emergency_exit` reports. -/
structure ExitReport where
  ok : Bool
  stage : String
  haltPersisted : Bool := true
  submitted : Bool := false
  detail : String
  deriving DecidableEq, Repr

/-- What `emergency_exit` has settled before it submits. -/
structure ExitPlan where
  row : TradeRow
  symbol : Symbol
  pair : Pair
  rules : SymbolRules
  recorded : ℚ
  freeBefore : ℚ
  qty : ℚ

/-- The immediate-or-cancel SELL of `emergency_exit`. -/
def exitRequest (symbol : Symbol) (qty price : ℚ) (client : ClientId) : Params where
  symbol := symbol
  side := some .sell
  type := some .limit
  timeInForce := some "IOC"
  quantity := some qty
  price := some price
  newClientOrderId := some client

/-- `emergency_exit`: the terminal lookup of the submitted order. -/
def readExit (symbol : Symbol) (response : Response) : Folding (Option ℚ) := do
  let id ← Prog.ofExcept response.orderId.toInt
  let reply ← getOrder symbol (some id) ""
  let order ← asObject reply
  let found ← Prog.ofExcept order.orderId.toInt
  .ensure (found = id) (.of .runtime "emergency order lookup identity mismatch")
  .ensure order.terminal (.of .runtime "emergency IOC is not terminal")
  let _ ← recordRestEvent order.toReport .null
  Prog.ofExcept order.executedQty.decimalOrZero

/-- Whether `emergency_exit` takes its sale for the whole position. -/
def exitVerified (plan : ExitPlan) (executed accountFree : ℚ) : Bool :=
  floorStep (max 0 (plan.recorded - executed)) plan.rules.step < plan.rules.minQty &&
    executed ≤ plan.freeBefore - accountFree + plan.rules.step

/-- `emergency_exit` after its order was confirmed. -/
def verifyExit (plan : ExitPlan) (response : Response) : Acting ExitReport := do
  let result ← (readExit plan.symbol response).attempt
  match result with
  | .error _ =>
    return { ok := false, stage := "terminal-status-unproven", submitted := true
             detail := "emergency IOC requires reconciliation" }
  | .ok executed =>
    match executed.filter fun q => 0 ≤ q && q ≤ plan.qty with
    | none =>
      return { ok := false, stage := "malformed-fill", submitted := true
               detail := "emergency IOC fill quantity is invalid" }
    | some executed =>
      let free ← freeBalance "BTC"
      if exitVerified plan executed (floorStep free plan.rules.step) then
        upsert plan.row.tradeId plan.pair
          { lifecycle := some .exitFilled
            reconciliationStatus := some "EMERGENCY_EXIT_VERIFIED" }
        return { ok := true, stage := "verified-exit", submitted := true
                 detail := "emergency exit verified" }
      else
        return { ok := false, stage := "partial-or-unfilled", submitted := true
                 detail := "IOC did not fully exit; reconcile and take manual action" }

/-- `emergency_exit` from the price on. -/
def sellOut (cfg : Config) (plan : ExitPlan) : Acting ExitReport := do
  let bid ← bestBid plan.symbol
  let price := floorStep (bid * (99 / 100)) plan.rules.tick
  let client ← call (.newClientId "EMERGENCY")
  let params := exitRequest plan.symbol plan.qty price client
  preflight plan.rules .order params [] false
  let submitted ← submitOnce cfg .emergencyExit plan.row.tradeId plan.symbol .order params none
  match submitted.state, submitted.response with
  | .confirmed, some response =>
    bindIntent submitted.intentId response params
    verifyExit plan response
  | .confirmed, none => .raise (.of .attribute "object has no attribute 'get'")
  | _, _ => return { ok := false, stage := "submit-unconfirmed", detail := submitted.detail }

/-- `emergency_exit` once the protection is canceled. -/
def exitCanceled (cfg : Config) (row : TradeRow) (symbol : Symbol) : Acting ExitReport := do
  let active ← call .activePair
  let rules ← rulesOf cfg active
  if row.filledQuantity.getD 0 < 0 ∨ row.protectedQuantity.getD 0 < 0 then
    return { ok := false, stage := "malformed-state"
             detail := "durable BTC ownership quantity is malformed" }
  else
    let free ← freeBalance "BTC"
    let freeBefore := floorStep free rules.step
    let qty := floorStep (min freeBefore row.recorded) rules.step
    if qty ≤ 0 then
      return { ok := false, stage := "nothing-to-sell"
               detail := "no sellable BTC after protection cancellation" }
    else
      sellOut cfg
        { row := row, symbol := symbol, pair := active, rules := rules
          recorded := row.recorded, freeBefore := freeBefore, qty := qty }

/-- `emergency_exit` -/
def emergencyExit (cfg : Config) (symbol : Symbol) : Acting ExitReport := do
  let s ← theStore
  let found ← Prog.ofExcept (s.activeTradeForSymbol symbol)
  match found with
  | none =>
    return { ok := false, stage := "not-found", haltPersisted := false
             detail := "no nonterminal BTC position" }
  | some row =>
    pause "manual-emergency-exit"
    let (canceled, detail) ← cancelProtection cfg row symbol
    if canceled then exitCanceled cfg row symbol
    else return { ok := false, stage := "cancel-ambiguous", detail := detail }

end SpotSidecar
