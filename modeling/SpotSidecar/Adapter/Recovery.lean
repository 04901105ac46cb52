import SpotSidecar.Adapter.Submission

/-! Recovery of intents that an earlier process left unresolved. -/
namespace SpotSidecar
open Interaction

/-- Give the trade the lifecycle of the protection that recovery has confirmed. -/
def recordRecovered (tradeId : TradeId) (pair : Pair) (mode : ProtectionMode) (status : String) :
    Acting Unit :=
  upsert tradeId pair
    { lifecycle := some mode.lifecycle
      protectionMode := some (some mode)
      reconciliationStatus := some status }

/-- Bind a resumed submission that was confirmed. -/
def bindRecovered (state : IntentState) (response : Option Response) (id : IntentId)
    (tradeId : TradeId) (pair : Pair) (mode : ProtectionMode) (request : Params)
    (status : String) : Acting Unit :=
  match state, response with
  | .confirmed, some response => do
    bindIntent id response request
    recordRecovered tradeId pair mode status
  | _, _ => pure ()

/-- Whether a fresh lookup shows the object of a cancel intent terminal. -/
def cancelLooksTerminal (symbol : Symbol) (endpoint : Endpoint) (request : Params) :
    Asking Bool := do
  if endpoint = .deleteOrderList then
    let reply ← getOrderList request.orderListId ""
    let terminal ← asObject reply
    return terminal.terminalList
  else
    let reply ← getOrder symbol request.orderId ""
    let terminal ← asObject reply
    return terminal.terminal

/-- Look up what an intent placed, by its client ids. -/
def lookupPlaced (i : Intent) (symbol : Symbol) : Asking Reply :=
  if i.endpoint.isOrderList then getOrderList none (i.listClientOrderId.getD "")
  else getOrder symbol none (i.clientOrderId.getD "")

/-- Close a replacement plan. -/
def closePlan (plan : Intent) (error : String) : Acting Unit :=
  finish plan.intentId .aborted (some error)

/-- `_resume_prepared_replacement`: the last child of the plan was never submitted. -/
def resumeChild (cfg : Config) (plan : Intent) (row : TradeRow) (rules : SymbolRules)
    (child : Intent) : Acting Unit := do
  let request ← intentRequest cfg child
  preflight rules child.endpoint request [] false
  let (state, response) ← resumeExistingPreparedSubmission cfg child request
  bindRecovered state response child.intentId plan.tradeId row.pair
    (requestMode child.endpoint request) request "CRASHED_PREPARED_CHILD_RESUMED_AND_CONFIRMED"
  closePlan plan "prepared replacement child resumed"

/-- `_resume_prepared_replacement`: the last child of the plan is confirmed. -/
def rebindChild (cfg : Config) (plan : Intent) (row : TradeRow) (child : Intent) :
    Acting Unit := do
  let reply ← lookupPlaced child plan.symbol
  let request ← intentRequest cfg child
  let response ← asObject reply
  bindConfirmedIntent child response request
  recordRecovered plan.tradeId row.pair (requestMode child.endpoint request)
    "CRASHED_CONFIRMED_CHILD_REBOUND"
  closePlan plan "replacement child was already confirmed and rebound"

/-- Every price, type and client id of the plan is kept; only the quantity is reduced to
what is free. -/
def plannedRequest (request : Params) (requested held step : ℚ) : Params :=
  if held < floorStep requested step then { request with quantity := some held } else request

/-- `_resume_prepared_replacement`: the plan has no child yet. -/
def submitPlan (cfg : Config) (plan : Intent) (request : Params) (row : TradeRow)
    (rules : SymbolRules) : Acting Bool := do
  let requested := request.quantity.getD 0
  .ensure (0 < requested) (.of .runtime "replacement plan quantity is invalid")
  let free ← freeBalance "BTC"
  let held := floorStep free rules.step
  if held ≤ 0 then
    let balances ← accountBalances
    .ensure (floorStep (totalOf balances "BTC") rules.step ≤ 0)
      (.of .runtime "BTC remains locked while replacement recovery is pending")
    closePlan plan "position exited before crashed replacement could resume"
    upsert plan.tradeId row.pair
      { lifecycle := some .exitFilled
        reconciliationStatus := some "EXIT_VERIFIED_DURING_REPLACEMENT_RECOVERY" }
    return true
  else
    let params := plannedRequest request requested held rules.step
    preflight rules plan.endpoint params [] false
    let submitted ← submitOnce cfg .protection plan.tradeId plan.symbol plan.endpoint params
      (some plan.intentId)
    closePlan plan "replacement plan resumed into child intent"
    bindRecovered submitted.state submitted.response submitted.intentId plan.tradeId row.pair
      (requestMode plan.endpoint request) params "CRASHED_REPLACEMENT_RESUMED_AND_CONFIRMED"
    return true

/-- `_resume_prepared_replacement` once a cancel of the trade is known to be terminal. -/
def resumeAfterCancel (cfg : Config) (plan : Intent) (request : Params) (related : List Intent) :
    Acting Bool := do
  let s ← theStore
  match s.trade plan.tradeId with
  | none => .raise (.of .runtime "replacement plan has no durable trade")
  | some row =>
    let active ← call .activePair
    let rules ← rulesOf cfg active
    match (related.filter (·.parentIntentId = some plan.intentId)).getLast? with
    | none => submitPlan cfg plan request row rules
    | some child =>
      match child.state with
      | .prepared =>
        resumeChild cfg plan row rules child
        return true
      | .confirmed =>
        rebindChild cfg plan row child
        return true
      | .submitting | .ambiguous => return false
      | .definiteReject | .aborted =>
        closePlan plan "replacement child ended; no blind retry"
        return true

/-- `_resume_prepared_replacement`: whether the plan is settled. -/
def resumePreparedReplacement (cfg : Config) (plan : Intent) : Acting Bool := do
  let request ← intentRequest cfg plan
  let s ← theStore
  let related := s.intentsForTrade plan.tradeId
  match (related.filter (·.operation = .cancelProtection)).getLast? with
  | none =>
    closePlan plan "replacement plan ended before any cancel intent was prepared"
    return true
  | some cancel =>
    if cancel.state = .confirmed then
      let cancelRequest ← intentRequest cfg cancel
      let terminal ← cancelLooksTerminal plan.symbol cancel.endpoint cancelRequest
      if terminal then resumeAfterCancel cfg plan request related
      else return false
    else return false

/-- `_resolve_operation_intents`: a prepared replacement that has left its plan. -/
def resolvePreparedChild (cfg : Config) (intent : Intent) (request : Params) : Acting Unit := do
  let s ← theStore
  match s.trade intent.tradeId with
  | none => .raise (.of .runtime "prepared protection child has no durable trade")
  | some row =>
    let rules ← rulesOf cfg row.pair
    preflight rules intent.endpoint request [] false
    let (state, response) ← resumeExistingPreparedSubmission cfg intent request
    bindRecovered state response intent.intentId row.tradeId row.pair
      (requestMode intent.endpoint request) request "PREPARED_REPLACEMENT_CHILD_RESUMED"

/-- `_resolve_operation_intents`: an intent that never reached its POST. -/
def abortPrepared (intent : Intent) : Acting Unit := do
  finish intent.intentId .aborted (some "startup proved POST was never begun")
  if intent.operation = .entry then
    let s ← theStore
    match s.trade intent.tradeId with
    | some row =>
      upsert row.tradeId row.pair
        { lifecycle := some .entryRejected
          reconciliationStatus := some "ENTRY_PREPARED_ABORTED_BEFORE_POST" }
    | none => pure ()

/-- `_resolve_operation_intents`: a cancel whose outcome is unknown. -/
def resolveCancel (intent : Intent) (request : Params) : Acting Unit := do
  let reason := some "cancel terminal state confirmed by GET"
  if intent.endpoint = .deleteOrderList then
    let reply ← getOrderList request.orderListId ""
    let response ← asObject reply
    .ensure response.terminalList (.of .runtime "order-list cancel is not terminal")
    .perform
      (.finishIntent intent.intentId .confirmed .null (response.orderListId.getD .null) reason)
  else
    let reply ← getOrder intent.symbol request.orderId ""
    let response ← asObject reply
    .ensure response.terminal (.of .runtime "order cancel is not terminal")
    .perform (.finishIntent intent.intentId .confirmed (response.orderId.getD .null) .null reason)

/-- `_resolve_operation_intents`: a placement whose outcome is unknown. -/
def resolvePlacement (intent : Intent) (request : Params) : Acting Unit := do
  let reply ← lookupPlaced intent intent.symbol
  match reply with
  | some response =>
    .ensure (response.identifier intent.endpoint).truthy
      (.of .runtime "client-ID lookup returned no exchange identifier")
    finishWith intent.intentId .confirmed response
      (some "confirmed by deterministic client-ID GET")
    bindIntent intent.intentId response request
  | none => .raise (.of .runtime "client-ID lookup returned no exchange identifier")

/-- One intent of `_resolve_operation_intents`: whether it counts as resolved. -/
def resolveIntent (cfg : Config) (intent : Intent) : Acting Bool := do
  let request ← intentRequest cfg intent
  if intent.state = .prepared then
    if intent.operation = .replaceProtection then return false
    else if intent.operation = .protection ∧ intent.parentIntentId.isSome then
      resolvePreparedChild cfg intent request
      return true
    else
      abortPrepared intent
      return true
  else if intent.endpoint = .deleteOrderList ∨ intent.endpoint = .deleteOrder then
    resolveCancel intent request
    return true
  else
    resolvePlacement intent request
    return true

structure Resolution where
  resolved : ℕ
  remaining : ℕ
  errors : List (IntentId × ExcKind)

/-- The errors that a loop over intents has swallowed. -/
def resolutionErrors (intents : List Intent) (answers : List (Except Exc Bool)) :
    List (IntentId × ExcKind) :=
  (intents.zip answers).filterMap fun
    | (i, .error e) => some (i.intentId, e.kind)
    | _ => none

/-- `_resolve_operation_intents` -/
def resolveOperationIntents (cfg : Config) : Acting Resolution := do
  let s ← theStore
  let intents := s.unresolvedIntents
  let answers ← Prog.each (fun i => (resolveIntent cfg i).attempt) intents
  let s ← theStore
  let plans := s.unresolvedIntents.filter fun i =>
    i.state = .prepared && i.operation = .replaceProtection
  let planAnswers ← Prog.each (fun i => (resumePreparedReplacement cfg i).attempt) plans
  let s ← theStore
  return { resolved := ((answers ++ planAnswers).filter fun
             | .ok b => b
             | .error _ => false).length
           remaining := s.unresolvedIntents.length
           errors := resolutionErrors intents answers ++ resolutionErrors plans planAnswers }

end SpotSidecar
