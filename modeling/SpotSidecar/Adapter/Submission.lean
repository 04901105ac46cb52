import SpotSidecar.Adapter.Queries

/-! The four places where the adapter crosses the boundary to the exchange, each behind an
intent that it has moved from PREPARED to SUBMITTING, and the binding of what came back. -/
namespace SpotSidecar
open Interaction

def upsert (id : TradeId) (pair : Pair) (f : TradeFields) : Acting Unit :=
  .perform (.upsertTrade id pair f)

def prepare (d : IntentDraft) : Acting Bool := .perform (.prepareIntent d)

def markSubmitting (id : IntentId) : Acting Unit := .perform (.markIntentSubmitting id)

def finish (id : IntentId) (state : IntentState) (error : Option String) : Acting Unit :=
  .perform (.finishIntent id state .null .null error)

/-- `finish_intent` with the ids of an answer. -/
def finishWith (id : IntentId) (state : IntentState) (r : Response) (error : Option String) :
    Acting Unit :=
  .perform (.finishIntent id state (r.orderId.getD .null) (r.orderListId.getD .null) error)

def post (p : Post) : Acting Reply := .perform (.post p)

/-- `_intent_request` -/
def intentRequest (cfg : Config) (i : Intent) : Asking Params := do
  .ensure (cfg.requestHash i.request = i.requestSha256)
    (.of .runtime "durable intent request hash mismatch")
  return i.request

/-- What a submission ends with: a state, the answer if there is one, and a detail. -/
structure Submitted where
  state : IntentState
  response : Option Response := none
  detail : String := ""
  intentId : IntentId

def submissionDraft (cfg : Config) (operation : Operation) (tradeId : TradeId) (symbol : Symbol)
    (endpoint : Endpoint) (params : Params) (parent : Option IntentId) : IntentDraft :=
  let listClientId := params.listClientOrderId.getD ""
  let clientId := firstText [params.newClientOrderId, params.workingClientOrderId]
  { intentId := cfg.hash (.submission operation tradeId symbol endpoint listClientId clientId)
    operation := operation
    tradeId := tradeId
    symbol := symbol
    endpoint := endpoint
    request := params
    requestSha256 := cfg.requestHash params
    clientOrderId := some clientId
    listClientOrderId := some listClientId
    parentIntentId := parent
    closeParentIntentId := parent }

def ambiguousPause : String := "ambiguous-order-submission-reconcile-required"

/-- The answer that settles a raised POST: the lookup found the order. -/
def Reply.landed : Reply → Option Response
  | some r => if r.orderListId.truthy || r.orderId.truthy then some r else none
  | none => none

/-- An answer without an identifier is looked up once more. -/
def identifiedAnswer (endpoint : Endpoint) (symbol : Symbol) (params : Params)
    (answer : Response) : Asking Response := do
  if (answer.identifier endpoint).truthy then return answer
  else
    let found ← lookup endpoint symbol params
    return found.getD answer

/-- `_submit_once` after the answer of the POST. -/
def concludeSubmission (endpoint : Endpoint) (symbol : Symbol) (params : Params) (id : IntentId)
    (answer : Response) : Acting Submitted := do
  let response ← identifiedAnswer endpoint symbol params answer
  if (response.identifier endpoint).truthy then
    finishWith id .confirmed response none
    return { state := .confirmed, response := some response, detail := "confirmed", intentId := id }
  else
    finish id .ambiguous (some "malformed success response")
    pause ambiguousPause
    return { state := .ambiguous, detail := "success response had no exchange identifier"
             intentId := id }

/-- `_submit_once` after the POST raised. -/
def recoverSubmission (cfg : Config) (endpoint : Endpoint) (symbol : Symbol) (params : Params)
    (id : IntentId) (e : Exc) : Acting Submitted := do
  let found ← lookup endpoint symbol params
  match Reply.landed found with
  | some response => concludeSubmission endpoint symbol params id response
  | none =>
    let error := cfg.redact e.text
    match classifySubmissionError e with
    | .definiteReject =>
      finish id .definiteReject (some error)
      return { state := .definiteReject, detail := error, intentId := id }
    | .ambiguous =>
      finish id .ambiguous (some error)
      pause ambiguousPause
      return { state := .ambiguous, detail := error, intentId := id }

/-- `_submit_once` -/
def submitOnce (cfg : Config) (operation : Operation) (tradeId : TradeId) (symbol : Symbol)
    (endpoint : Endpoint) (params : Params) (parent : Option IntentId) : Acting Submitted := do
  let draft := submissionDraft cfg operation tradeId symbol endpoint params parent
  let id := draft.intentId
  let isNew ← prepare draft
  if isNew then
    markSubmitting id
    let answer ← (post (.place endpoint params)).attempt
    match answer with
    | .ok reply =>
      let response ← asObject reply
      concludeSubmission endpoint symbol params id response
    | .error e => recoverSubmission cfg endpoint symbol params id e
  else
    let s ← theStore
    match s.intent id with
    | some prior =>
      return { state := prior.state, detail := "existing operation intent", intentId := id }
    | none => .raise (.of .attribute "object has no attribute 'get'")

/-- `_resume_existing_prepared_submission` after the answer of the POST. -/
def concludeResumed (endpoint : Endpoint) (id : IntentId) (response : Response) :
    Acting (IntentState × Option Response) := do
  if (response.identifier endpoint).truthy then
    finishWith id .confirmed response none
    return (.confirmed, some response)
  else
    finish id .ambiguous (some "resumed POST returned no exchange identifier")
    return (.ambiguous, none)

/-- `_resume_existing_prepared_submission` -/
def resumeExistingPreparedSubmission (cfg : Config) (intent : Intent) (request : Params) :
    Acting (IntentState × Option Response) := do
  let id := intent.intentId
  markSubmitting id
  let answer ← (post (.place intent.endpoint request)).attempt
  match answer with
  | .ok reply =>
    let response ← asObject reply
    concludeResumed intent.endpoint id response
  | .error e =>
    let found ← lookup intent.endpoint intent.symbol request
    match Reply.landed found with
    | some response => concludeResumed intent.endpoint id response
    | none =>
      let error := some (cfg.redact e.text)
      match classifySubmissionError e with
      | .definiteReject =>
        finish id .definiteReject error
        return (.definiteReject, none)
      | .ambiguous =>
        finish id .ambiguous error
        return (.ambiguous, none)

/-- `stop_id or (int(response.get("orderId", 0) or 0) or None)` -/
def ResponseIds.stopOr (ids : ResponseIds) (response : Response) : Except Exc (Option ℤ) :=
  match ids.stop with
  | some id => .ok (some id)
  | none => response.orderId.toId

/-- The columns `_bind_confirmed_intent` writes for an operation. -/
def bindFields (intent : Intent) (response : Response) (request : Params) (row : TradeRow)
    (ids : ResponseIds) : Except Exc TradeFields :=
  match intent.operation with
  | .entry => .ok
    { reconciliationStatus := some "ENTRY_INTENT_CONFIRMED_BY_LOOKUP"
      lifecycle := some .entrySubmitted
      orderListId := some ids.list
      entryOrderId := some ids.entry
      takeProfitOrderId := some ids.takeProfit
      stopOrderId := some ids.stop }
  | .protection => protectionFields "PROTECTION_INTENT_CONFIRMED_BY_LOOKUP"
  | .partialFillProtection => protectionFields "PARTIAL_FILL_PROTECTION_INTENT_CONFIRMED_BY_LOOKUP"
  | .emergencyExit => .ok
    { reconciliationStatus := some "EMERGENCY_EXIT_INTENT_CONFIRMED_BY_LOOKUP" }
  | .replaceProtection => .ok
    { reconciliationStatus := some "REPLACE_PROTECTION_INTENT_CONFIRMED_BY_LOOKUP" }
  | .cancelProtection => .ok
    { reconciliationStatus := some "CANCEL_PROTECTION_INTENT_CONFIRMED_BY_LOOKUP" }
  | .cancelPartialEntry => .ok
    { reconciliationStatus := some "CANCEL_PARTIAL_ENTRY_INTENT_CONFIRMED_BY_LOOKUP" }
  | .cancelStaleEntry => .ok
    { reconciliationStatus := some "CANCEL_STALE_ENTRY_INTENT_CONFIRMED_BY_LOOKUP" }
where
  protectionFields (status : String) : Except Exc TradeFields := do
    let mode := requestMode intent.endpoint request
    let quantity := (request.quantity.or request.pendingQuantity).or request.workingQuantity
    let stop ← ids.stopOr response
    return { reconciliationStatus := some status
             lifecycle := some mode.lifecycle
             orderListId := some ids.list
             takeProfitOrderId := some ids.takeProfit
             stopOrderId := some stop
             protectedQuantity := some (some ((quantity.or row.protectedQuantity).getD 0))
             protectionMode := some (some mode)
             trailingDelta :=
               some ((knownId request.trailingDelta).or (knownId request.belowTrailingDelta)) }

/-- `_bind_confirmed_intent` -/
def bindConfirmedIntent (intent : Intent) (response : Response) (request : Params) :
    Acting Unit := do
  let s ← theStore
  match s.trade intent.tradeId with
  | none => return ()
  | some row =>
    let ids ← Prog.ofExcept (responseIds response request)
    let fields ← Prog.ofExcept (bindFields intent response request row ids)
    upsert intent.tradeId row.pair fields
    recordResponseEvents response (.ofOption ids.list)
    replayTrade intent.tradeId

/-- `_bind_confirmed_intent(state_store.intent(intent_id), ...)` -/
def bindIntent (id : IntentId) (response : Response) (request : Params) : Acting Unit := do
  let s ← theStore
  match s.intent id with
  | some intent => bindConfirmedIntent intent response request
  | none => .raise (.of .attribute "object has no attribute 'get'")

abbrev Verdict := Bool × String

/-- The draft of `_cancel_entry_list` -/
def cancelEntryDraft (cfg : Config) (row : TradeRow) (symbol : Symbol) (operation : Operation)
    (listId : ℤ) : IntentDraft :=
  let request : Params := { symbol := symbol, orderListId := some listId }
  { intentId := cfg.hash (.request operation row.tradeId request)
    operation := operation
    tradeId := row.tradeId
    symbol := symbol
    endpoint := .deleteOrderList
    request := request
    requestSha256 := cfg.requestHash request }

/-- `_cancel_entry_list` -/
def cancelEntryList (cfg : Config) (row : TradeRow) (symbol : Symbol) (operation : Operation) :
    Acting Verdict := do
  match knownId row.orderListId with
  | none => return (true, "entry list is already absent")
  | some listId =>
    let draft := cancelEntryDraft cfg row symbol operation listId
    let id := draft.intentId
    let isNew ← prepare draft
    if isNew then
      markSubmitting id
      let answer ← (post (.cancelOrderList symbol listId)).attempt
      match answer with
      | .error e =>
        finish id .ambiguous (some (cfg.redact e.text))
        return (false, "entry-list cancellation outcome is ambiguous")
      | .ok none =>
        finish id .ambiguous (some "cancel response did not prove ALL_DONE")
        return (false, "entry-list cancellation response was not terminal")
      | .ok (some response) =>
        if response.terminalList then
          .perform (.finishIntent id .confirmed .null (response.orderListId.getD .null) none)
          return (true, "partially-filled entry list canceled")
        else
          finish id .ambiguous (some "cancel response did not prove ALL_DONE")
          return (false, "entry-list cancellation response was not terminal")
    else
      let s ← theStore
      if (s.intent id).any (·.state = .confirmed) then
        return (true, "entry-list cancellation was already confirmed")
      else return (false, "entry-list cancellation remains unresolved")

/-- The object a row records as its protection, as `_cancel_protection` reads it: a list,
else a standalone order. -/
inductive Protection where
  | list (id : ℤ)
  | order (id : ℤ)
  deriving DecidableEq, Repr

def TradeRow.protection (row : TradeRow) : Option Protection :=
  match knownId row.orderListId, knownId row.stopOrderId with
  | some id, _ => some (.list id)
  | none, some id => some (.order id)
  | none, none => none

namespace Protection

def endpoint : Protection → Endpoint
  | .list _ => .deleteOrderList
  | .order _ => .deleteOrder

def cancel (symbol : Symbol) : Protection → Post
  | .list id => .cancelOrderList symbol id
  | .order id => .cancelOrder symbol id

def lookup (symbol : Symbol) : Protection → Asking Reply
  | .list id => getOrderList (some id) ""
  | .order id => getOrder symbol (some id) ""

/-- Whether an answer names the object and shows it terminal. -/
def shownTerminal (r : Response) : Protection → Except Exc Bool
  | .list id => r.orderListId.toInt.map fun n => n = id && r.terminalList
  | .order id => r.orderId.toInt.map fun n => n = id && r.terminal

end Protection

/-- The draft of `_cancel_protection` -/
def cancelProtectionDraft (cfg : Config) (row : TradeRow) (symbol : Symbol) (p : Protection) :
    IntentDraft :=
  let request : Params :=
    { symbol := symbol, orderListId := row.orderListId, orderId := row.stopOrderId }
  { intentId := cfg.hash (.request .cancelProtection row.tradeId request)
    operation := .cancelProtection
    tradeId := row.tradeId
    symbol := symbol
    endpoint := p.endpoint
    request := request
    requestSha256 := cfg.requestHash request }

/-- `_cancel_protection` after the cancel was answered. -/
def concludeCancel (p : Protection) (id : IntentId) (response : Response) : Acting Verdict := do
  let valid ← Prog.ofExcept (p.shownTerminal response)
  if valid then
    finishWith id .confirmed response none
    return (true, "old protection canceled")
  else
    finish id .ambiguous (some "cancel response identity/status was not terminal")
    return (false, "cancel response did not prove requested order terminal")

/-- Whether a fresh lookup shows the protection terminal. -/
def Protection.observe (symbol : Symbol) (p : Protection) : Asking Bool := do
  let reply ← p.lookup symbol
  let observed ← asObject reply
  .ofExcept (p.shownTerminal observed)

/-- `_cancel_protection` where the cancel intent exists: a fresh lookup, and no second cancel. -/
def reobserveCancel (symbol : Symbol) (p : Protection) (id : IntentId) : Asking Verdict := do
  let unproven := (false, "cancel intent already exists but terminal exchange state is unproven")
  let s ← theStore
  if (s.intent id).any (·.state = .confirmed) then
    let shown ← (p.observe symbol).attempt
    match shown with
    | .ok true => return (true, "old protection cancellation already confirmed")
    | _ => return unproven
  else return unproven

/-- `_cancel_protection` -/
def cancelProtection (cfg : Config) (row : TradeRow) (symbol : Symbol) : Acting Verdict := do
  match row.protection with
  | none => return (false, "no recorded protection identifier")
  | some p =>
    let draft := cancelProtectionDraft cfg row symbol p
    let id := draft.intentId
    let isNew ← prepare draft
    if isNew then
      markSubmitting id
      let answer ← (post (p.cancel symbol)).attempt
      match answer with
      | .error e =>
        finish id .ambiguous (some (cfg.redact e.text))
        return (false, "cancel outcome is ambiguous; replacement blocked")
      | .ok none =>
        finish id .ambiguous (some "cancel response is not an object")
        return (false, "cancel response did not prove terminal identity")
      | .ok (some response) => concludeCancel p id response
    else reobserveCancel symbol p id

end SpotSidecar
