import SpotSidecar.Adapter.Requests
import SpotSidecar.State.Rounding

/-! The legs of a request, as the filter check sees them. -/
namespace SpotSidecar

def OrderType.text : OrderType → String
  | .limit => "LIMIT"
  | .limitMaker => "LIMIT_MAKER"
  | .stopLoss => "STOP_LOSS"
  | .stopLossLimit => "STOP_LOSS_LIMIT"
  | .takeProfit => "TAKE_PROFIT"
  | .takeProfitLimit => "TAKE_PROFIT_LIMIT"
  | .other text => text

namespace Filters

/-- A request with every key that the filter check reads. Prices and quantities are texts, so that
a zero is a price. -/
structure FilterRequest where
  side : Option Side := none
  type : Option OrderType := none
  quantity : Scalar := .absent
  price : Scalar := .absent
  stopPrice : Scalar := .absent
  trailingDelta : Ident := .absent
  workingSide : Option Side := none
  workingType : Option OrderType := none
  workingQuantity : Scalar := .absent
  workingPrice : Scalar := .absent
  pendingSide : Option Side := none
  pendingType : Option OrderType := none
  pendingQuantity : Scalar := .absent
  pendingPrice : Scalar := .absent
  pendingStopPrice : Scalar := .absent
  pendingTrailingDelta : Ident := .absent
  pendingAboveType : Option OrderType := none
  pendingAbovePrice : Scalar := .absent
  pendingBelowType : Option OrderType := none
  pendingBelowPrice : Scalar := .absent
  pendingBelowStopPrice : Scalar := .absent
  pendingBelowTrailingDelta : Ident := .absent
  aboveType : Option OrderType := none
  abovePrice : Scalar := .absent
  belowType : Option OrderType := none
  belowPrice : Scalar := .absent
  belowStopPrice : Scalar := .absent
  belowTrailingDelta : Ident := .absent
  deriving DecidableEq, Repr

def ofNumber : Option ℚ → Scalar
  | some q => .num q
  | none => .absent

def ofDelta : Option ℤ → Ident
  | some n => .int n
  | none => .absent

/-- A request of the order factory. -/
def FilterRequest.ofParams (p : Params) : FilterRequest where
  side := p.side
  type := p.type
  quantity := ofNumber p.quantity
  price := ofNumber p.price
  trailingDelta := ofDelta p.trailingDelta
  workingSide := p.workingSide
  workingType := p.workingType
  workingQuantity := ofNumber p.workingQuantity
  workingPrice := ofNumber p.workingPrice
  pendingSide := p.pendingSide
  pendingType := p.pendingType
  pendingQuantity := ofNumber p.pendingQuantity
  pendingPrice := ofNumber p.pendingPrice
  pendingTrailingDelta := ofDelta p.pendingTrailingDelta
  pendingAboveType := p.pendingAboveType
  pendingAbovePrice := ofNumber p.pendingAbovePrice
  pendingBelowType := p.pendingBelowType
  pendingBelowPrice := ofNumber p.pendingBelowPrice
  pendingBelowStopPrice := ofNumber p.pendingBelowStopPrice
  pendingBelowTrailingDelta := ofDelta p.pendingBelowTrailingDelta
  aboveType := p.aboveType
  abovePrice := ofNumber p.abovePrice
  belowType := p.belowType
  belowPrice := ofNumber p.belowPrice
  belowStopPrice := ofNumber p.belowStopPrice
  belowTrailingDelta := ofDelta p.belowTrailingDelta

structure OrderLeg where
  side : Side
  orderType : OrderType
  qty : ℚ
  price : Option ℚ := none
  stopPrice : Option ℚ := none
  trailingDelta : Option ℤ := none
  deriving DecidableEq, Repr

/-- `ALGO_ORDER_TYPES` -/
def isAlgoType : OrderType → Bool
  | .stopLoss | .stopLossLimit | .takeProfit | .takeProfitLimit => true
  | _ => false

namespace OrderLeg
variable (leg : OrderLeg)

def isAlgo : Bool := isAlgoType leg.orderType

/-- The prices that are given, the limit price first. -/
def prices : List ℚ := [leg.price, leg.stopPrice].reduceOption

/-- `leg.price or leg.stop_price` -/
def notionalPrice : Option ℚ := (leg.price.filter (· ≠ 0)).or leg.stopPrice

end OrderLeg

/-- `Decimal(str(params[key]))` -/
def requiredDecimal (field : Scalar) (key : String) : Except Exc ℚ :=
  match field with
  | .num q => .ok q
  | .absent => .error (.of .key key)
  | _ => .error (.of .arithmetic "invalid decimal")

/-- `Decimal(str(params[key])) if params.get(key) else None` -/
def optionalDecimal : Scalar → Except Exc (Option ℚ)
  | .num q => .ok (some q)
  | .nonFinite | .bad => .error (.of .arithmetic "invalid decimal")
  | _ => .ok none

/-- `int(params[key]) if params.get(key) is not None else None` -/
def optionalDelta : Ident → Except Exc (Option ℤ)
  | .int n => .ok (some n)
  | .bad => .error (.of .value "invalid literal for int()")
  | _ => .ok none

/-- `legs_from_request`; what is no other endpoint is taken for an OCO. -/
def legsFromRequest (endpoint : Endpoint) (r : FilterRequest) : Except Exc (List OrderLeg) :=
  match endpoint with
  | .order => do
    let qty ← requiredDecimal r.quantity "quantity"
    let price ← optionalDecimal r.price
    let stopPrice ← optionalDecimal r.stopPrice
    let trailingDelta ← optionalDelta r.trailingDelta
    return [{
      side := r.side.getD .sell
      orderType := r.type.getD .stopLossLimit
      qty, price, stopPrice, trailingDelta }]
  | .orderListOto => do
    let working ← workingLeg r
    let qty ← requiredDecimal r.pendingQuantity "pendingQuantity"
    let price ← optionalDecimal r.pendingPrice
    let stopPrice ← optionalDecimal r.pendingStopPrice
    let trailingDelta ← optionalDelta r.pendingTrailingDelta
    return [working, {
      side := r.pendingSide.getD .sell
      orderType := r.pendingType.getD .stopLossLimit
      qty, price, stopPrice, trailingDelta }]
  | .orderListOtoco => do
    let working ← workingLeg r
    let qty ← requiredDecimal r.pendingQuantity "pendingQuantity"
    let above ← optionalDecimal r.pendingAbovePrice
    let price ← optionalDecimal r.pendingBelowPrice
    let stopPrice ← optionalDecimal r.pendingBelowStopPrice
    let trailingDelta ← optionalDelta r.pendingBelowTrailingDelta
    return [working,
      { side := r.pendingSide.getD .sell
        orderType := r.pendingAboveType.getD .limitMaker
        qty, price := above },
      { side := r.pendingSide.getD .sell
        orderType := r.pendingBelowType.getD .stopLossLimit
        qty, price, stopPrice, trailingDelta }]
  | _ => do
    let qty ← requiredDecimal r.quantity "quantity"
    let above ← optionalDecimal r.abovePrice
    let price ← optionalDecimal r.belowPrice
    let stopPrice ← optionalDecimal r.belowStopPrice
    let trailingDelta ← optionalDelta r.belowTrailingDelta
    return [
      { side := .sell, orderType := r.aboveType.getD .limitMaker, qty, price := above },
      { side := .sell
        orderType := r.belowType.getD .stopLossLimit
        qty, price, stopPrice, trailingDelta }]
where
  workingLeg (r : FilterRequest) : Except Exc OrderLeg := do
    let qty ← requiredDecimal r.workingQuantity "workingQuantity"
    let price ← optionalDecimal r.workingPrice
    return {
      side := r.workingSide.getD .buy
      orderType := r.workingType.getD .limit
      qty, price }

end Filters
end SpotSidecar
