import Mathlib.Data.Rat.Floor
import Mathlib.Tactic.Linarith
import SpotSidecar.Collections.Checks

/-! Values that cross the gateway boundary. Decimals are exact rationals; a text that
the source upper-cases before comparing is the constructor it is compared with. -/
namespace SpotSidecar

/-- What comes before the last element of a prefix, by its position. -/
theorem prefix_concat {α : Type} {before l : List α} {a : α} (h : before ++ [a] <+: l) :
    ∃ n < l.length, before = l.take n ∧ l[n]? = some a := by
  obtain ⟨after, rfl⟩ := h
  refine ⟨before.length, ?_, ?_, ?_⟩
  · simp
  · simp
  · simp

abbrev Symbol := String
abbrev Asset := String
abbrev TradeId := String
abbrev ClientId := String

/-- A truncated SHA-256 digest. -/
abbrev IntentId := ℕ

structure Pair where
  base : Asset
  quote : Asset
  deriving DecidableEq, Repr

/-- `pair.replace("/", "")` -/
def Pair.symbol (p : Pair) : Symbol := p.base ++ p.quote

inductive ProtectionMode where
  | fixedOco
  | trailingOnly
  | ocoTrailing
  deriving DecidableEq, Repr

/-- The exception classes that some handler of the source tells apart. -/
inductive ExcKind where
  | value
  | type
  | key
  | attribute
  | arithmetic
  | runtime
  | requests
  | binanceOrder
  | binanceApi
  deriving DecidableEq, Repr

/-- An identifier field of a decoded object; `bad` is any value `int()` rejects. -/
inductive Ident where
  | absent
  | null
  | int (n : ℤ)
  | bad
  deriving DecidableEq, Repr

structure Exc where
  kind : ExcKind
  text : String := ""
  statusCode : Ident := .null
  code : Ident := .null
  deriving DecidableEq, Repr

namespace Ident

/-- Truth value of the field. -/
def truthy : Ident → Bool
  | .int n => n != 0
  | .bad => true
  | _ => false

/-- `int(value or 0)` -/
def toInt : Ident → Except Exc ℤ
  | .int n => .ok n
  | .bad => .error { kind := .value, text := "invalid literal for int()" }
  | _ => .ok 0

/-- `int(value or 0) or None` -/
def toId (i : Ident) : Except Exc (Option ℤ) :=
  i.toInt.map fun n => if n = 0 then none else some n

/-- `int(item[key])` -/
def required : Ident → Except Exc ℤ
  | .int n => .ok n
  | .absent => .error { kind := .key }
  | .null => .error { kind := .type }
  | .bad => .error { kind := .value }

/-- The value as a SQLite parameter: an integer, or nothing an integer column equals. -/
def column : Ident → Option ℤ
  | .int n => some n
  | _ => none

def ofOption : Option ℤ → Ident
  | some n => .int n
  | none => .null

/-- `mapping.get(key, default)` -/
def getD (i : Ident) (default : Ident) : Ident :=
  match i with
  | .absent => default
  | i => i

end Ident

/-- A decimal field: `nonFinite` is NaN or an infinity, `bad` any other text. -/
inductive Scalar where
  | absent
  | null
  | empty
  | num (q : ℚ)
  | nonFinite
  | bad
  deriving DecidableEq, Repr

namespace Scalar

/-- `mapping.get(key, default)` -/
def getD (s : Scalar) (default : Scalar) : Scalar :=
  match s with
  | .absent => default
  | s => s

/-- Whether the field is in `(None, "")`. -/
def isMissing : Scalar → Bool
  | .absent | .null | .empty => true
  | _ => false

/-- `Decimal(str(value or "0"))`; `none` is a decimal that is not finite. -/
def decimalOrZero : Scalar → Except Exc (Option ℚ)
  | .num q => .ok (some q)
  | .nonFinite => .ok none
  | .bad => .error { kind := .arithmetic }
  | _ => .ok (some 0)

/-- The finite nonnegative decimal of a field, if it is one. -/
def nonneg? : Scalar → Option ℚ
  | .num q => if 0 ≤ q then some q else none
  | .nonFinite | .bad => none
  | _ => some 0

end Scalar

inductive Side where
  | buy
  | sell
  | other (text : String)
  deriving DecidableEq, Repr

inductive OrderStatus where
  | new
  | partiallyFilled
  | filled
  | canceled
  | expired
  | expiredInMatch
  | rejected
  | other (text : String)
  deriving DecidableEq, Repr

inductive OrderType where
  | limit
  | limitMaker
  | stopLoss
  | stopLossLimit
  | takeProfit
  | takeProfitLimit
  | other (text : String)
  deriving DecidableEq, Repr

/-- `listStatusType` and `listOrderStatus` -/
inductive ListWord where
  | response
  | execStarted
  | updated
  | executing
  | allDone
  | reject
  | other (text : String)
  deriving DecidableEq, Repr

/-- One order object of a REST answer. A time of `0` is a missing time. -/
structure Report where
  orderId : Ident := .absent
  orderListId : Ident := .absent
  symbol : Option Symbol := none
  side : Side := .other ""
  type : OrderType := .other ""
  status : OrderStatus := .other ""
  clientOrderId : ClientId := ""
  origClientOrderId : ClientId := ""
  executedQty : Scalar := .absent
  cummulativeQuoteQty : Scalar := .absent
  cumulativeQuoteQty : Scalar := .absent
  origQty : Scalar := .absent
  quantity : Scalar := .absent
  updateTime : ℤ := 0
  transactTime : ℤ := 0
  time : ℤ := 0
  deriving DecidableEq, Repr

/-- A REST answer about an order or an order list. -/
structure Response extends Report where
  orderReports : List Report := []
  orders : List Report := []
  listStatusType : ListWord := .other ""
  listOrderStatus : ListWord := .other ""
  transactionTime : Option ℤ := none
  deriving DecidableEq, Repr

/-- What a gateway call returns; `none` is a value that is not an object. -/
abbrev Reply := Option Response

inductive Endpoint where
  | order
  | orderListOto
  | orderListOtoco
  | orderListOco
  | deleteOrder
  | deleteOrderList
  deriving DecidableEq, Repr

/-- `endpoint.startswith("orderList/")` -/
def Endpoint.isOrderList : Endpoint → Bool
  | .orderListOto | .orderListOtoco | .orderListOco => true
  | _ => false

/-- A request object; an absent key is `none`. Decimal texts are their values. -/
structure Params where
  symbol : Symbol
  side : Option Side := none
  type : Option OrderType := none
  timeInForce : Option String := none
  quantity : Option ℚ := none
  price : Option ℚ := none
  trailingDelta : Option ℤ := none
  newClientOrderId : Option ClientId := none
  listClientOrderId : Option ClientId := none
  newOrderRespType : Option String := none
  workingClientOrderId : Option ClientId := none
  workingType : Option OrderType := none
  workingSide : Option Side := none
  workingPrice : Option ℚ := none
  workingQuantity : Option ℚ := none
  workingTimeInForce : Option String := none
  pendingSide : Option Side := none
  pendingQuantity : Option ℚ := none
  pendingClientOrderId : Option ClientId := none
  pendingType : Option OrderType := none
  pendingPrice : Option ℚ := none
  pendingTrailingDelta : Option ℤ := none
  pendingTimeInForce : Option String := none
  pendingAboveClientOrderId : Option ClientId := none
  pendingAboveType : Option OrderType := none
  pendingAbovePrice : Option ℚ := none
  pendingBelowClientOrderId : Option ClientId := none
  pendingBelowType : Option OrderType := none
  pendingBelowTimeInForce : Option String := none
  pendingBelowStopPrice : Option ℚ := none
  pendingBelowPrice : Option ℚ := none
  pendingBelowTrailingDelta : Option ℤ := none
  aboveClientOrderId : Option ClientId := none
  aboveType : Option OrderType := none
  abovePrice : Option ℚ := none
  belowClientOrderId : Option ClientId := none
  belowType : Option OrderType := none
  belowTimeInForce : Option String := none
  belowStopPrice : Option ℚ := none
  belowPrice : Option ℚ := none
  belowTrailingDelta : Option ℤ := none
  orderListId : Option ℤ := none
  orderId : Option ℤ := none
  deriving DecidableEq, Repr

structure ProtectionSettings where
  takeProfitPct : ℚ := 12 / 10
  fixedStopPct : ℚ := 2
  trailingDeltaBips : ℤ := 40
  limitFillBufferBips : ℤ := 20
  feePctPerSide : ℚ := 1 / 10
  deriving DecidableEq, Repr

/-- Symbol rules with the steps that `_rules` has checked to be positive. -/
structure SymbolRules where
  symbol : Symbol
  base : Asset
  quote : Asset
  tick : ℚ
  step : ℚ
  minQty : ℚ
  maxQty : ℚ
  minNotional : ℚ
  maxNotional : ℚ
  trailMin : ℤ
  trailMax : ℤ
  ocoAllowed : Bool
  otoAllowed : Bool
  trailingAllowed : Bool
  tick_pos : 0 < tick
  step_pos : 0 < step

/-- `to_integral_value(rounding=ROUND_DOWN)` -/
def roundDown (q : ℚ) : ℤ := if 0 ≤ q then q.floor else q.ceil

/-- Both arguments of every call come from decimals, the step from positive rules. -/
def floorStep (value step : ℚ) : ℚ := roundDown (value / step) * step

/-- Round up to a multiple of `step` (`ROUND_CEILING`). -/
def ceilStep (value step : ℚ) : ℚ := (value / step).ceil * step

theorem floorStep_of_nonneg {value step : ℚ} (hv : 0 ≤ value) (hs : 0 < step) :
    floorStep value step = ⌊value / step⌋ * step := by
  simp only [floorStep, roundDown, if_pos (div_nonneg hv hs.le)]
  rfl

theorem floorStep_nonneg {value step : ℚ} (hv : 0 ≤ value) (hs : 0 < step) :
    0 ≤ floorStep value step := by
  rw [floorStep_of_nonneg hv hs]
  exact mul_nonneg (by exact_mod_cast Int.floor_nonneg.mpr (div_nonneg hv hs.le)) hs.le

theorem floorStep_le {value step : ℚ} (hv : 0 ≤ value) (hs : 0 < step) :
    floorStep value step ≤ value := by
  rw [floorStep_of_nonneg hv hs]
  exact (le_div_iff₀ hs).mp (Int.floor_le _)

theorem lt_floorStep_add {value step : ℚ} (hv : 0 ≤ value) (hs : 0 < step) :
    value < floorStep value step + step := by
  rw [floorStep_of_nonneg hv hs]
  have h := (div_lt_iff₀ hs).mp (Int.lt_floor_add_one (value / step))
  linarith

@[simp] theorem floorStep_zero (step : ℚ) : floorStep 0 step = 0 := by
  have h : roundDown 0 = 0 := rfl
  simp [floorStep, h]

end SpotSidecar
