import SpotSidecar.Filters.Legs

/-! What the exchange publishes about a symbol, and how the filter check reads it. -/
namespace SpotSidecar.Filters

/-! ### What is published -/

structure PriceFilter where
  tickSize : Scalar := .absent
  minPrice : Scalar := .absent
  maxPrice : Scalar := .absent
  deriving DecidableEq, Repr

structure LotSize where
  stepSize : Scalar := .absent
  minQty : Scalar := .absent
  maxQty : Scalar := .absent
  deriving DecidableEq, Repr

/-- `NOTIONAL` or `MIN_NOTIONAL` -/
structure NotionalFilter where
  minNotional : Scalar := .absent
  notional : Scalar := .absent
  maxNotional : Scalar := .absent
  deriving DecidableEq, Repr

structure PercentPriceBySide where
  bidMultiplierUp : Scalar := .absent
  bidMultiplierDown : Scalar := .absent
  askMultiplierUp : Scalar := .absent
  askMultiplierDown : Scalar := .absent
  avgPriceMins : Ident := .absent
  deriving DecidableEq, Repr

structure PercentPrice where
  multiplierUp : Scalar := .absent
  multiplierDown : Scalar := .absent
  avgPriceMins : Ident := .absent
  deriving DecidableEq, Repr

/-- The bounds of a trailing stop below the market and above it. The check reads the first two,
whatever the side. -/
structure TrailingDelta where
  minTrailingBelowDelta : Ident := .absent
  maxTrailingBelowDelta : Ident := .absent
  minTrailingAboveDelta : Ident := .absent
  maxTrailingAboveDelta : Ident := .absent
  deriving DecidableEq, Repr

/-- The filters of a symbol by their types; a filter that only limits a count is its limit. -/
structure SymbolFilters where
  priceFilter : Option PriceFilter := none
  lotSize : Option LotSize := none
  notional : Option NotionalFilter := none
  minNotional : Option NotionalFilter := none
  trailingDelta : Option TrailingDelta := none
  percentPriceBySide : Option PercentPriceBySide := none
  percentPrice : Option PercentPrice := none
  maxNumOrders : Option Ident := none
  maxNumAlgoOrders : Option Ident := none
  maxNumOrderLists : Option Ident := none
  maxPosition : Option Scalar := none
  deriving DecidableEq, Repr

structure ExchangeFilters where
  exchangeMaxNumOrders : Option Ident := none
  exchangeMaxNumAlgoOrders : Option Ident := none
  exchangeMaxNumOrderLists : Option Ident := none
  deriving DecidableEq, Repr

/-- The row of a symbol in `exchangeInfo`. -/
structure SymbolEntry where
  symbol : Symbol
  status : String
  isSpotTradingAllowed : Bool
  baseAsset : Asset
  quoteAsset : Asset
  otoAllowed : Bool
  ocoAllowed : Bool
  allowTrailingStop : Bool
  filters : SymbolFilters
  deriving DecidableEq, Repr

/-- A value that is not what it should be, or is. -/
inductive Decoded (α : Type) where
  | malformed
  | ok (a : α)
  deriving DecidableEq, Repr

inductive Reference where
  | noReferencePrice
  | value (price : Scalar)
  deriving DecidableEq, Repr

structure PriceRangeRow where
  ruleType : String
  bidLimitMultUp : Scalar := .absent
  bidLimitMultDown : Scalar := .absent
  askLimitMultUp : Scalar := .absent
  askLimitMultDown : Scalar := .absent
  deriving DecidableEq, Repr

structure SymbolRuleRow where
  symbol : Symbol
  rules : Decoded (List PriceRangeRow)
  deriving DecidableEq, Repr

/-- What the public client answers about the symbol. -/
structure PublicData where
  referencePrice : Except Exc Reference
  avgPrice : Except Exc Scalar
  tickerPrice : Except Exc Scalar
  executionRules : Except Exc (Decoded (List SymbolRuleRow))

/-- `FilterViolation` -/
def violation (text : String) : Exc := .of .value text

/-- `FilterDataUnavailable` -/
def unavailable (text : String) : Exc := .of .runtime text

/-- Raise unless a condition holds. -/
abbrev require (c : Prop) [Decidable c] (e : Exc) : Except Exc Unit := Checks.require c e

/-! ### Reference prices -/

/-- A finite positive price, or what is said of it otherwise. -/
def positivePrice (malformed invalid : String) : Scalar → Except Exc ℚ
  | .num q => if 0 < q then .ok q else .error (unavailable invalid)
  | .nonFinite => .error (unavailable invalid)
  | _ => .error (unavailable malformed)

namespace PublicData
variable (data : PublicData) (symbol : Symbol)

/-- `_official_reference_price` -/
def officialReferencePrice : Except Exc (Option ℚ) :=
  match data.referencePrice with
  | .error e =>
    .error (unavailable ("reference price for " ++ symbol ++ " unavailable: " ++ e.text))
  | .ok .noReferencePrice => .ok none
  | .ok (.value price) =>
    (positivePrice ("malformed reference price for " ++ symbol)
      ("non-positive reference price for " ++ symbol) price).map some

/-- `pps.get("avgPriceMins", 0) or 0` -/
def avgPriceMins (filters : SymbolFilters) : Ident :=
  match filters.percentPriceBySide, filters.percentPrice with
  | some pps, _ => pps.avgPriceMins
  | none, some pp => pp.avgPriceMins
  | none, none => .absent

/-- `_fallback_reference_price` -/
def fallbackReferencePrice (filters : SymbolFilters) : Except Exc ℚ :=
  let failed (e : Exc) : Exc :=
    unavailable ("fallback reference price for " ++ symbol ++ " unavailable: " ++ e.text)
  let text := "fallback reference price for " ++ symbol
  match (avgPriceMins filters).toInt with
  | .error e => .error (failed e)
  | .ok minutes =>
    match if 0 < minutes then data.avgPrice else data.tickerPrice with
    | .error e => .error (failed e)
    | .ok price => positivePrice (text ++ " unavailable") (text ++ " is invalid") price

end PublicData

/-! ### Execution rules -/

/-- The multipliers of `PRICE_RANGE` for one side. -/
structure RangeBand where
  down : Option ℚ
  up : Option ℚ
  deriving DecidableEq, Repr

structure PriceRange where
  bid : RangeBand
  ask : RangeBand
  deriving DecidableEq, Repr

def PriceRange.band (range : PriceRange) (side : Side) : RangeBand :=
  if side = .sell then range.ask else range.bid

/-- One multiplier of a rule; nothing but an absent value is none. -/
def multiplier (symbol : Symbol) (name : String) (raw : Scalar) : Except Exc (Option ℚ) :=
  let text := symbol ++ " PRICE_RANGE " ++ name
  if raw.isMissing then .ok none
  else (positivePrice (text ++ " is malformed") (text ++ " is invalid") raw).map some

def rangeBand (symbol : Symbol) (side : String) (down up : Option ℚ) : Except Exc RangeBand :=
  match down, up with
  | some d, some u =>
    if u < d then
      .error (unavailable
        (symbol ++ " PRICE_RANGE " ++ side ++ " lower multiplier exceeds upper multiplier"))
    else .ok { down := some d, up := some u }
  | down, up => .ok { down, up }

def parsePriceRange (symbol : Symbol) (row : PriceRangeRow) : Except Exc PriceRange := do
  let bidUp ← multiplier symbol "bidLimitMultUp" row.bidLimitMultUp
  let bidDown ← multiplier symbol "bidLimitMultDown" row.bidLimitMultDown
  let askUp ← multiplier symbol "askLimitMultUp" row.askLimitMultUp
  let askDown ← multiplier symbol "askLimitMultDown" row.askLimitMultDown
  let bid ← rangeBand symbol "bid" bidDown bidUp
  let ask ← rangeBand symbol "ask" askDown askUp
  return { bid, ask }

/-- The only row of the symbol, if there are rows at all. -/
def exactRow (symbol : Symbol) (rows : List SymbolRuleRow) : Except Exc (Option SymbolRuleRow) :=
  match rows.filter (·.symbol = symbol), rows with
  | [], [] => .ok none
  | [], _ => .error (unavailable
      ("executionRules returned rows but none for exact symbol " ++ symbol))
  | [row], [_] => .ok (some row)
  | [_], _ => .error (unavailable
      ("executionRules returned unexpected extra symbol rows for " ++ symbol))
  | matching, _ => .error (unavailable
      ("executionRules returned " ++ toString matching.length ++ " rows for " ++ symbol))

/-- The `PRICE_RANGE` among the rules of a row. -/
def rangeRule (symbol : Symbol) (row : SymbolRuleRow) : Except Exc (Option PriceRangeRow) :=
  match row.rules with
  | .malformed => .error (unavailable
      ("executionRules for " ++ symbol ++ " lacks a rules list or contains a malformed rule"))
  | .ok rules =>
    match rules.filter (·.ruleType = "PRICE_RANGE") with
    | [] => .ok none
    | [rule] => .ok (some rule)
    | _ => .error (unavailable
        ("executionRules returned duplicate PRICE_RANGE rules for " ++ symbol))

/-- `_price_range_rule` -/
def PublicData.priceRangeRule (data : PublicData) (symbol : Symbol) :
    Except Exc (Option PriceRange) :=
  match data.executionRules with
  | .error e => .error (unavailable
      ("execution rules for " ++ symbol ++ " unavailable: " ++ e.text))
  | .ok .malformed => .error (unavailable
      ("executionRules for " ++ symbol ++ " lacks a symbolRules list or contains a malformed row"))
  | .ok (.ok rows) => do
    let row ← exactRow symbol rows
    match row with
    | none => return none
    | some row =>
      let rule ← rangeRule symbol row
      match rule with
      | none => return none
      | some rule => (parsePriceRange symbol rule).map some

end SpotSidecar.Filters
