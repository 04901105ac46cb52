import SpotSidecar.Filters.Published

/-! The check of the legs of a request against the published filters. -/
namespace SpotSidecar.Filters

/-- `_dec`; a bound of zero is none. -/
def dec : Scalar → Except Exc (Option ℚ)
  | .num q => .ok (if q = 0 then none else some q)
  | .nonFinite | .bad => .error (.of .arithmetic "invalid decimal")
  | _ => .ok none

/-- The bounds on the prices and the size of a leg. -/
structure Bounds where
  tick : Option ℚ
  minPrice : Option ℚ
  maxPrice : Option ℚ
  step : Option ℚ
  minQty : Option ℚ
  maxQty : Option ℚ
  minNotional : Option ℚ
  maxNotional : Option ℚ
  deriving DecidableEq, Repr

def SymbolFilters.bounds (filters : SymbolFilters) : Except Exc Bounds := do
  let price := filters.priceFilter.getD {}
  let tick ← dec price.tickSize
  let minPrice ← dec price.minPrice
  let maxPrice ← dec price.maxPrice
  let lot := filters.lotSize.getD {}
  let step ← dec lot.stepSize
  let minQty ← dec lot.minQty
  let maxQty ← dec lot.maxQty
  let notional := (filters.notional.or filters.minNotional).getD {}
  let least ← dec notional.minNotional
  let minNotional ← (match least with
    | some least => .ok (some least)
    | none => dec notional.notional)
  let maxNotional ← dec notional.maxNotional
  return { tick, minPrice, maxPrice, step, minQty, maxQty, minNotional, maxNotional }

/-- The bounds of the trailing delta, which are read if a leg has one. -/
def trailingBounds (symbol : Symbol) (entry : SymbolEntry) (legs : List OrderLeg) :
    Except Exc (Option (ℤ × ℤ)) :=
  if legs.all (·.trailingDelta.isNone) then .ok none
  else if !entry.allowTrailingStop then
    .error (violation (symbol ++ " does not currently allow trailing-stop orders"))
  else match entry.filters.trailingDelta with
    | none => .error (violation (symbol ++ " has no TRAILING_DELTA filter"))
    | some row =>
      match row.minTrailingBelowDelta, row.maxTrailingBelowDelta with
      | .int low, .int high =>
        if low < 1 ∨ high < low then
          .error (violation (symbol ++ " TRAILING_DELTA sell bounds are invalid"))
        else .ok (some (low, high))
      | _, _ => .error (violation
          (symbol ++ " TRAILING_DELTA sell bounds are missing or malformed"))

/-- `if bound and not ok: raise`; a bound of zero is none here. -/
def checkBound (bound : Option ℚ) (ok : ℚ → Prop) [DecidablePred ok] (text : ℚ → String) :
    Except Exc Unit :=
  match bound with
  | some b => require (ok b) (violation (text b))
  | none => .ok ()

/-- What every leg is checked against. `str` is how a decimal is printed. -/
structure LegChecks where
  symbol : Symbol
  filters : SymbolFilters
  bounds : Bounds
  trailing : Option (ℤ × ℤ)
  range : Option PriceRange
  official : Option ℚ
  reference : Option ℚ
  str : ℚ → String

namespace LegChecks
variable (c : LegChecks) (leg : OrderLeg)

/-- The multipliers of the percent filter for the side of a leg, down and up. -/
def percentBand : Except Exc (Option ℚ × Option ℚ) :=
  match c.filters.percentPriceBySide, c.filters.percentPrice with
  | some pps, _ =>
    if leg.side = .sell then do
      let down ← dec pps.askMultiplierDown
      let up ← dec pps.askMultiplierUp
      return (down, up)
    else do
      let down ← dec pps.bidMultiplierDown
      let up ← dec pps.bidMultiplierUp
      return (down, up)
  | none, some pp => do
    let down ← dec pp.multiplierDown
    let up ← dec pp.multiplierUp
    return (down, up)
  | none, none => return (none, none)

def checkPercent (reference price : ℚ) : Except Exc Unit := do
  let (down, up) ← c.percentBand leg
  let said := c.symbol ++ " " ++ leg.orderType.text ++ " price " ++ c.str price
  let band (b : ℚ) := " percent-price band (" ++ c.str reference ++ " x " ++ c.str b ++
    ") — Binance would reject the replacement"
  checkBound down (reference * · ≤ price) fun b => said ++ " below" ++ band b
  checkBound up (price ≤ reference * ·) fun b => said ++ " above" ++ band b

def checkPrice (price : ℚ) : Except Exc Unit := do
  let said := c.symbol ++ " " ++ leg.orderType.text ++ " price " ++ c.str price
  require (0 < price) (violation (said ++ " <= 0"))
  checkBound c.bounds.tick (fun b => price = floorStep price b) fun b =>
    said ++ " not a multiple of tickSize " ++ c.str b
  checkBound c.bounds.minPrice (· ≤ price) fun b =>
    said ++ " below PRICE_FILTER.minPrice " ++ c.str b
  checkBound c.bounds.maxPrice (price ≤ ·) fun b =>
    said ++ " above PRICE_FILTER.maxPrice " ++ c.str b
  match c.reference with
  | some reference => c.checkPercent leg reference price
  | none => return ()

def checkRange : Except Exc Unit :=
  match c.range, c.official, leg.price with
  | some range, some official, some price => do
    let band := range.band leg.side
    let said := c.symbol ++ " " ++ leg.orderType.text ++ " execution price " ++ c.str price
    let rule (b : ℚ) := " PRICE_RANGE (" ++ c.str official ++ " x " ++ c.str b ++
      "); execution could expire"
    checkBound band.down (official * · ≤ price) fun b => said ++ " below" ++ rule b
    checkBound band.up (price ≤ official * ·) fun b => said ++ " above" ++ rule b
  | _, _, _ => return ()

def checkQuantity : Except Exc Unit := do
  let said := c.symbol ++ " qty " ++ c.str leg.qty
  checkBound c.bounds.step (fun b => leg.qty = floorStep leg.qty b) fun b =>
    said ++ " not a multiple of stepSize " ++ c.str b
  checkBound c.bounds.minQty (· ≤ leg.qty) fun b => said ++ " below LOT_SIZE.minQty " ++ c.str b
  checkBound c.bounds.maxQty (leg.qty ≤ ·) fun b => said ++ " above LOT_SIZE.maxQty " ++ c.str b

def checkNotional : Except Exc Unit :=
  match leg.notionalPrice with
  | some price => do
    let said :=
      c.symbol ++ " " ++ leg.orderType.text ++ " notional " ++ c.str (price * leg.qty)
    checkBound c.bounds.minNotional (· ≤ price * leg.qty) fun b =>
      said ++ " below minNotional " ++ c.str b
    checkBound c.bounds.maxNotional (price * leg.qty ≤ ·) fun b =>
      said ++ " above maxNotional " ++ c.str b
  | none => return ()

def checkTrailing : Except Exc Unit :=
  match leg.trailingDelta with
  | none => return ()
  | some delta =>
    match c.trailing with
    | none => .error (violation (c.symbol ++ " TRAILING_DELTA sell bounds are unavailable"))
    | some (low, high) => require (low ≤ delta ∧ delta ≤ high) (violation
        (c.symbol ++ " trailingDelta " ++ toString delta ++ " outside [" ++ toString low ++ "," ++
          toString high ++ "]"))

/-- The body of the loop over the legs. -/
def checkLeg : Except Exc Unit := do
  leg.prices.forM (c.checkPrice leg)
  c.checkRange leg
  c.checkQuantity leg
  c.checkNotional leg
  c.checkTrailing leg

end LegChecks

end SpotSidecar.Filters
