import SpotSidecar.Adapter.Run
import SpotSidecar.PairControl.Controller

/-! What the owner asks of the adapter besides its operations: the checks of a pair switch and
the reports of its account. -/
namespace SpotSidecar
open Interaction
open PairControl (Verification)

/-- The rules of every target that has a registered pair are read anew. -/
def refreshRules (cfg : Config) (symbol : Symbol) : Asking Unit := do
  let s ← theStore
  match s.data.symbolPairs.lookup symbol with
  | some pair =>
    let _ ← rulesOf cfg pair
    return ()
  | none => return ()

/-- `verify_flat_for_switch` of what is open at the exchange. -/
def verifyFlatOrders (cfg : Config) (symbols : List Symbol) : Asking Verification := do
  let answers ← Prog.attempt do
    let orders ← call (.openOrders none)
    let lists ← call .openOrderLists
    return (orders, lists)
  match answers with
  | .error _ =>
    return { ok := false, detail := some "authenticated flatness enumeration failed" }
  | .ok (orders, lists) =>
    if orders.any (· ≠ []) ∨ lists.any (· ≠ []) then
      return { ok := false, detail := some "an exchange order or order list is still open" }
    else
      let _ ← Prog.each (refreshRules cfg) symbols
      -- the balances inform only: a failure to read them changes nothing
      let _ ← accountBalances.attempt
      return { ok := true, detail := some "exchange and durable state verified flat" }

/-- `verify_flat_for_switch` -/
def verifyFlatForSwitch (cfg : Config) (symbols : List Symbol) : Asking Verification := do
  pause "pair-switch-verification"
  let s ← theStore
  if s.activeTradeRows ≠ [] then
    return { ok := false, detail := some "nonterminal trade record exists" }
  else
    let s ← theStore
    if s.unresolvedIntents ≠ [] then
      return { ok := false, detail := some "unresolved operation intent exists" }
    else verifyFlatOrders cfg symbols

/-- `validate_pair` -/
def validatePair (cfg : Config) (pair : Pair) : Asking Unit := do
  let rules ← rulesOf cfg pair
  let s ← theStore
  requireModeCapabilities rules s.data.protectionMode true

/-- `validate_pair_funding` -/
def validatePairFunding (cfg : Config) (pair : Pair) : Asking Unit := do
  let rules ← rulesOf cfg pair
  let s ← theStore
  let mode := s.data.protectionMode
  requireModeCapabilities rules mode true
  let quoteFree ← freeBalance rules.quote
  let ask ← bestAsk rules.symbol
  let entry := floorStep ask rules.tick
  let (quantity, requiredQuote) ← configuredEntryQuantity cfg rules entry
  .ensure (requiredQuote ≤ quoteFree)
    (.of .runtime "selected pair requires more of its quote asset than is available")
  let (endpoint, params) ← factoryEntry cfg mode rules quantity entry
  preflight rules endpoint params [] false

/-- `status` reads the pair and the tables. -/
def readStatus : Asking (Memory × Store) := do
  let m ← theMemory
  let _ ← call .activePair
  let s ← theStore
  return (m, s)

/-- `balance` -/
def readBalance : Asking (ℚ × ℚ) := do
  let active ← call .activePair
  let balances ← accountBalances
  return ((balanceOf balances "BTC").1, (balanceOf balances active.quote).1)

/-- `tick` after the reconciliation an account event has asked for. -/
def tickRows (cfg : Config) : Acting Unit := do
  let s ← theStore
  let _ ← Prog.each (tickEntry cfg) (s.activeTradeRows.filter (·.lifecycle = .entrySubmitted))
  let m ← theMemory
  let s ← theStore
  let _ ← Prog.each (recoverPartial cfg) (partialCandidates m s)

theorem tick_eq (cfg : Config) : tick cfg = (tickAccount cfg >>= fun _ => tickRows cfg) := rfl

/-- What `maybe_auto_manage` finds to do about a position. -/
inductive AutoAction where
  | keep (reason : String)
  | trail (delta : ℤ)
  | breakEven
  deriving DecidableEq, Repr

/-- The trailing conversion of `maybe_auto_manage`, unless its limit is below break-even. -/
def autoTrail (cfg : Config) (rules : SymbolRules) (entry current : ℚ) (tightTrailBips : ℤ) :
    Except Exc AutoAction := do
  let delta := ProtectionSettings.delta rules tightTrailBips
  let fee := cfg.settings.feePctPerSide
  let breakEven ← feeAdjustedBreakEven entry fee fee cfg.breakEvenSlippagePct
  let buffer : ℚ := (delta + cfg.settings.limitFillBufferBips) / 10000
  if floorStep (current * (1 - buffer)) rules.tick < breakEven then
    return .keep "keep existing OCO: trailing limit would be below fee-adjusted break-even"
  else return .trail delta

/-- `maybe_auto_manage` once the position and the price are known. -/
def autoAction (cfg : Config) (pair : Pair) (triggerPct : ℚ) (tightTrailBips : ℤ) (bullish : Bool)
    (row : TradeRow) (entry current : ℚ) : Asking AutoAction := do
  if bullish ∧ entry < current then
    if row.lifecycle = .trailingActive ∨ row.protectionMode = some .trailingOnly then
      return .keep "exchange-native trailing protection is already active"
    else
      let rules ← rulesOf cfg pair
      .ofExcept (autoTrail cfg rules entry current tightTrailBips)
  else if entry * (1 + triggerPct / 100) ≤ current ∧ row.lifecycle = .protectionActive then
    return .breakEven
  else return .keep "automatic protection conditions not met"

end SpotSidecar
