import SpotSidecar.Evidence.Environment

/-! The risk policy that an approval signs, and the bot that is built from the same environment. -/
namespace SpotSidecar.Evidence
open Rounding

structure ProtectionPolicy where
  takeProfitPct : ℚ
  fixedStopPct : ℚ
  trailingDeltaBips : ℤ
  limitFillBufferBips : ℤ
  feePctPerSide : ℚ
  breakEvenSlippagePct : ℚ
  spotFilterMaxAgeSeconds : ℤ
  autoEnabled : Bool
  autoBreakEvenTriggerPct : ℚ
  autoTightTrailBips : ℤ
  deriving DecidableEq, Repr

structure FreshnessAndStops where
  maxSignalAgeSeconds : ℤ
  maxCandleAgeSeconds : ℤ
  pairCooldownSeconds : ℤ
  maxStopoutsPerPairDay : ℤ
  maxStopoutsGlobalDay : ℤ
  deriving DecidableEq, Repr

structure FlowPolicy where
  requireFlowContext : Bool
  marketContextMode : String := "spot_only"
  requireExternalConfluence : Bool
  externalConfluenceMinProviders : ℤ
  externalConfluenceMin24hChangePct : ℚ
  externalConfluenceMaxPriceDeviationBps : ℚ
  maxFlowAgeSeconds : ℤ
  minTakerBuyRatio : ℚ
  minSpotImbalance : ℚ
  refreshSeconds : ℤ
  depthLimit : ℤ
  tradeLimit : ℤ
  depthBandBps : ℤ
  spotStreamStaleSeconds : ℤ
  deriving DecidableEq, Repr

structure BacktestGate where
  minimumTrades : ℤ
  minimumProfitFactor : ℚ
  minimumProfitTotal : ℚ
  maximumDrawdownAccount : ℚ
  minimumFeePerSide : ℚ
  deriving DecidableEq, Repr

structure RiskPolicy where
  policyVersion : ℕ := 1
  market : String := "BINANCE_SPOT"
  baseAsset : Asset := "BTC"
  maxPositions : ℕ := 1
  allowedStableQuotes : List Asset
  tradeSizeQuote : ℚ
  maxEntryOpenSeconds : ℤ
  entryProtectionMode : ProtectionMode
  protection : ProtectionPolicy
  freshnessAndStops : FreshnessAndStops
  flow : FlowPolicy
  backtestGate : BacktestGate
  deriving DecidableEq, Repr

namespace Environment
variable (env : Environment)

/-- `PROTECTION_MODE` as the policy reads it -/
def policyMode : Except Exc ProtectionMode :=
  match env "PROTECTION_MODE" with
  | .absent => .ok .ocoTrailing
  | .mode m _ => .ok m
  | _ => .error (.of .runtime "PROTECTION_MODE is invalid")

def protectionPolicy : Except Exc ProtectionPolicy := do
  return {
    takeProfitPct := ← env.numberText "TAKE_PROFIT_PCT" 1.2
    fixedStopPct := ← env.numberText "FIXED_STOP_PCT" 2.0
    trailingDeltaBips := ← env.integer "TRAILING_DELTA_BIPS" 40
    limitFillBufferBips := ← env.integer "LIMIT_FILL_BUFFER_BIPS" 20
    feePctPerSide := ← env.numberText "FEE_PCT_PER_SIDE" 0.1
    breakEvenSlippagePct := ← env.numberText "BREAK_EVEN_SLIPPAGE_PCT" 0.05
    spotFilterMaxAgeSeconds := ← env.integer "SPOT_FILTER_MAX_AGE_SECONDS" 300
    autoEnabled := ← env.boolean "AUTO_PROTECTION_ENABLED" false
    autoBreakEvenTriggerPct := ← env.numberText "AUTO_BREAK_EVEN_TRIGGER_PCT" 0.5
    autoTightTrailBips := ← env.integer "AUTO_TIGHT_TRAIL_BIPS" 20 }

def freshnessAndStops : Except Exc FreshnessAndStops := do
  return {
    maxSignalAgeSeconds := ← env.integer "MAX_SIGNAL_AGE_SECONDS" 180
    maxCandleAgeSeconds := ← env.integer "MAX_CANDLE_AGE_SECONDS" 180
    pairCooldownSeconds := ← env.integer "PAIR_COOLDOWN_SECONDS" 60
    maxStopoutsPerPairDay := ← env.integer "MAX_STOPOUTS_PER_PAIR_DAY" 3
    maxStopoutsGlobalDay := ← env.integer "MAX_STOPOUTS_GLOBAL_DAY" 10 }

def flowPolicy : Except Exc FlowPolicy := do
  return {
    requireFlowContext := ← env.boolean "REQUIRE_FLOW_CONTEXT" false
    requireExternalConfluence := ← env.boolean "REQUIRE_EXTERNAL_CONFLUENCE" false
    externalConfluenceMinProviders := ← env.integer "EXTERNAL_CONFLUENCE_MIN_PROVIDERS" 1
    externalConfluenceMin24hChangePct :=
      ← env.numberText "EXTERNAL_CONFLUENCE_MIN_24H_CHANGE_PCT" 0
    externalConfluenceMaxPriceDeviationBps :=
      ← env.numberText "EXTERNAL_CONFLUENCE_MAX_PRICE_DEVIATION_BPS" 100
    maxFlowAgeSeconds := ← env.integer "MAX_FLOW_AGE_SECONDS" 45
    minTakerBuyRatio := ← env.numberText "FLOW_MIN_TAKER_BUY_RATIO" 0.55
    minSpotImbalance := ← env.numberText "FLOW_MIN_SPOT_IMBALANCE" 0.05
    refreshSeconds := ← env.integer "MONEYFLOW_REFRESH_SECONDS" 15
    depthLimit := ← env.integer "MONEYFLOW_DEPTH_LIMIT" 100
    tradeLimit := ← env.integer "MONEYFLOW_TRADE_LIMIT" 500
    depthBandBps := ← env.integer "MONEYFLOW_DEPTH_BAND_BPS" 10
    spotStreamStaleSeconds := ← env.integer "MONEYFLOW_SPOT_STREAM_STALE_SECONDS" 10 }

def backtestGate : Except Exc BacktestGate := do
  return {
    minimumTrades := ← env.integer "LIVE_MIN_BACKTEST_TRADES" 100
    minimumProfitFactor := ← env.numberText "LIVE_MIN_PROFIT_FACTOR" 1.15
    minimumProfitTotal := ← env.numberText "LIVE_MIN_PROFIT_TOTAL" 0
    maximumDrawdownAccount := ← env.numberText "LIVE_MAX_DRAWDOWN_ACCOUNT" 0.20
    minimumFeePerSide := ← env.numberText "LIVE_MIN_BACKTEST_FEE" 0.001 }

/-- `runtime_risk_policy`, where `upper` is `str.upper` -/
def runtimeRiskPolicy (upper : String → String) (allowedQuotes : List String) :
    Except Exc RiskPolicy := do
  let entryMode ← env.policyMode
  return {
    allowedStableQuotes := (allowedQuotes.map upper).mergeSort (fun a b => decide (a ≤ b))
    tradeSizeQuote := ← env.numberText "TRADE_SIZE_QUOTE" 100
    maxEntryOpenSeconds := ← env.integer "MAX_ENTRY_OPEN_SECONDS" 300
    entryProtectionMode := entryMode
    protection := ← env.protectionPolicy
    freshnessAndStops := ← env.freshnessAndStops
    flow := ← env.flowPolicy
    backtestGate := ← env.backtestGate }

end Environment

/-- The limits of `FreshSignalGuard` -/
structure GuardLimits where
  maxStopoutsPair : ℤ
  maxStopoutsGlobal : ℤ
  cooldownSeconds : ℤ
  maxAgeSeconds : ℤ
  maxCandleAgeSeconds : ℤ
  deriving DecidableEq, Repr

/-- A live bot as it is built from the environment. The last settings are read again each time
that they are needed, which may fail. -/
structure Bot where
  adapter : Config
  protectionMode : ProtectionMode
  autoProtectionEnabled : Bool
  filterMaxAge : ℤ
  guard : GuardLimits
  autoBreakEvenTriggerPct : Except Exc ℚ
  autoTightTrailBips : Except Exc ℤ
  breakEvenSlippagePct : Except Exc ℚ
  maxFlowAgeSeconds : Except Exc ℤ

namespace Environment
variable (env : Environment)

/-- The value of `TRADE_SIZE_BASE`, if it has one -/
def baseSize : Option ℚ := (env "TRADE_SIZE_BASE").number

/-- `TRADE_SIZE_BASE` as the adapter reads it -/
def tradeSizeBase : Except Exc (Option ℚ) :=
  match env "TRADE_SIZE_BASE" with
  | .absent | .blank => .ok none
  | .nonFinite => .error (.of .value "TRADE_SIZE_BASE must be within (0,9000] BTC")
  | s =>
    match s.number with
    | none => .error (.of .arithmetic "")
    | some q =>
      if q ≤ 0 ∨ 9000 < q then .error (.of .value "TRADE_SIZE_BASE must be within (0,9000] BTC")
      else .ok (some q)

def protectionSettings : Except Exc ProtectionSettings := do
  return {
    takeProfitPct := ← env.envDecimal "TAKE_PROFIT_PCT" 1.2 0.05 100
    fixedStopPct := ← env.envDecimal "FIXED_STOP_PCT" 2.0 0.05 50
    trailingDeltaBips := ← env.envInt "TRAILING_DELTA_BIPS" 40 10 2000
    limitFillBufferBips := ← env.envInt "LIMIT_FILL_BUFFER_BIPS" 20 1 1000
    feePctPerSide := ← env.envDecimal "FEE_PCT_PER_SIDE" 0.1 0 5 }

/-- `BitcoinSpotAdapter.__init__`; `base` has what is not a risk setting. -/
def adapter (base : Config) : Except Exc Config := do
  let tradeSizeQuote ← env.envDecimal "TRADE_SIZE_QUOTE" 100 5 100000
  let tradeSizeBase ← env.tradeSizeBase
  let maxEntryOpenSeconds ← env.envInt "MAX_ENTRY_OPEN_SECONDS" 300 30 900
  let settings ← env.protectionSettings
  return { base with tradeSizeQuote, tradeSizeBase, maxEntryOpenSeconds, settings }

/-- `FreshSignalGuard.__init__` -/
def guardLimits : Except Exc GuardLimits := do
  return {
    maxStopoutsPair := ← env.envInt "MAX_STOPOUTS_PER_PAIR_DAY" 3 1 100
    maxStopoutsGlobal := ← env.envInt "MAX_STOPOUTS_GLOBAL_DAY" 10 1 1000
    cooldownSeconds := ← env.envInt "PAIR_COOLDOWN_SECONDS" 60 0 86400
    maxAgeSeconds := ← env.envInt "MAX_SIGNAL_AGE_SECONDS" 180 10 3600
    maxCandleAgeSeconds := ← env.envInt "MAX_CANDLE_AGE_SECONDS" 180 10 3600 }

/-- The protection mode that `live_interlock` stores -/
def liveMode : Except Exc ProtectionMode :=
  match env "PROTECTION_MODE" with
  | .absent => .ok .ocoTrailing
  | .mode m false => .ok m
  | _ => .error (.of .value "LIVE BLOCKED: evidence-bound runtime policy is invalid")

/-- The automatic protection that `live_interlock` stores -/
def liveAuto : Except Exc Bool :=
  match env "AUTO_PROTECTION_ENABLED" with
  | .absent => .ok false
  | .flag b _ => .ok b
  | _ => .error (.of .value "AUTO_PROTECTION_ENABLED must be true or false")

/-- The live bot: the stored modes, the guard, and the adapter with its filters. -/
def bot (base : Config) : Except Exc Bot := do
  let autoProtectionEnabled ← env.liveAuto
  let protectionMode ← env.liveMode
  let guard ← env.guardLimits
  let filterMaxAge ← env.envInt "SPOT_FILTER_MAX_AGE_SECONDS" 300 10 3600
  let adapter ← env.adapter base
  return {
    adapter, protectionMode, autoProtectionEnabled, filterMaxAge, guard
    autoBreakEvenTriggerPct := env.envDecimal "AUTO_BREAK_EVEN_TRIGGER_PCT" 0.5 0.05 20
    autoTightTrailBips := env.envInt "AUTO_TIGHT_TRAIL_BIPS" 20 10 2000
    breakEvenSlippagePct := env.envDecimal "BREAK_EVEN_SLIPPAGE_PCT" 0.05 0 5
    maxFlowAgeSeconds := env.envInt "MAX_FLOW_AGE_SECONDS" 45 5 300 }

end Environment
end SpotSidecar.Evidence
