import SpotSidecar.Evidence.RiskPolicy

/-! What the signed policy binds: two environments of one policy against the bots built from
them. -/
namespace SpotSidecar.Evidence
open Rounding

/-- Two bots that take the same risks: they enter with the same quantity at every price, protect it
in the same way and stop after the same losses. -/
structure SameRisk (a b : Bot) : Prop where
  quantity : ∀ (rules : SymbolRules) (entry : ℚ), 0 < entry →
    configuredEntryQuantity a.adapter rules entry = configuredEntryQuantity b.adapter rules entry
  openSeconds : a.adapter.maxEntryOpenSeconds = b.adapter.maxEntryOpenSeconds
  settings : a.adapter.settings = b.adapter.settings
  mode : a.protectionMode = b.protectionMode
  auto : a.autoProtectionEnabled = b.autoProtectionEnabled
  filters : a.filterMaxAge = b.filterMaxAge
  guard : a.guard = b.guard
  trigger : a.autoBreakEvenTriggerPct = b.autoBreakEvenTriggerPct
  tight : a.autoTightTrailBips = b.autoTightTrailBips
  slippage : a.breakEvenSlippagePct = b.breakEvenSlippagePct
  flowAge : a.maxFlowAgeSeconds = b.maxFlowAgeSeconds

/-- Two environments agree on what the policy does not bind: the size in BTC, and the digits of a
number beyond those that the context of decimals keeps. -/
structure Agree (env env' : Environment) : Prop where
  base : env.baseSize = env'.baseSize
  quote : env.baseSize = none →
    env.envFloat "TRADE_SIZE_QUOTE" 100 5 100000 = env'.envFloat "TRADE_SIZE_QUOTE" 100 5 100000
  takeProfit :
    env.envFloat "TAKE_PROFIT_PCT" 1.2 0.05 100 = env'.envFloat "TAKE_PROFIT_PCT" 1.2 0.05 100
  fixedStop :
    env.envFloat "FIXED_STOP_PCT" 2.0 0.05 50 = env'.envFloat "FIXED_STOP_PCT" 2.0 0.05 50
  fee : env.envFloat "FEE_PCT_PER_SIDE" 0.1 0 5 = env'.envFloat "FEE_PCT_PER_SIDE" 0.1 0 5
  slippage : env.envFloat "BREAK_EVEN_SLIPPAGE_PCT" 0.05 0 5 =
    env'.envFloat "BREAK_EVEN_SLIPPAGE_PCT" 0.05 0 5
  trigger : env.envFloat "AUTO_BREAK_EVEN_TRIGGER_PCT" 0.5 0.05 20 =
    env'.envFloat "AUTO_BREAK_EVEN_TRIGGER_PCT" 0.5 0.05 20

section readers
variable {env env' : Environment} {name : String}

theorem envInt_of_integer {default n : ℤ} (h : env.integer name default = .ok n)
    (minimum maximum : ℤ) : env.envInt name default minimum maximum =
      if minimum ≤ n ∧ n ≤ maximum then .ok n
      else .error (.of .value (name ++ " outside safe bounds")) := by
  unfold Environment.integer at h
  have htext : env.intText name default = .ok n := by
    unfold Environment.intText
    split at h
    · next heq =>
      rw [heq]
      exact h
    · next heq =>
      rw [heq]
      exact h
    · cases h
  rw [Environment.envInt, htext]
  rfl

/-- The policy binds every integer. -/
theorem envInt_eq {default n : ℤ} (h : env.integer name default = .ok n)
    (h' : env'.integer name default = .ok n) (minimum maximum : ℤ) :
    env.envInt name default minimum maximum = env'.envInt name default minimum maximum := by
  rw [envInt_of_integer h, envInt_of_integer h']

/-- The value of a float, and that it is one. -/
theorem envFloat_ok {default minimum maximum value : ℚ}
    (h : env.envFloat name default minimum maximum = .ok value) :
    double.round value = value ∧ double.round minimum ≤ value ∧
      value ≤ double.round maximum := by
  rw [Environment.envFloat] at h
  obtain ⟨v, hv, h⟩ := except_bind_eq_ok.mp h
  have hround : double.round v = v := by
    unfold Environment.floatText at hv
    split at hv
    · obtain rfl := Except.ok.inj hv
      exact double.round_round _
    · obtain rfl := Except.ok.inj hv
      exact double.round_round _
    · cases hv
    · split at hv
      · obtain rfl := Except.ok.inj hv
        exact double.round_round _
      · cases hv
  split at h
  · cases h
  · split at h
    · next hbounds =>
      obtain rfl := Except.ok.inj h
      exact ⟨hround, hbounds⟩
    · cases h

/-- Decimals of floats are the same only for the same float. -/
theorem envDecimal_eq_iff {default minimum maximum : ℚ} :
    env.envDecimal name default minimum maximum = env'.envDecimal name default minimum maximum ↔
      env.envFloat name default minimum maximum = env'.envFloat name default minimum maximum := by
  constructor
  · intro h
    unfold Environment.envDecimal at h
    cases hv : env.envFloat name default minimum maximum with
    | error e =>
      cases hv' : env'.envFloat name default minimum maximum with
      | error e' =>
        rw [hv, hv'] at h
        exact congrArg _ (Except.error.inj h)
      | ok v' =>
        rw [hv, hv'] at h
        cases h
    | ok v =>
      cases hv' : env'.envFloat name default minimum maximum with
      | error e' =>
        rw [hv, hv'] at h
        cases h
      | ok v' =>
        rw [hv, hv'] at h
        have hdecimal : decimalOf v = decimalOf v' := Except.ok.inj h
        exact congrArg _ (double.shortest_inj _ (envFloat_ok hv).1 (envFloat_ok hv').1 hdecimal)
  · intro h
    rw [Environment.envDecimal, Environment.envDecimal, h]

theorem decimalOf_pos {value : ℚ} (hvalue : double.round value = value) (hpos : 0 < value) :
    0 < decimalOf value := by
  by_contra hneg
  have hle := double.round_nonpos (not_lt.mp hneg)
  rw [decimalOf, double.round_shortest _ hvalue] at hle
  exact absurd hpos (not_lt.mpr hle)

theorem envDecimal_pos {default minimum maximum x : ℚ} (hmin : 0 < double.round minimum)
    (h : env.envDecimal name default minimum maximum = .ok x) : 0 < x := by
  unfold Environment.envDecimal at h
  cases hv : env.envFloat name default minimum maximum with
  | error e =>
    rw [hv] at h
    cases h
  | ok v =>
    rw [hv] at h
    obtain ⟨hround, hlo, -⟩ := envFloat_ok hv
    obtain rfl : decimalOf v = x := Except.ok.inj h
    exact decimalOf_pos hround (hmin.trans_le hlo)

theorem tradeSizeBase_ok {size : Option ℚ} (h : env.tradeSizeBase = .ok size) :
    size = env.baseSize ∧ ∀ q, size = some q → 0 < q := by
  unfold Environment.tradeSizeBase at h
  rw [Environment.baseSize]
  split at h
  · next heq =>
    obtain rfl := Except.ok.inj h
    rw [heq]
    exact ⟨rfl, fun q hq => by cases hq⟩
  · next heq =>
    obtain rfl := Except.ok.inj h
    rw [heq]
    exact ⟨rfl, fun q hq => by cases hq⟩
  · cases h
  · split at h
    · cases h
    · next q hq =>
      split at h
      · cases h
      · next hbounds =>
        obtain rfl := Except.ok.inj h
        refine ⟨hq.symm, fun x hx => ?_⟩
        obtain rfl := Option.some.inj hx
        exact not_le.mp fun hle => hbounds (.inl hle)

end readers

section quantity
variable {a b : Config}

/-- The quantity before it is rounded. -/
def rawQuantity (cfg : Config) (entry : ℚ) : ℚ :=
  cfg.tradeSizeBase.getD (cfg.tradeSizeQuote / entry)

theorem configuredEntryQuantity_congr {rules : SymbolRules} {entry : ℚ}
    (h : rawQuantity a entry = rawQuantity b entry) :
    configuredEntryQuantity a rules entry = configuredEntryQuantity b rules entry := by
  unfold rawQuantity at h
  unfold configuredEntryQuantity
  rw [h]

/-- Rules with a step of any size. -/
def rulesOfStep (step : ℚ) (h : 0 < step) : SymbolRules :=
  { symbol := "BTCUSDT", base := "BTC", quote := "USDT", tick := 1, step := step, minQty := 0
    maxQty := 0, minNotional := 0, maxNotional := 0, trailMin := 10, trailMax := 2000
    ocoAllowed := true, otoAllowed := true, trailingAllowed := true, tick_pos := one_pos
    step_pos := h }

/-- A step as large as the larger of two quantities leaves nothing of the smaller one. -/
theorem configuredEntryQuantity_ne {entry : ℚ} (hpos : 0 < rawQuantity a entry)
    (hlt : rawQuantity a entry < rawQuantity b entry) : ∃ rules,
      configuredEntryQuantity a rules entry ≠ configuredEntryQuantity b rules entry := by
  have hstep := hpos.trans hlt
  set step := rawQuantity b entry with hb
  have hzero : floorStep (rawQuantity a entry) step = 0 := by
    have hfloor : ⌊rawQuantity a entry / step⌋ = 0 := by
      rw [Int.floor_eq_zero_iff]
      exact ⟨div_nonneg hpos.le hstep.le, (div_lt_one hstep).mpr hlt⟩
    rw [floorStep_of_nonneg hpos.le hstep, hfloor, Int.cast_zero, zero_mul]
  have hone : floorStep step step = step := by
    rw [floorStep_of_nonneg hstep.le hstep, div_self hstep.ne', Int.floor_one, Int.cast_one,
      one_mul]
  refine ⟨rulesOfStep step hstep, ?_⟩
  have ha : configuredEntryQuantity a (rulesOfStep step hstep) entry =
      .raise (.of .runtime "configured BTC entry quantity rounds to zero") := by
    have hraise : ¬0 < floorStep (rawQuantity a entry) step := by rw [hzero]; exact lt_irrefl 0
    unfold configuredEntryQuantity
    exact congrArg (· >>= _) (if_neg hraise)
  have hb' : configuredEntryQuantity b (rulesOfStep step hstep) entry =
      .pure (step, step * entry) := by
    have hquantity : floorStep (rawQuantity b entry) step = step := by rw [← hb, hone]
    have hensure : 0 < floorStep (rawQuantity b entry) step := by rw [hquantity]; exact hstep
    have hrun : configuredEntryQuantity b (rulesOfStep step hstep) entry =
        .pure (floorStep (rawQuantity b entry) step,
          floorStep (rawQuantity b entry) step * entry) :=
      congrArg (· >>= _) (if_pos hensure)
    rw [hrun, hquantity]
  rw [ha, hb']
  intro h
  cases h

theorem rawQuantity_eq {entry : ℚ} (ha : 0 < rawQuantity a entry) (hb : 0 < rawQuantity b entry)
    (h : ∀ rules, configuredEntryQuantity a rules entry = configuredEntryQuantity b rules entry) :
    rawQuantity a entry = rawQuantity b entry := by
  by_contra hne
  rcases lt_or_gt_of_ne hne with hlt | hlt
  · obtain ⟨rules, hrules⟩ := configuredEntryQuantity_ne ha hlt
    exact hrules (h rules)
  · obtain ⟨rules, hrules⟩ := configuredEntryQuantity_ne hb hlt
    exact hrules (h rules).symm

/-- The configured sizes are positive. -/
structure Sized (cfg : Config) : Prop where
  quote : 0 < cfg.tradeSizeQuote
  base : ∀ q, cfg.tradeSizeBase = some q → 0 < q

theorem Sized.rawQuantity_pos {cfg : Config} (h : Sized cfg) {entry : ℚ} (hentry : 0 < entry) :
    0 < rawQuantity cfg entry := by
  unfold rawQuantity
  cases hbase : cfg.tradeSizeBase with
  | none => exact div_pos h.quote hentry
  | some q => exact h.base q hbase

/-- A size in BTC and a size in quote do not buy the same at every price. -/
theorem Sized.ne_none {cfg : Config} (h : Sized cfg) {q : ℚ} (hq : 0 < q)
    (hsame : ∀ entry, 0 < entry → rawQuantity cfg entry = q) : cfg.tradeSizeBase ≠ none := by
  intro hnone
  have hentry : 0 < cfg.tradeSizeQuote / (2 * q) := div_pos h.quote (by linarith)
  have heq := hsame _ hentry
  rw [rawQuantity, hnone, Option.getD_none, div_div_cancel₀ h.quote.ne'] at heq
  linarith

theorem sizes_eq (ha : Sized a) (hb : Sized b)
    (h : ∀ (rules : SymbolRules) (entry : ℚ), 0 < entry →
      configuredEntryQuantity a rules entry = configuredEntryQuantity b rules entry) :
    a.tradeSizeBase = b.tradeSizeBase ∧
      (a.tradeSizeBase = none → a.tradeSizeQuote = b.tradeSizeQuote) := by
  have hraw : ∀ entry, 0 < entry → rawQuantity a entry = rawQuantity b entry :=
    fun entry hentry => rawQuantity_eq (ha.rawQuantity_pos hentry) (hb.rawQuantity_pos hentry)
      fun rules => h rules entry hentry
  have hone := hraw 1 one_pos
  cases hbasea : a.tradeSizeBase with
  | none =>
    cases hbaseb : b.tradeSizeBase with
    | none =>
      refine ⟨rfl, fun _ => ?_⟩
      rw [rawQuantity, rawQuantity, hbasea, hbaseb, Option.getD_none, Option.getD_none, div_one,
        div_one] at hone
      exact hone
    | some q =>
      refine absurd hbasea (ha.ne_none (hb.base q hbaseb) fun entry hentry => ?_)
      rw [hraw entry hentry, rawQuantity, hbaseb, Option.getD_some]
  | some q =>
    cases hbaseb : b.tradeSizeBase with
    | none =>
      refine absurd hbaseb (hb.ne_none (ha.base q hbasea) fun entry hentry => ?_)
      rw [← hraw entry hentry, rawQuantity, hbasea, Option.getD_some]
    | some q' =>
      rw [rawQuantity, rawQuantity, hbasea, hbaseb, Option.getD_some, Option.getD_some] at hone
      exact ⟨congrArg some hone, fun hnone => by cases hnone⟩

end quantity

section bots
variable {env env' : Environment} {upper : String → String} {quotes quotes' : List String}
  {base base' : Config} {p : RiskPolicy} {a b : Bot}

/-- What the policy says of the environment, as far as the adapter and the guard read it. -/
structure Signed (env : Environment) (p : RiskPolicy) : Prop where
  mode : env.policyMode = .ok p.entryProtectionMode
  openSeconds : env.integer "MAX_ENTRY_OPEN_SECONDS" 300 = .ok p.maxEntryOpenSeconds
  quote : env.numberText "TRADE_SIZE_QUOTE" 100 = .ok p.tradeSizeQuote
  takeProfit : env.numberText "TAKE_PROFIT_PCT" 1.2 = .ok p.protection.takeProfitPct
  fixedStop : env.numberText "FIXED_STOP_PCT" 2.0 = .ok p.protection.fixedStopPct
  fee : env.numberText "FEE_PCT_PER_SIDE" 0.1 = .ok p.protection.feePctPerSide
  slippage : env.numberText "BREAK_EVEN_SLIPPAGE_PCT" 0.05 = .ok p.protection.breakEvenSlippagePct
  trigger :
    env.numberText "AUTO_BREAK_EVEN_TRIGGER_PCT" 0.5 = .ok p.protection.autoBreakEvenTriggerPct
  delta : env.integer "TRAILING_DELTA_BIPS" 40 = .ok p.protection.trailingDeltaBips
  buffer : env.integer "LIMIT_FILL_BUFFER_BIPS" 20 = .ok p.protection.limitFillBufferBips
  filters : env.integer "SPOT_FILTER_MAX_AGE_SECONDS" 300 = .ok p.protection.spotFilterMaxAgeSeconds
  auto : env.boolean "AUTO_PROTECTION_ENABLED" false = .ok p.protection.autoEnabled
  tight : env.integer "AUTO_TIGHT_TRAIL_BIPS" 20 = .ok p.protection.autoTightTrailBips
  signalAge : env.integer "MAX_SIGNAL_AGE_SECONDS" 180 = .ok p.freshnessAndStops.maxSignalAgeSeconds
  candleAge : env.integer "MAX_CANDLE_AGE_SECONDS" 180 = .ok p.freshnessAndStops.maxCandleAgeSeconds
  cooldown : env.integer "PAIR_COOLDOWN_SECONDS" 60 = .ok p.freshnessAndStops.pairCooldownSeconds
  stopoutsPair :
    env.integer "MAX_STOPOUTS_PER_PAIR_DAY" 3 = .ok p.freshnessAndStops.maxStopoutsPerPairDay
  stopoutsGlobal :
    env.integer "MAX_STOPOUTS_GLOBAL_DAY" 10 = .ok p.freshnessAndStops.maxStopoutsGlobalDay
  flowAge : env.integer "MAX_FLOW_AGE_SECONDS" 45 = .ok p.flow.maxFlowAgeSeconds

theorem signed_of_policy (h : env.runtimeRiskPolicy upper quotes = .ok p) : Signed env p := by
  obtain ⟨mode, hmode, h⟩ := except_bind_eq_ok.mp h
  obtain ⟨size, hsize, h⟩ := except_bind_eq_ok.mp h
  obtain ⟨openSeconds, hopen, h⟩ := except_bind_eq_ok.mp h
  obtain ⟨protection, hprotection, h⟩ := except_bind_eq_ok.mp h
  obtain ⟨freshness, hfreshness, h⟩ := except_bind_eq_ok.mp h
  obtain ⟨flow, hflow, h⟩ := except_bind_eq_ok.mp h
  obtain ⟨gate, -, h⟩ := except_bind_eq_ok.mp h
  obtain rfl := Except.ok.inj h
  obtain ⟨takeProfit, htake, hprotection⟩ := except_bind_eq_ok.mp hprotection
  obtain ⟨fixedStop, hstop, hprotection⟩ := except_bind_eq_ok.mp hprotection
  obtain ⟨delta, hdelta, hprotection⟩ := except_bind_eq_ok.mp hprotection
  obtain ⟨buffer, hbuffer, hprotection⟩ := except_bind_eq_ok.mp hprotection
  obtain ⟨fee, hfee, hprotection⟩ := except_bind_eq_ok.mp hprotection
  obtain ⟨slippage, hslippage, hprotection⟩ := except_bind_eq_ok.mp hprotection
  obtain ⟨filters, hfilters, hprotection⟩ := except_bind_eq_ok.mp hprotection
  obtain ⟨auto, hauto, hprotection⟩ := except_bind_eq_ok.mp hprotection
  obtain ⟨trigger, htrigger, hprotection⟩ := except_bind_eq_ok.mp hprotection
  obtain ⟨tight, htight, hprotection⟩ := except_bind_eq_ok.mp hprotection
  obtain rfl := Except.ok.inj hprotection
  obtain ⟨signalAge, hsignal, hfreshness⟩ := except_bind_eq_ok.mp hfreshness
  obtain ⟨candleAge, hcandle, hfreshness⟩ := except_bind_eq_ok.mp hfreshness
  obtain ⟨cooldown, hcooldown, hfreshness⟩ := except_bind_eq_ok.mp hfreshness
  obtain ⟨stopoutsPair, hpair, hfreshness⟩ := except_bind_eq_ok.mp hfreshness
  obtain ⟨stopoutsGlobal, hglobal, hfreshness⟩ := except_bind_eq_ok.mp hfreshness
  obtain rfl := Except.ok.inj hfreshness
  obtain ⟨require, -, hflow⟩ := except_bind_eq_ok.mp hflow
  obtain ⟨confluence, -, hflow⟩ := except_bind_eq_ok.mp hflow
  obtain ⟨providers, -, hflow⟩ := except_bind_eq_ok.mp hflow
  obtain ⟨change, -, hflow⟩ := except_bind_eq_ok.mp hflow
  obtain ⟨deviation, -, hflow⟩ := except_bind_eq_ok.mp hflow
  obtain ⟨flowAge, hage, hflow⟩ := except_bind_eq_ok.mp hflow
  have hflowAge : flow.maxFlowAgeSeconds = flowAge := by
    obtain ⟨ratio, -, hflow⟩ := except_bind_eq_ok.mp hflow
    obtain ⟨imbalance, -, hflow⟩ := except_bind_eq_ok.mp hflow
    obtain ⟨refresh, -, hflow⟩ := except_bind_eq_ok.mp hflow
    obtain ⟨depth, -, hflow⟩ := except_bind_eq_ok.mp hflow
    obtain ⟨trades, -, hflow⟩ := except_bind_eq_ok.mp hflow
    obtain ⟨band, -, hflow⟩ := except_bind_eq_ok.mp hflow
    obtain ⟨stale, -, hflow⟩ := except_bind_eq_ok.mp hflow
    obtain rfl := Except.ok.inj hflow
    rfl
  exact ⟨hmode, hopen, hsize, htake, hstop, hfee, hslippage, htrigger, hdelta, hbuffer, hfilters,
    hauto, htight, hsignal, hcandle, hcooldown, hpair, hglobal, hflowAge ▸ hage⟩

/-- What the bot takes from the environment. -/
structure Built (env : Environment) (base : Config) (a : Bot) : Prop where
  auto : env.liveAuto = .ok a.autoProtectionEnabled
  mode : env.liveMode = .ok a.protectionMode
  guard : env.guardLimits = .ok a.guard
  filters : env.envInt "SPOT_FILTER_MAX_AGE_SECONDS" 300 10 3600 = .ok a.filterMaxAge
  quote : env.envDecimal "TRADE_SIZE_QUOTE" 100 5 100000 = .ok a.adapter.tradeSizeQuote
  size : env.tradeSizeBase = .ok a.adapter.tradeSizeBase
  openSeconds : ∃ n : ℤ, env.envInt "MAX_ENTRY_OPEN_SECONDS" 300 30 900 = .ok n ∧
    a.adapter.maxEntryOpenSeconds = n
  settings : env.protectionSettings = .ok a.adapter.settings
  trigger : a.autoBreakEvenTriggerPct = env.envDecimal "AUTO_BREAK_EVEN_TRIGGER_PCT" 0.5 0.05 20
  tight : a.autoTightTrailBips = env.envInt "AUTO_TIGHT_TRAIL_BIPS" 20 10 2000
  slippage : a.breakEvenSlippagePct = env.envDecimal "BREAK_EVEN_SLIPPAGE_PCT" 0.05 0 5
  flowAge : a.maxFlowAgeSeconds = env.envInt "MAX_FLOW_AGE_SECONDS" 45 5 300

theorem built_of_bot (h : env.bot base = .ok a) : Built env base a := by
  obtain ⟨auto, hauto, h⟩ := except_bind_eq_ok.mp h
  obtain ⟨mode, hmode, h⟩ := except_bind_eq_ok.mp h
  obtain ⟨guard, hguard, h⟩ := except_bind_eq_ok.mp h
  obtain ⟨filters, hfilters, h⟩ := except_bind_eq_ok.mp h
  obtain ⟨adapter, hadapter, h⟩ := except_bind_eq_ok.mp h
  obtain rfl := Except.ok.inj h
  obtain ⟨quote, hquote, hadapter⟩ := except_bind_eq_ok.mp hadapter
  obtain ⟨size, hsize, hadapter⟩ := except_bind_eq_ok.mp hadapter
  obtain ⟨openSeconds, hopen, hadapter⟩ := except_bind_eq_ok.mp hadapter
  obtain ⟨settings, hsettings, hadapter⟩ := except_bind_eq_ok.mp hadapter
  obtain rfl := Except.ok.inj hadapter
  exact ⟨hauto, hmode, hguard, hfilters, hquote, hsize, ⟨openSeconds, hopen, rfl⟩, hsettings, rfl,
    rfl, rfl, rfl⟩

theorem Built.sized (h : Built env base a) : Sized a.adapter where
  quote := by
    refine envDecimal_pos ?_ h.quote
    decide +kernel
  base := (tradeSizeBase_ok h.size).2

/-- The decimals of the settings are those of the environment. -/
theorem Built.decimals (h : Built env base a) :
    env.envDecimal "TAKE_PROFIT_PCT" 1.2 0.05 100 = .ok a.adapter.settings.takeProfitPct ∧
    env.envDecimal "FIXED_STOP_PCT" 2.0 0.05 50 = .ok a.adapter.settings.fixedStopPct ∧
    env.envDecimal "FEE_PCT_PER_SIDE" 0.1 0 5 = .ok a.adapter.settings.feePctPerSide := by
  obtain ⟨takeProfit, htake, hsettings⟩ := except_bind_eq_ok.mp h.settings
  obtain ⟨fixedStop, hstop, hsettings⟩ := except_bind_eq_ok.mp hsettings
  obtain ⟨delta, -, hsettings⟩ := except_bind_eq_ok.mp hsettings
  obtain ⟨buffer, -, hsettings⟩ := except_bind_eq_ok.mp hsettings
  obtain ⟨fee, hfee, hsettings⟩ := except_bind_eq_ok.mp hsettings
  have hsettings := Except.ok.inj hsettings
  rw [← hsettings]
  exact ⟨htake, hstop, hfee⟩

theorem mode_signed (hs : Signed env p) (hb : Built env base a) :
    a.protectionMode = p.entryProtectionMode := by
  have hmode := hb.mode
  have hpolicy := hs.mode
  unfold Environment.liveMode at hmode
  unfold Environment.policyMode at hpolicy
  split at hmode
  · next heq =>
    rw [heq] at hpolicy
    exact Except.ok.inj (hmode.symm.trans hpolicy)
  · next heq =>
    rw [heq] at hpolicy
    exact Except.ok.inj (hmode.symm.trans hpolicy)
  · cases hmode

theorem auto_signed (hs : Signed env p) (hb : Built env base a) :
    a.autoProtectionEnabled = p.protection.autoEnabled := by
  have hauto := hb.auto
  have hpolicy := hs.auto
  unfold Environment.liveAuto at hauto
  unfold Environment.boolean at hpolicy
  split at hauto
  · next heq =>
    rw [heq] at hpolicy
    exact Except.ok.inj (hauto.symm.trans hpolicy)
  · next heq =>
    rw [heq] at hpolicy
    exact Except.ok.inj (hauto.symm.trans hpolicy)
  · cases hauto

theorem guardLimits_eq (hs : Signed env p) (hs' : Signed env' p) :
    env.guardLimits = env'.guardLimits := by
  rw [Environment.guardLimits, Environment.guardLimits, envInt_eq hs.stopoutsPair hs'.stopoutsPair,
    envInt_eq hs.stopoutsGlobal hs'.stopoutsGlobal, envInt_eq hs.cooldown hs'.cooldown,
    envInt_eq hs.signalAge hs'.signalAge, envInt_eq hs.candleAge hs'.candleAge]

theorem protectionSettings_eq (hs : Signed env p) (hs' : Signed env' p) (h : Agree env env') :
    env.protectionSettings = env'.protectionSettings := by
  rw [Environment.protectionSettings, Environment.protectionSettings,
    envDecimal_eq_iff.mpr h.takeProfit, envDecimal_eq_iff.mpr h.fixedStop,
    envInt_eq hs.delta hs'.delta, envInt_eq hs.buffer hs'.buffer, envDecimal_eq_iff.mpr h.fee]

theorem agree_of_sameRisk (hba : Built env base a) (hbb : Built env' base' b)
    (h : SameRisk a b) : Agree env env' := by
  have hsize := (tradeSizeBase_ok hba.size).1
  have hsize' := (tradeSizeBase_ok hbb.size).1
  obtain ⟨hbase, hquote⟩ := sizes_eq hba.sized hbb.sized h.quantity
  obtain ⟨htake, hstop, hfee⟩ := hba.decimals
  obtain ⟨htake', hstop', hfee'⟩ := hbb.decimals
  rw [← h.settings] at htake' hstop' hfee'
  exact {
    base := by rw [← hsize, ← hsize', hbase]
    quote := fun hnone => by
      have heq := hquote (hsize.trans hnone)
      exact envDecimal_eq_iff.mp (hba.quote.trans (heq ▸ hbb.quote.symm))
    takeProfit := envDecimal_eq_iff.mp (htake.trans htake'.symm)
    fixedStop := envDecimal_eq_iff.mp (hstop.trans hstop'.symm)
    fee := envDecimal_eq_iff.mp (hfee.trans hfee'.symm)
    slippage := envDecimal_eq_iff.mp (hba.slippage.symm.trans (h.slippage.trans hbb.slippage))
    trigger := envDecimal_eq_iff.mp (hba.trigger.symm.trans (h.trigger.trans hbb.trigger)) }

theorem sameRisk_of_agree (hs : Signed env p) (hs' : Signed env' p) (hba : Built env base a)
    (hbb : Built env' base' b) (h : Agree env env') : SameRisk a b := by
  have hsize := (tradeSizeBase_ok hba.size).1
  have hsize' := (tradeSizeBase_ok hbb.size).1
  have hbase : a.adapter.tradeSizeBase = b.adapter.tradeSizeBase := by rw [hsize, hsize', h.base]
  have hquote : a.adapter.tradeSizeBase = none →
      a.adapter.tradeSizeQuote = b.adapter.tradeSizeQuote := by
    intro hnone
    have heq := envDecimal_eq_iff.mpr (h.quote (hsize.symm.trans hnone))
    rw [hba.quote, hbb.quote] at heq
    exact Except.ok.inj heq
  obtain ⟨n, hn, hopen⟩ := hba.openSeconds
  obtain ⟨n', hn', hopen'⟩ := hbb.openSeconds
  rw [envInt_eq hs.openSeconds hs'.openSeconds, hn'] at hn
  have hsettings := hba.settings
  rw [protectionSettings_eq hs hs' h, hbb.settings] at hsettings
  have hguard := hba.guard
  rw [guardLimits_eq hs hs', hbb.guard] at hguard
  have hfilters := hba.filters
  rw [envInt_eq hs.filters hs'.filters, hbb.filters] at hfilters
  exact {
    quantity := fun rules entry _ => configuredEntryQuantity_congr (by
      unfold rawQuantity
      rw [← hbase]
      cases hcase : a.adapter.tradeSizeBase with
      | none => rw [hquote hcase]
      | some q => rfl)
    openSeconds := by rw [hopen, hopen', Except.ok.inj hn]
    settings := (Except.ok.inj hsettings).symm
    mode := (mode_signed hs hba).trans (mode_signed hs' hbb).symm
    auto := (auto_signed hs hba).trans (auto_signed hs' hbb).symm
    filters := (Except.ok.inj hfilters).symm
    guard := (Except.ok.inj hguard).symm
    trigger := by rw [hba.trigger, hbb.trigger, envDecimal_eq_iff.mpr h.trigger]
    tight := by rw [hba.tight, hbb.tight, envInt_eq hs.tight hs'.tight]
    slippage := by rw [hba.slippage, hbb.slippage, envDecimal_eq_iff.mpr h.slippage]
    flowAge := by rw [hba.flowAge, hbb.flowAge, envInt_eq hs.flowAge hs'.flowAge] }

/-- The bots of two environments under one policy take the same risks exactly if the environments
agree on the size in BTC and on the digits that the policy leaves out. -/
theorem sameRisk_iff (hp : env.runtimeRiskPolicy upper quotes = .ok p)
    (hp' : env'.runtimeRiskPolicy upper quotes' = .ok p) (ha : env.bot base = .ok a)
    (hb : env'.bot base' = .ok b) : SameRisk a b ↔ Agree env env' :=
  ⟨agree_of_sameRisk (built_of_bot ha) (built_of_bot hb),
    sameRisk_of_agree (signed_of_policy hp) (signed_of_policy hp') (built_of_bot ha)
      (built_of_bot hb)⟩

/-- No number of the environment has more digits than the context of decimals keeps. -/
def Short (env : Environment) : Prop := ∀ name q, (env name).number = some q → context.round q = q

theorem floatText_of_number {name : String} {default q : ℚ} (h : (env name).number = some q) :
    env.floatText name default = .ok (double.round q) := by
  unfold Environment.floatText
  split
  · next heq =>
    rw [heq] at h
    cases h
  · next heq =>
    rw [heq] at h
    cases h
  · next heq =>
    rw [heq] at h
    cases h
  · rw [h]

theorem Short.floatText {name : String} {default q : ℚ} (hs : Short env)
    (hdefault : context.round default = default) (h : env.numberText name default = .ok q) :
    env.floatText name default = .ok (double.round q) := by
  unfold Environment.numberText at h
  split at h
  · next heq =>
    rw [← Except.ok.inj h, hdefault, Environment.floatText, heq]
  · split at h
    · next x hx =>
      rw [← Except.ok.inj h, hs name x hx]
      exact floatText_of_number hx
    · cases h

/-- The policy binds every number of few digits. -/
theorem Short.envFloat_eq {name : String} {default q : ℚ} (hs : Short env) (hs' : Short env')
    (h : env.numberText name default = .ok q) (h' : env'.numberText name default = .ok q)
    (hdefault : context.round default = default) (minimum maximum : ℚ) :
    env.envFloat name default minimum maximum = env'.envFloat name default minimum maximum := by
  rw [Environment.envFloat, Environment.envFloat, hs.floatText hdefault h,
    hs'.floatText hdefault h']

/-- With numbers of few digits, all that the policy leaves out is the size in BTC. -/
theorem Short.agree_iff (hshort : Short env) (hshort' : Short env') (hs : Signed env p)
    (hs' : Signed env' p) : Agree env env' ↔ env.baseSize = env'.baseSize := by
  constructor
  · exact fun h => h.base
  · intro hbase
    exact {
      base := hbase
      quote := fun _ => hshort.envFloat_eq hshort' hs.quote hs'.quote (by decide +kernel) _ _
      takeProfit := hshort.envFloat_eq hshort' hs.takeProfit hs'.takeProfit (by decide +kernel) _ _
      fixedStop := hshort.envFloat_eq hshort' hs.fixedStop hs'.fixedStop (by decide +kernel) _ _
      fee := hshort.envFloat_eq hshort' hs.fee hs'.fee (by decide +kernel) _ _
      slippage := hshort.envFloat_eq hshort' hs.slippage hs'.slippage (by decide +kernel) _ _
      trigger := hshort.envFloat_eq hshort' hs.trigger hs'.trigger (by decide +kernel) _ _ }

end bots

/-- An environment in which nothing is set. -/
def unset : Environment := fun _ => .absent

/-- An environment with one variable. -/
def setting (name : String) (s : Setting) : Environment := fun n => if n = name then s else .absent

/-- A configuration of what is no risk setting. -/
def plain : Config := { hash := fun _ => 0, requestHash := fun _ => 0 }

theorem exists_bot (env : Environment) (h : (env.bot plain).isOk = true) :
    ∃ a, env.bot plain = .ok a := by
  cases heq : env.bot plain with
  | ok a => exact ⟨a, rfl⟩
  | error e =>
    rw [heq] at h
    cases h

/-- Writing the default size out does not change the bot. -/
theorem sameRisk_iff_rewritten : ∃ p a b,
    unset.runtimeRiskPolicy id [] = .ok p ∧
      (setting "TRADE_SIZE_QUOTE" (.num 100)).runtimeRiskPolicy id [] = .ok p ∧
      unset.bot plain = .ok a ∧ (setting "TRADE_SIZE_QUOTE" (.num 100)).bot plain = .ok b ∧
      (SameRisk a b ↔ Agree unset (setting "TRADE_SIZE_QUOTE" (.num 100))) ∧
      Agree unset (setting "TRADE_SIZE_QUOTE" (.num 100)) := by
  obtain ⟨a, ha⟩ := exists_bot unset (by decide +kernel)
  obtain ⟨b, hb⟩ := exists_bot (setting "TRADE_SIZE_QUOTE" (.num 100)) (by decide +kernel)
  obtain ⟨p, hp⟩ : ∃ p, unset.runtimeRiskPolicy id [] = .ok p := ⟨_, rfl⟩
  have hp' : (setting "TRADE_SIZE_QUOTE" (.num 100)).runtimeRiskPolicy id [] = .ok p := hp ▸ rfl
  exact ⟨p, a, b, hp, hp', ha, hb, sameRisk_iff hp hp' ha hb,
    ⟨rfl, fun _ => rfl, rfl, rfl, rfl, rfl, rfl⟩⟩

/-- A size in BTC changes the bot and not the policy. -/
theorem sameRisk_fails : ∃ p a b,
    unset.runtimeRiskPolicy id [] = .ok p ∧
      (setting "TRADE_SIZE_BASE" (.int 1)).runtimeRiskPolicy id [] = .ok p ∧
      unset.bot plain = .ok a ∧ (setting "TRADE_SIZE_BASE" (.int 1)).bot plain = .ok b ∧
      ¬SameRisk a b := by
  obtain ⟨a, ha⟩ := exists_bot unset (by decide +kernel)
  obtain ⟨b, hb⟩ := exists_bot (setting "TRADE_SIZE_BASE" (.int 1)) (by decide +kernel)
  obtain ⟨p, hp⟩ : ∃ p, unset.runtimeRiskPolicy id [] = .ok p := ⟨_, rfl⟩
  refine ⟨p, a, b, hp, hp ▸ rfl, ha, hb, fun h => ?_⟩
  have hbase := (agree_of_sameRisk (built_of_bot ha) (built_of_bot hb) h).base
  cases hbase

end SpotSidecar.Evidence
