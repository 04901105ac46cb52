import SpotSidecar.Exchange.Desk
import SpotSidecar.Safety.Readings
import SpotSidecar.State.Rounding

/-! The replacement orders of `convert` and the prices in them. -/
namespace SpotSidecar
open Interaction Prog

theorem feeAdjustedBreakEven_pos {entry buy sell slippage breakEven : ℚ}
    (h : feeAdjustedBreakEven entry buy sell slippage = .ok breakEven) :
    0 < entry ∧ 0 < breakEven := by
  unfold feeAdjustedBreakEven at h
  dsimp only at h
  split at h
  · cases h
  · next hin =>
    split at h
    · cases h
    · next hratio =>
      simp only [Bool.or_eq_true, decide_eq_true_eq, not_or, not_le, not_lt] at hin hratio
      obtain rfl := Except.ok.inj h
      have hcost : 0 < 1 + (buy + slippage) / 100 := by linarith
      exact ⟨hin.1, div_pos (mul_pos hin.1 hcost) hratio⟩

namespace ProtectionSettings

/-- The trailing delta of a replacement. -/
def deltaFor (s : ProtectionSettings) (rules : SymbolRules) (trailingDeltaBips : Option ℤ) : ℤ :=
  delta rules ((trailingDeltaBips.filter (· ≠ 0)).getD s.trailingDeltaBips)

/-- The stop of a fixed replacement before it is rounded. -/
def fixedStop (s : ProtectionSettings) (entry : ℚ) (stopPrice : Option ℚ) : ℚ :=
  stopPrice.getD (entry * (1 - s.fixedStopPct / 100))

end ProtectionSettings

section locked
variable {cfg : Config} {rules : SymbolRules} {entry stop : ℚ} {lockProfitPct : Option ℚ}

/-- The limit price of a stop leg with the buffer of the settings. -/
def Config.limitBelow (cfg : Config) (rules : SymbolRules) (stop : ℚ) : ℚ :=
  ProtectionSettings.below rules stop cfg.settings.limitFillBufferBips

/-- The price that the limit of a locked stop must reach. -/
def lockedTarget (entry breakEven : ℚ) : Option ℚ → ℚ
  | some pct => max breakEven (entry * (1 + |pct| / 100))
  | none => breakEven

theorem le_lockedTarget (entry breakEven : ℚ) (lockProfitPct : Option ℚ) :
    breakEven ≤ lockedTarget entry breakEven lockProfitPct := by
  cases lockProfitPct with
  | none => exact le_rfl
  | some pct => exact le_max_left _ _

theorem profit_le_lockedTarget {entry : ℚ} (hentry : 0 ≤ entry) (breakEven : ℚ)
    {lockProfitPct : Option ℚ} {pct : ℚ} (h : pct ∈ lockProfitPct) :
    entry * (1 + pct / 100) ≤ lockedTarget entry breakEven lockProfitPct := by
  rw [Option.mem_def.mp h]
  have habs : 1 + pct / 100 ≤ 1 + |pct| / 100 := by
    have := le_abs_self pct
    linarith
  exact (mul_le_mul_of_nonneg_left habs hentry).trans (le_max_right _ _)

theorem lockedStopPrice_ok (h : lockedStopPrice cfg rules entry lockProfitPct = .ok stop) :
    ∃ breakEven,
      feeAdjustedBreakEven entry cfg.settings.feePctPerSide cfg.settings.feePctPerSide
        cfg.breakEvenSlippagePct = .ok breakEven ∧
      stop = ceilStep (ceilStep (lockedTarget entry breakEven lockProfitPct) rules.tick /
        (1 - cfg.settings.limitFillBufferBips / 10000)) rules.tick := by
  unfold lockedStopPrice at h
  obtain ⟨breakEven, hbe, hstop⟩ := except_bind_eq_ok.mp h
  refine ⟨breakEven, hbe, ?_⟩
  cases lockProfitPct with
  | none => exact (Except.ok.inj hstop).symm
  | some pct => exact (Except.ok.inj hstop).symm

/-- The two roundings up of the stop make good for the buffer and the rounding down of its limit. -/
theorem lockedStopPrice_spec (hbuffer : 0 ≤ cfg.settings.limitFillBufferBips)
    (hbelow : cfg.settings.limitFillBufferBips < 10000)
    (h : lockedStopPrice cfg rules entry lockProfitPct = .ok stop) :
    ∃ breakEven,
      feeAdjustedBreakEven entry cfg.settings.feePctPerSide cfg.settings.feePctPerSide
        cfg.breakEvenSlippagePct = .ok breakEven ∧
      Multiple rules.tick stop ∧
      lockedTarget entry breakEven lockProfitPct ≤ cfg.limitBelow rules stop ∧
      cfg.limitBelow rules stop ≤ stop := by
  obtain ⟨breakEven, hbe, hstop⟩ := lockedStopPrice_ok h
  have htick := rules.tick_pos
  have hpos := (feeAdjustedBreakEven_pos hbe).2
  have htarget := le_lockedTarget entry breakEven lockProfitPct
  set target := lockedTarget entry breakEven lockProfitPct
  have hkept : 0 < 1 - (cfg.settings.limitFillBufferBips : ℚ) / 10000 := by
    have hlt : (cfg.settings.limitFillBufferBips : ℚ) < 10000 := by exact_mod_cast hbelow
    rw [sub_pos, div_lt_one (by norm_num)]
    exact hlt
  have hkept₁ : 1 - (cfg.settings.limitFillBufferBips : ℚ) / 10000 ≤ 1 :=
    sub_le_self 1 (div_nonneg (by exact_mod_cast hbuffer) (by norm_num))
  have hlimit : cfg.limitBelow rules stop =
      floorStep (stop * (1 - (cfg.settings.limitFillBufferBips : ℚ) / 10000)) rules.tick := rfl
  set kept := 1 - (cfg.settings.limitFillBufferBips : ℚ) / 10000
  have hraised : ceilStep target rules.tick ≤ stop * kept := by
    rw [← div_le_iff₀ hkept, hstop]
    exact le_ceilStep _ htick
  have hceil : target ≤ ceilStep target rules.tick := le_ceilStep _ htick
  have hnonneg : 0 ≤ stop * kept := by linarith
  have hstop₀ : 0 ≤ stop := nonneg_of_mul_nonneg_left hnonneg hkept
  refine ⟨breakEven, hbe, hstop ▸ multiple_ceilStep _ _, ?_, ?_⟩
  · rw [hlimit]
    exact hceil.trans ((multiple_ceilStep _ _).le_floorStep htick hnonneg hraised)
  · calc cfg.limitBelow rules stop ≤ stop * kept := floorStep_le hnonneg htick
      _ ≤ stop * 1 := mul_le_mul_of_nonneg_left hkept₁ hstop₀
      _ = stop := mul_one stop

end locked

/-- What `OrderRequestFactory.replacement` builds in a mode. -/
inductive Replacement (s : ProtectionSettings) (rules : SymbolRules) (qty entry current : ℚ)
    (stopPrice : Option ℚ) (trailingDeltaBips : Option ℤ) :
    ProtectionMode → Endpoint → Params → Prop
  | trailingOnly (client : ClientId) :
    Replacement s rules qty entry current stopPrice trailingDeltaBips .trailingOnly .order
      (trailingRequest s rules qty current (s.deltaFor rules trailingDeltaBips) client)
  | fixedOco (list above below : ClientId)
      (hstop : floorStep (s.fixedStop entry stopPrice) rules.tick < current) :
    Replacement s rules qty entry current stopPrice trailingDeltaBips .fixedOco .orderListOco
      { ocoRequest s rules qty entry current list above below with
        belowStopPrice := some (floorStep (s.fixedStop entry stopPrice) rules.tick)
        belowPrice := some (ProtectionSettings.below rules
          (floorStep (s.fixedStop entry stopPrice) rules.tick) s.limitFillBufferBips) }
  | ocoTrailing (list above below : ClientId) :
    Replacement s rules qty entry current stopPrice trailingDeltaBips .ocoTrailing .orderListOco
      { ocoRequest s rules qty entry current list above below with
        belowTrailingDelta := some (s.deltaFor rules trailingDeltaBips)
        belowPrice := some (ProtectionSettings.below rules current
          (s.deltaFor rules trailingDeltaBips + s.limitFillBufferBips)) }

section plan
variable {σ α : Type} {cfg : Config} {env : Env σ}

theorem triple_currentPrice (symbol : Symbol) (r : Readings) :
    Triple env.hears (fun v => v.2 = r) (currentPrice symbol)
      (fun q v => v.2 = { r with prices := .num q :: r.prices } ∧ 0 < q) (fun _ _ => True)
      fun _ => True := by
  unfold currentPrice
  refine Triple.bind (Q := fun price v => v.2 = { r with prices := price :: r.prices }) ?_
    fun price => ?_
  · refine Triple.perform (fun _ _ => trivial) (fun v price v' hv heq => ?_)
      fun _ _ _ _ _ => trivial
    obtain ⟨hanswer, rfl⟩ := Prod.mk.inj heq
    simp only [Readings.asked, hanswer, hv]
    rfl
  · unfold priceOf
    split
    · exact Triple.bind (Triple.ensure (fun hq v hv => And.intro hv hq) fun _ _ _ => trivial)
        fun _ => .pure fun _ hv => hv
    · exact .raise fun _ _ => trivial
    · exact .raise fun _ _ => trivial

/-- The rules of an answer, as far as prices and quantities need them. -/
structure SymbolRules.From (rules : SymbolRules) (info : SymbolInfo) : Prop where
  tick : rules.tick = info.tickSize
  step : rules.step = info.stepSize
  trailMin : rules.trailMin = info.minTrailingBelowDelta
  trailMax : rules.trailMax = info.maxTrailingBelowDelta

theorem triple_rulesOf_reading (pair : Pair) (r : Readings) :
    Triple env.hears (fun v => v.2 = r) (rulesOf cfg pair)
      (fun rules v => ∃ info, v.2 = { r with infos := info :: r.infos } ∧ rules.From info)
      (fun _ _ => True) fun _ => True := by
  unfold rulesOf
  refine Triple.bind (triple_unread ?_ (· = r)) fun _ => ?_
  · exact .bind .ensure fun _ => .ensure
  refine Triple.bind (Q := fun info v => v.2 = { r with infos := info :: r.infos }) ?_
    fun info => ?_
  · refine Triple.perform (fun _ _ => trivial) (fun v info v' hv heq => ?_) fun _ _ _ _ _ => trivial
    obtain ⟨hanswer, rfl⟩ := Prod.mk.inj heq
    simp only [Readings.asked, hanswer, hv]
    rfl
  refine Triple.bind (triple_unread ?_ (· = { r with infos := info :: r.infos })) fun _ => ?_
  · unfold validateExchangeSymbol
    exact .bind .ensure fun _ => .bind .ensure fun _ => .bind .ensure fun _ =>
      .bind .ensure fun _ => .ensure
  split
  · exact .pure fun v hv => ⟨info, hv, rfl, rfl, rfl, rfl⟩
  · exact .raise fun _ _ => trivial

/-- What the factory builds, whatever client ids it draws. -/
theorem triple_factoryReplacement_built {W : Type}
    {exec : ∀ γ : Type, Ask γ → W → Except Exc γ × W} (mode : ProtectionMode)
    (rules : SymbolRules) (qty entry current : ℚ) (stopPrice : Option ℚ)
    (trailingDeltaBips : Option ℤ) :
    Triple exec (fun _ => True)
      (factoryReplacement cfg mode rules qty entry current stopPrice trailingDeltaBips)
      (fun built _ => 0 < floorStep qty rules.step ∧
        Replacement cfg.settings rules (floorStep qty rules.step) entry current stopPrice
          trailingDeltaBips mode built.1 built.2)
      (fun _ _ => True) fun _ => True := by
  have hany : ∀ {β : Type} (m : Asking β), Triple exec (fun _ => True) m
      (fun _ _ => True) (fun _ _ => True) fun _ => True := fun _ => Triple.top
  unfold factoryReplacement
  refine Triple.bind (Q := fun _ _ => 0 < floorStep qty rules.step) ?_ fun _ => ?_
  · exact Triple.ensure (fun hpos _ _ => hpos.1) fun _ _ _ => trivial
  refine Triple.assume fun _ hqty => Triple.weaken ?_ fun _ _ => trivial
  cases mode with
  | trailingOnly =>
    refine Triple.bind (hany _) fun client => .pure fun _ _ => ?_
    exact ⟨hqty, .trailingOnly client⟩
  | fixedOco =>
    refine Triple.bind (hany _) fun list => Triple.bind (hany _) fun above => ?_
    refine Triple.bind (hany _) fun below => ?_
    refine Triple.bind (Q := fun _ _ =>
      floorStep (cfg.settings.fixedStop entry stopPrice) rules.tick < current) ?_ fun _ => ?_
    · exact Triple.ensure (fun hstop _ _ => hstop) fun _ _ _ => trivial
    · exact .pure fun _ hstop => ⟨hqty, .fixedOco list above below hstop⟩
  | ocoTrailing =>
    refine Triple.bind (hany _) fun list => Triple.bind (hany _) fun above => ?_
    refine Triple.bind (hany _) fun below => .pure fun _ _ => ?_
    exact ⟨hqty, .ocoTrailing list above below⟩

theorem triple_factoryReplacement_reading (mode : ProtectionMode) (rules : SymbolRules)
    (qty entry current : ℚ) (stopPrice : Option ℚ) (trailingDeltaBips : Option ℤ) (r : Readings) :
    Triple env.hears (fun v => v.2 = r)
      (factoryReplacement cfg mode rules qty entry current stopPrice trailingDeltaBips)
      (fun built v => v.2 = r ∧ 0 < floorStep qty rules.step ∧
        Replacement cfg.settings rules (floorStep qty rules.step) entry current stopPrice
          trailingDeltaBips mode built.1 built.2)
      (fun _ _ => True) fun _ => True := by
  have hclient : ∀ role, (call (.newClientId role)).All Ask.unread := fun _ => unread_call trivial
  have hunread : (factoryReplacement cfg mode rules qty entry current stopPrice
      trailingDeltaBips).All Ask.unread := by
    unfold factoryReplacement
    refine .bind .ensure fun _ => ?_
    cases mode with
    | trailingOnly => exact .bind (hclient _) fun _ => .pure
    | fixedOco =>
      exact .bind (hclient _) fun _ => .bind (hclient _) fun _ => .bind (hclient _) fun _ =>
        .bind .ensure fun _ => .pure
    | ocoTrailing =>
      exact .bind (hclient _) fun _ => .bind (hclient _) fun _ => .bind (hclient _) fun _ => .pure
  have hbuilt : Triple env.hears (fun _ => True)
      (factoryReplacement cfg mode rules qty entry current stopPrice trailingDeltaBips) _ _ _ :=
    triple_factoryReplacement_built mode rules qty entry current stopPrice trailingDeltaBips
  exact ((triple_unread hunread (· = r)).and hbuilt).conseq (fun _ hv => ⟨hv, trivial⟩)
    (fun _ _ hv => hv) (fun _ _ _ => trivial) fun _ _ => trivial

/-- The conversion that a store and the arguments of a call settle. -/
structure Planned (cfg : Config) (args : ConvertArgs) (s : Store) (symbol : Symbol)
    (c : Conversion) : Prop where
  row : s.activeTradeForSymbol symbol = .ok (some c.row)
  entry : c.entry = c.row.averageEntryPrice.getD 0
  qty : c.qty = floorStep ((c.row.protectedQuantity.or c.row.filledQuantity).getD 0) c.rules.step
  mode : c.mode = if args.locked then .fixedOco else args.mode
  stopPrice : stopPriceFor cfg c.rules c.entry args = .ok c.stopPrice
  above : ∀ stop ∈ c.stopPrice, c.entry < stop

/-- The conversion goes by the rules that were read last. -/
def Conversion.RuledBy (c : Conversion) (infos : List SymbolInfo) : Prop :=
  ∃ info, infos.head? = some info ∧ c.rules.From info

/-- An order for a quantity, built from the last reading of the price. -/
def Conversion.Builds (c : Conversion) (cfg : Config) (args : ConvertArgs) (qty : ℚ)
    (prices : List Scalar) (endpoint : Endpoint) (params : Params) : Prop :=
  ∃ current, prices.head? = some (.num current) ∧
    Replacement cfg.settings c.rules qty c.entry current c.stopPrice args.trailingDeltaBips
      c.mode endpoint params

theorem triple_planConversion_reading (symbol : Symbol) (args : ConvertArgs) (s : Store)
    (r : Readings) :
    Triple env.hears (fun v => v.1.store = s ∧ v.2 = r) (planConversion cfg symbol args)
      (fun planned v => ∀ c, planned = .ok c → Planned cfg args s symbol c ∧ 0 < c.qty ∧
        c.RuledBy v.2.infos ∧ c.Builds cfg args c.qty v.2.prices c.endpoint c.params)
      (fun _ _ => True) fun _ => True := by
  unfold planConversion
  refine Triple.bind (Q := fun a v => v.2 = r ∧ a = s) ?_ fun a => ?_
  · refine Triple.perform (fun _ _ => trivial) (fun v a v' hv heq => ?_) fun _ _ _ _ _ => trivial
    obtain ⟨hanswer, rfl⟩ := Prod.mk.inj heq
    exact ⟨hv.2, (Except.ok.inj hanswer).symm.trans hv.1⟩
  refine Triple.assume_eq fun ha => ?_
  subst ha
  refine Triple.bind (Q := fun found v => v.2 = r ∧ a.activeTradeForSymbol symbol = .ok found)
    (.ofExcept (fun found hfound v hv => ⟨hv, hfound⟩) fun _ _ _ _ => trivial) fun found => ?_
  refine Triple.assume_eq fun hfound => ?_
  cases found with
  | none => exact .pure fun _ _ _ h => by cases h
  | some row =>
    refine Triple.bind (triple_unread unread_theStore (· = r)) fun s' => ?_
    refine .ite (fun _ => .pure fun _ _ _ h => by cases h) fun _ => ?_
    refine .ite (fun _ => .pure fun _ _ _ h => by cases h) fun _ => ?_
    refine Triple.bind (triple_unread (unread_call (c := .activePair) trivial) (· = r))
      fun active => ?_
    refine .ite (fun _ => .pure fun _ _ _ h => by cases h) fun _ => ?_
    refine Triple.bind (triple_rulesOf_reading _ r) fun rules => ?_
    refine Triple.exists_pre fun info => Triple.assume_eq fun hinfo => ?_
    refine Triple.bind (triple_currentPrice _ _) fun current => Triple.assume_eq fun _ => ?_
    refine .ite (fun _ => .pure fun _ _ _ h => by cases h) fun _ => ?_
    set r' : Readings :=
      { r with infos := info :: r.infos, prices := .num current :: r.prices } with hr'
    set entry := row.averageEntryPrice.getD 0
    set qty := floorStep ((row.protectedQuantity.or row.filledQuantity).getD 0) rules.step
    refine Triple.bind (Q := fun stop v => v.2 = r' ∧ stopPriceFor cfg rules entry args = .ok stop)
      (.ofExcept (fun stop hstop v hv => ⟨hv, hstop⟩) fun _ _ _ _ => trivial) fun stop => ?_
    refine Triple.assume_eq fun hstop => ?_
    refine .ite (fun _ => .pure fun _ _ _ h => by cases h) fun habove => ?_
    refine Triple.bind (triple_unread .ensure (· = r')) fun _ => ?_
    refine Triple.bind (triple_factoryReplacement_reading _ _ _ _ _ _ _ r') fun built => ?_
    refine Triple.assume_eq fun hbuilt => ?_
    have hqty : floorStep qty rules.step = qty :=
      (multiple_floorStep _ _).floorStep_eq rules.step_pos
    rw [hqty] at hbuilt
    refine Triple.bind (triple_unread (unread_preflight _ _ _ _ _) (· = r')) fun _ => ?_
    refine .pure fun v hv c hc => ?_
    obtain rfl := Except.ok.inj hc
    rw [hv]
    have habove : ∀ lim ∈ stop, entry < lim := by
      intro lim hlim
      rw [Option.mem_def.mp hlim] at habove
      simp only [Option.any_some, Bool.not_eq_true', Bool.not_eq_false, Bool.and_eq_true,
        decide_eq_true_eq] at habove
      exact habove.1
    refine ⟨⟨hfound, rfl, rfl, rfl, hstop, habove⟩, ?_, ⟨info, rfl, hinfo⟩, ?_⟩
    · exact hqty ▸ hbuilt.1
    · exact ⟨current, rfl, hbuilt.2⟩

/-- An order of a conversion: it is built for what the exchange still held of the planned quantity,
from the last answers before its POST. -/
structure Converted (cfg : Config) (args : ConvertArgs) (s : Store) (symbol : Symbol)
    (c : Conversion) (order : Placed) : Prop where
  planned : Planned cfg args s symbol c
  trades : order.store.trades = s.trades
  ruled : c.RuledBy order.infos
  built : ∃ balances, order.accounts.head? = some balances ∧
    0 < min (floorStep (balanceOf balances "BTC").1 c.rules.step) c.qty ∧
    c.Builds cfg args (min (floorStep (balanceOf balances "BTC").1 c.rules.step) c.qty) order.prices
      order.endpoint order.params

theorem triple_replacementFor (args : ConvertArgs) (c : Conversion) (held : ℚ) (r : Readings)
    (hheld : Multiple c.rules.step held)
    (hbuilt : c.Builds cfg args c.qty r.prices c.endpoint c.params) :
    Triple env.hears (fun v => v.2 = r) (replacementFor cfg args c held)
      (fun order v => ∃ prices, v.2 = { r with prices := prices } ∧
        c.Builds cfg args (min held c.qty) prices order.1 order.2)
      (fun _ _ => True) fun _ => True := by
  unfold replacementFor
  refine .ite (fun hless => ?_) fun hless => ?_
  · refine Triple.bind (triple_currentPrice _ _) fun current => Triple.assume_eq fun _ => ?_
    refine (triple_factoryReplacement_reading _ _ _ _ _ _ _ _).post fun order v hv => ?_
    rw [hheld.floorStep_eq c.rules.step_pos] at hv
    rw [min_eq_left hless.le]
    exact ⟨_, hv.1, current, rfl, hv.2.2⟩
  · refine .pure fun v hv => ⟨r.prices, hv, ?_⟩
    rw [min_eq_right (not_lt.mp hless)]
    exact hbuilt

theorem triple_freeBalance (asset : Asset) (r : Readings) :
    Triple env.hears (fun v => v.2 = r) (freeBalance asset)
      (fun free v => ∃ balances, v.2 = { r with accounts := balances :: r.accounts } ∧
        free = (balanceOf balances asset).1) (fun _ _ => True) fun _ => True := by
  unfold freeBalance accountBalances
  refine Triple.bind (Q := fun balances v => v.2 = { r with accounts := balances :: r.accounts }) ?_
    fun balances => .pure fun v hv => ⟨balances, hv, rfl⟩
  refine Triple.bind (Q := fun account v => ∀ balances, account = some balances →
    v.2 = { r with accounts := balances :: r.accounts }) ?_ fun account => ?_
  · refine Triple.perform (fun _ _ => trivial) (fun v account v' hv heq balances hb => ?_)
      fun _ _ _ _ _ => trivial
    obtain ⟨hanswer, rfl⟩ := Prod.mk.inj heq
    simp only [Readings.asked, hanswer, hb, hv]
    rfl
  · cases account with
    | none => exact .raise fun _ _ => trivial
    | some balances => exact .pure fun v hv => hv balances rfl

/-- The orders placed since `placed` are of a kind. -/
def Adds (placed : List Placed) (F : Placed → Prop) (v : World σ × Readings) : Prop :=
  ∀ order ∈ v.2.placed, order ∈ placed ∨ F order

theorem Adds.of_eq {placed : List Placed} {F : Placed → Prop} {v : World σ × Readings}
    (h : v.2.placed = placed) : Adds placed F v := by
  intro order horder
  rw [h] at horder
  exact .inl horder

theorem Adds.of_once {r : Readings} {t : List TradeRow} {endpoint : Endpoint} {params : Params}
    {F : Placed → Prop} {v : World σ × Readings} (h : r.Once t endpoint params v.2.placed)
    (hF : ∀ s : Store, s.trades = t → F ⟨s, endpoint, params, r.prices, r.infos, r.accounts⟩) :
    Adds r.placed F v := by
  rcases h with h | ⟨s, hs, h⟩
  · exact .of_eq h
  · intro order horder
    rw [h] at horder
    rcases List.mem_cons.mp horder with rfl | horder
    · exact .inr (hF s hs)
    · exact .inl horder

/-- Questions among acts: they place nothing and leave the rows. -/
theorem triple_asking {m : Asking α} {P : World σ × Readings → Prop}
    {Q : α → World σ × Readings → Prop} {placed : List Placed} {t : List TradeRow}
    (hP : ∀ v, P v → v.2.placed = placed ∧ v.1.store.trades = t)
    (h : Triple env.hears P m Q (fun _ _ => True) fun _ => True) :
    Triple env.reads P (liftM m : Acting α)
      (fun a v => Q a v ∧ v.2.placed = placed ∧ v.1.store.trades = t)
      (fun _ v => v.2.placed = placed) fun v => v.2.placed = placed := by
  have hkeeps : Keeps env.hears (fun v => v.2.placed = placed ∧ v.1.store.trades = t) m :=
    .both (keeps_placed m (· = placed)) (Triple.watched (keeps_trades m t))
  refine Triple.heard ((h.and hkeeps).conseq (fun v hv => ⟨hv, hP v hv⟩) (fun _ _ hv => hv) ?_ ?_)
  · exact fun _ v hv => hv.2.1
  · exact fun v hv => hv.2.1

theorem unplacing_finishConversion (args : ConvertArgs) (c : Conversion) (endpoint : Endpoint)
    (params : Params) (held : ℚ) (id : IntentId) (response : Response) :
    Unplacing (finishConversion cfg args c endpoint params held id response) := by
  unfold finishConversion
  refine .bind (Unplacing.settles (.bindIntent _ _ _)) fun _ => .bind .ofExcept fun ids => ?_
  exact .bind .ofExcept fun stop => .bind (Unplacing.upsert _ _ _) fun _ => .pure

theorem triple_submitReplacement (args : ConvertArgs) (s : Store) (symbol : Symbol)
    (c : Conversion) (planId : IntentId) (r : Readings) (balances : Balances)
    (hplanned : Planned cfg args s symbol c) (hruled : c.RuledBy r.infos)
    (hbalances : r.accounts.head? = some balances) (hqty : 0 < c.qty)
    (hheld : 0 < floorStep (balanceOf balances "BTC").1 c.rules.step)
    (hbuilt : c.Builds cfg args c.qty r.prices c.endpoint c.params) :
    Triple env.reads (fun v => v.2 = r ∧ v.1.store.trades = s.trades)
      (submitReplacement cfg args c planId (floorStep (balanceOf balances "BTC").1 c.rules.step))
      (fun _ => Adds r.placed (Converted cfg args s symbol c))
      (fun _ => Adds r.placed (Converted cfg args s symbol c))
      (Adds r.placed (Converted cfg args s symbol c)) := by
  unfold submitReplacement
  refine Triple.bind ((triple_asking (fun v hv => ⟨congrArg Readings.placed hv.1, hv.2⟩)
    ((triple_replacementFor args c _ r (multiple_floorStep _ _) hbuilt).weaken
      fun v hv => hv.1)).conseq (fun _ hv => hv) (fun _ _ hv => hv) (fun _ _ hv => .of_eq hv)
      fun _ hv => .of_eq hv) fun order => ?_
  refine Triple.weaken (R := fun v => ∃ prices, (v.2 = { r with prices := prices } ∧
    v.1.store.trades = s.trades) ∧ c.Builds cfg args
      (min (floorStep (balanceOf balances "BTC").1 c.rules.step) c.qty) prices order.1 order.2) ?_
    fun v ⟨⟨prices, hr, hb⟩, _, ht⟩ => ⟨prices, ⟨hr, ht⟩, hb⟩
  refine Triple.exists_pre fun prices => Triple.assume_eq fun hb => ?_
  set r' : Readings := { r with prices := prices } with hr'
  have hplace : ∀ s' : Store, s'.trades = s.trades →
      Converted cfg args s symbol c ⟨s', order.1, order.2, prices, r.infos, r.accounts⟩ :=
    fun s' hs' => ⟨hplanned, hs', hruled, balances, hbalances, lt_min hheld hqty, hb⟩
  have hnone : ∀ v : World σ × Readings, v.2 = r' ∧ v.1.store.trades = s.trades →
      Adds r.placed (Converted cfg args s symbol c) v := fun v hv => .of_eq (by rw [hv.1])
  have hlater : ∀ {β : Type} {m : Acting β}, Unplacing m →
      Keeps env.reads (Adds r.placed (Converted cfg args s symbol c)) m :=
    fun hm => keeps_unplaced hm fun placed => ∀ order ∈ placed, order ∈ r.placed ∨
      Converted cfg args s symbol c order
  refine Triple.bind ((keeps_unreading_still (unread_asking (unread_preflight _ _ _ _ _))
    (.asking _) r' s.trades).conseq (fun _ hv => hv) (fun _ _ hv => hv) (fun _ => hnone) hnone)
    fun _ => ?_
  have honce : ∀ v : World σ × Readings, r'.Once s.trades order.1 order.2 v.2.placed →
      Adds r.placed (Converted cfg args s symbol c) v := fun v hv =>
    Adds.of_once (r := r') hv hplace
  refine Triple.bind ((triple_submitOnce_placed _ _ _ _ _ _ r' s.trades).conseq (fun _ hv => hv)
    (fun _ => honce) (fun _ => honce) honce) fun submitted => ?_
  refine hlater ?_
  split
  · exact unplacing_finishConversion _ _ _ _ _ _ _
  · exact .raise
  · exact .bind (Unplacing.upsert _ _ _) fun _ => .pure

theorem triple_replaceCanceled (args : ConvertArgs) (s : Store) (symbol : Symbol)
    (c : Conversion) (planId : IntentId) (r : Readings) (hplanned : Planned cfg args s symbol c)
    (hruled : c.RuledBy r.infos) (hqty : 0 < c.qty)
    (hbuilt : c.Builds cfg args c.qty r.prices c.endpoint c.params) :
    Triple env.reads (fun v => v.2 = r ∧ v.1.store.trades = s.trades)
      (replaceCanceled cfg args c planId) (fun _ => Adds r.placed (Converted cfg args s symbol c))
      (fun _ => Adds r.placed (Converted cfg args s symbol c))
      (Adds r.placed (Converted cfg args s symbol c)) := by
  unfold replaceCanceled
  refine Triple.bind ((triple_asking (fun v hv => ⟨congrArg Readings.placed hv.1, hv.2⟩)
    ((triple_freeBalance "BTC" r).weaken fun v hv => hv.1)).conseq (fun _ hv => hv)
    (fun _ _ hv => hv) (fun _ _ hv => .of_eq hv) fun _ hv => .of_eq hv) fun free => ?_
  refine Triple.weaken
    (R := fun v => ∃ balances, (v.2 = { r with accounts := balances :: r.accounts } ∧
    v.1.store.trades = s.trades) ∧ free = (balanceOf balances "BTC").1) ?_
    fun v ⟨⟨balances, hr, hfree⟩, _, ht⟩ => ⟨balances, ⟨hr, ht⟩, hfree⟩
  refine Triple.exists_pre fun balances => Triple.assume_eq fun hfree => ?_
  subst hfree
  refine .ite (fun _ => ?_) fun hheld => ?_
  · refine ((keeps_unplaced ?_ fun placed => ∀ order ∈ placed, order ∈ r.placed ∨
      Converted cfg args s symbol c order).weaken fun v hv => Adds.of_eq (by rw [hv.1]))
    refine .bind (Unplacing.asking _) fun totals => ?_
    split
    · exact .pure
    · refine .bind (.perform trivial) fun _ => .bind (Unplacing.upsert _ _ _) fun _ => .pure
  · exact triple_submitReplacement args s symbol c planId
      { r with accounts := balances :: r.accounts }
      balances hplanned hruled rfl hqty (not_le.mp hheld) hbuilt

theorem unread_getOrder (symbol : Symbol) (id : Option ℤ) (client : ClientId) :
    (getOrder symbol id client).All Ask.unread := by
  unfold getOrder
  split
  · exact unread_call trivial
  · split
    · exact unread_call trivial
    · exact .raise

theorem unread_getOrderList (id : Option ℤ) (client : ClientId) :
    (getOrderList id client).All Ask.unread := by
  unfold getOrderList
  split
  · exact unread_call trivial
  · split
    · exact unread_call trivial
    · exact .raise

theorem unread_asObject (reply : Reply) : (asObject reply).All Ask.unread := by
  cases reply <;> trivial

/-- The cancel asks for no price, no rules and no balances, and places nothing. -/
theorem unread_cancelProtection (row : TradeRow) (symbol : Symbol) :
    (cancelProtection cfg row symbol).All Act.unread := by
  unfold cancelProtection
  split
  · exact .pure
  · next p _ =>
    have hobserve : (p.observe symbol).All Ask.unread := by
      refine .bind ?_ fun reply => .bind (unread_asObject _) fun observed => .ofExcept
      cases p with
      | list id => exact unread_getOrderList (some id) ""
      | order id => exact unread_getOrder symbol (some id) ""
    refine .bind (.perform trivial) fun isNew => ?_
    split
    · refine .bind (.perform trivial) fun _ => .bind (.attempt (.perform ?_)) fun answer => ?_
      · cases p <;> trivial
      · split
        · exact .bind (.perform trivial) fun _ => .pure
        · exact .bind (.perform trivial) fun _ => .pure
        · refine .bind .ofExcept fun valid => ?_
          split <;> exact .bind (.perform trivial) fun _ => .pure
    · refine unread_asking (.bind unread_theStore fun s => ?_)
      split
      · refine .bind (.attempt hobserve) fun shown => ?_
        split <;> exact .pure
      · exact .pure

theorem triple_executeConversion (args : ConvertArgs) (s : Store) (symbol : Symbol)
    (c : Conversion) (r : Readings) (hplanned : Planned cfg args s symbol c)
    (hruled : c.RuledBy r.infos) (hqty : 0 < c.qty)
    (hbuilt : c.Builds cfg args c.qty r.prices c.endpoint c.params) :
    Triple env.reads (fun v => v.2 = r ∧ v.1.store.trades = s.trades)
      (executeConversion cfg args c) (fun _ => Adds r.placed (Converted cfg args s symbol c))
      (fun _ => Adds r.placed (Converted cfg args s symbol c))
      (Adds r.placed (Converted cfg args s symbol c)) := by
  have hnone : ∀ v : World σ × Readings, v.2 = r ∧ v.1.store.trades = s.trades →
      Adds r.placed (Converted cfg args s symbol c) v := fun v hv => .of_eq (by rw [hv.1])
  have hstep : ∀ {β : Type} {m : Acting β}, m.All Act.unread → Still m →
      Triple env.reads (fun v => v.2 = r ∧ v.1.store.trades = s.trades) m
        (fun _ v => v.2 = r ∧ v.1.store.trades = s.trades)
        (fun _ => Adds r.placed (Converted cfg args s symbol c))
        (Adds r.placed (Converted cfg args s symbol c)) := fun hm hs =>
    (keeps_unreading_still hm hs r s.trades).conseq (fun _ hv => hv) (fun _ _ hv => hv)
      (fun _ => hnone) hnone
  have hmemory : (setMemory ({ · with enabled := false })).All Ask.unread :=
    .bind (.perform trivial) fun _ => .perform trivial
  have hentries : (setEntries false "protection-conversion-in-progress").All Ask.unread :=
    .bind unread_theStore fun _ => .perform trivial
  unfold executeConversion
  refine Triple.bind (hstep (.perform trivial) (.perform trivial)) fun isNew => ?_
  refine .ite (fun _ => ?_) fun _ => .pure hnone
  refine Triple.bind (hstep (unread_asking hmemory) (.asking _)) fun _ => ?_
  refine Triple.bind (hstep (unread_asking hentries) (.asking _)) fun _ => ?_
  refine Triple.bind (hstep (unread_cancelProtection _ _) (.cancelProtection _ _))
    fun canceled => ?_
  refine .ite (fun _ => ?_) fun _ => .pure hnone
  exact triple_replaceCanceled args s symbol c _ r hplanned hruled hqty hbuilt

variable (cfg env) in
/-- Every order of `convert` is an order of the conversion it has planned. -/
theorem triple_convert_placed (args : ConvertArgs) (s : Store) (symbol : Symbol) (r : Readings) :
    Triple env.reads (fun v => v.1.store = s ∧ v.2 = r) (convert cfg symbol args)
      (fun _ => Adds r.placed fun order => ∃ c, Converted cfg args s symbol c order)
      (fun _ => Adds r.placed fun order => ∃ c, Converted cfg args s symbol c order)
      (Adds r.placed fun order => ∃ c, Converted cfg args s symbol c order) := by
  unfold convert
  refine Triple.bind ((triple_asking (fun v hv => ⟨congrArg Readings.placed hv.2,
    congrArg Store.trades hv.1⟩) (triple_planConversion_reading symbol args s r)).conseq
    (fun _ hv => hv) (fun _ _ hv => hv) (fun _ _ hv => .of_eq hv) fun _ hv => .of_eq hv)
    fun planned => ?_
  cases planned with
  | error detail => exact .pure fun v hv => .of_eq hv.2.1
  | ok c =>
    refine .assume fun v hv => ?_
    obtain ⟨hplan, hplaced, htrades⟩ := hv
    obtain ⟨hplanned, hqty, hruled, hbuilt⟩ := hplan c rfl
    have hadds : ∀ v' : World σ × Readings, Adds v.2.placed (Converted cfg args s symbol c) v' →
        Adds r.placed (fun order => ∃ c, Converted cfg args s symbol c order) v' := by
      intro v' hv' order horder
      rcases hv' order horder with hold | hnew
      · exact .inl (hplaced ▸ hold)
      · exact .inr ⟨c, hnew⟩
    refine (triple_executeConversion args s symbol c v.2 hplanned hruled hqty hbuilt).conseq ?_
      (fun _ => hadds) (fun _ => hadds) hadds
    intro v' hv'
    subst hv'
    exact ⟨rfl, htrades⟩

/-- The orders that a run of a program places, with the readings before each of them. -/
def placedBy (env : Env σ) (n : ℕ) (m : Acting α) (w : World σ) : List Placed :=
  (run env.reads n m (w, {})).2.2.placed

theorem converted_of_placed {args : ConvertArgs} {symbol : Symbol} {w : World σ} {n : ℕ}
    {order : Placed} (h : order ∈ placedBy env n (convert cfg symbol args) w) :
    ∃ c, Converted cfg args w.store symbol c order := by
  have hrun := wp_run (triple_convert_placed cfg env args w.store symbol {}
    (w, {}) ⟨rfl, rfl⟩) n
  have hadds : Adds [] (fun order => ∃ c, Converted cfg args w.store symbol c order)
      (run env.reads n (convert cfg symbol args) (w, {})).2 := by
    revert hrun
    rcases (run env.reads n (convert cfg symbol args) (w, {})).1 with a | e | _ <;> exact id
  rcases hadds order h with hnil | hc
  · exact absurd hnil List.not_mem_nil
  · exact hc

/-- A stop leg that locks at least the break-even price in: what its prices are, beside the entry
price, the reading of the price and the rules that the order was built from. -/
structure Locks (cfg : Config) (lockProfitPct : Option ℚ) (entry : ℚ) (order : Placed)
    (info : SymbolInfo) (current breakEven above stop limit : ℚ) : Prop where
  reading : order.prices.head? = some (.num current)
  rules : order.infos.head? = some info
  endpoint : order.endpoint = .orderListOco
  leg : order.params.belowType = some .stopLossLimit
  abovePrice : order.params.abovePrice = some above
  stopPrice : order.params.belowStopPrice = some stop
  limitPrice : order.params.belowPrice = some limit
  adjusted : feeAdjustedBreakEven entry cfg.settings.feePctPerSide cfg.settings.feePctPerSide
    cfg.breakEvenSlippagePct = .ok breakEven
  covers : breakEven ≤ limit
  profit : ∀ pct ∈ lockProfitPct, entry * (1 + pct / 100) ≤ limit
  limit_le : limit ≤ stop
  above_entry : entry < stop
  below_reading : stop < current
  ticks : Multiple info.tickSize above ∧ Multiple info.tickSize stop ∧ Multiple info.tickSize limit

theorem Converted.locks {args : ConvertArgs} {s : Store} {symbol : Symbol} {c : Conversion}
    {order : Placed} (h : Converted cfg args s symbol c order) (hlocked : args.locked = true)
    (hbuffer : 0 ≤ cfg.settings.limitFillBufferBips)
    (hbelow : cfg.settings.limitFillBufferBips < 10000) :
    ∃ info current breakEven above stop limit, Locks cfg args.lockProfitPct
      (c.row.averageEntryPrice.getD 0) order info current breakEven above stop limit := by
  obtain ⟨balances, -, -, current, hcurrent, hbuilt⟩ := h.built
  obtain ⟨info, hinfo, hrules⟩ := h.ruled
  obtain ⟨stop, hstop, hsome⟩ : ∃ stop,
      lockedStopPrice cfg c.rules c.entry args.lockProfitPct = .ok stop ∧
      c.stopPrice = some stop := by
    have hprice := h.planned.stopPrice
    rw [stopPriceFor, if_pos hlocked] at hprice
    cases heq : lockedStopPrice cfg c.rules c.entry args.lockProfitPct with
    | error e =>
      rw [heq] at hprice
      cases hprice
    | ok stop =>
      rw [heq] at hprice
      exact ⟨stop, rfl, (Except.ok.inj hprice).symm⟩
  obtain ⟨breakEven, hadjusted, hmultiple, htarget, hlimit⟩ :=
    lockedStopPrice_spec hbuffer hbelow hstop
  have hmode : c.mode = .fixedOco := h.planned.mode.trans (if_pos hlocked)
  have hentry := h.planned.entry
  have hround : floorStep (cfg.settings.fixedStop c.entry c.stopPrice) c.rules.tick = stop := by
    rw [hsome]
    exact hmultiple.floorStep_eq c.rules.tick_pos
  rw [hmode] at hbuilt
  generalize hendpoint : order.endpoint = endpoint at hbuilt
  generalize hparams : order.params = params at hbuilt
  cases hbuilt with
  | fixedOco list above below hcurrent' =>
    rw [hround] at hcurrent' hparams
    rw [← hentry]
    refine ⟨info, current, breakEven,
      floorStep (max (c.entry * (1 + cfg.settings.takeProfitPct / 100))
      (current * (1 + 2 / 1000))) c.rules.tick, stop, cfg.limitBelow c.rules stop, ?_⟩
    have hpos := (feeAdjustedBreakEven_pos hadjusted).1
    exact {
      reading := hcurrent
      rules := hinfo
      endpoint := hendpoint
      leg := by rw [hparams]; rfl
      abovePrice := by rw [hparams]; rfl
      stopPrice := by rw [hparams]
      limitPrice := by rw [hparams]; rfl
      adjusted := hadjusted
      covers := (le_lockedTarget _ _ _).trans htarget
      profit := fun pct hpct => (profit_le_lockedTarget hpos.le _ hpct).trans htarget
      limit_le := hlimit
      above_entry := h.planned.above stop hsome
      below_reading := hcurrent'
      ticks := hrules.tick ▸ ⟨multiple_floorStep _ _, hmultiple, multiple_floorStep _ _⟩ }

/-- A standalone trailing order, of a conversion that locks nothing. -/
theorem Converted.trailing {args : ConvertArgs} {s : Store} {symbol : Symbol} {c : Conversion}
    {order : Placed} (h : Converted cfg args s symbol c order) {delta : ℤ}
    (hdelta : order.params.trailingDelta = some delta) :
    args.locked = false ∧ ∃ info current,
      order.infos.head? = some info ∧ c.rules.From info ∧
      order.prices.head? = some (.num current) ∧
      delta = cfg.settings.deltaFor c.rules args.trailingDeltaBips ∧
      order.params.price = some (ProtectionSettings.below c.rules current
        (delta + cfg.settings.limitFillBufferBips)) := by
  obtain ⟨balances, -, -, current, hcurrent, hbuilt⟩ := h.built
  obtain ⟨info, hinfo, hrules⟩ := h.ruled
  have hmode := h.planned.mode
  generalize c.mode = mode at hbuilt hmode
  generalize hendpoint : order.endpoint = endpoint at hbuilt
  generalize hparams : order.params = params at hbuilt hdelta
  cases hbuilt with
  | trailingOnly client =>
    obtain rfl := Option.some.inj hdelta
    refine ⟨?_, info, current, hinfo, hrules, hcurrent, rfl, rfl⟩
    by_contra hlocked
    rw [if_pos (Bool.not_eq_false _ |>.mp hlocked)] at hmode
    cases hmode
  | fixedOco list above below hstop => cases hdelta
  | ocoTrailing list above below => cases hdelta

variable (env) in
/-- Break-even and profit lock hold after rounding. -/
theorem locked_orders_lock (hbuffer : 1 ≤ cfg.settings.limitFillBufferBips ∧
      cfg.settings.limitFillBufferBips ≤ 1000) {args : ConvertArgs} (hlocked : args.locked = true)
    (symbol : Symbol) (w : World σ) (n : ℕ) :
    ∀ order ∈ placedBy env n (convert cfg symbol args) w,
      ∃ row, w.store.activeTradeForSymbol symbol = .ok (some row) ∧
        ∃ info current breakEven above stop limit, Locks cfg args.lockProfitPct
          (row.averageEntryPrice.getD 0) order info current breakEven above stop limit := by
  intro order horder
  obtain ⟨c, hc⟩ := converted_of_placed horder
  refine ⟨c.row, hc.planned.row, hc.locks hlocked ?_ ?_⟩
  · omega
  · omega

/-- The price has risen by a tenth when the owner asks for the break-even stop. -/
theorem locked_orders_lock_risen :
    let w := runSteps Desk.config Desk.env { script := [{ next := [.fill 2 1 0] }] } Desk.opening
    let risen := { w with env := { w.env with price := 110 } }
    let orders := placedBy Desk.env 10000
      (convert Desk.config "BTCUSDT" { mode := .trailingOnly, breakEven := true }) risen
    orders.length = 1 ∧ ∀ order ∈ orders,
      ∃ row, risen.store.activeTradeForSymbol "BTCUSDT" = .ok (some row) ∧
        ∃ info current breakEven above stop limit, Locks Desk.config none
          (row.averageEntryPrice.getD 0) order info current breakEven above stop limit :=
  ⟨by decide +kernel, locked_orders_lock Desk.env (by decide) rfl "BTCUSDT" _ 10000⟩

end plan
end SpotSidecar
