import SpotSidecar.Interaction.Eval
import SpotSidecar.Safety.Stops

/-! The prices and quantities of the requests that the order factory builds. -/
namespace SpotSidecar
open Interaction Prog

/-- The bounds that the constructor of the adapter holds its settings to. -/
structure ProtectionSettings.Bounded (s : ProtectionSettings) : Prop where
  takeProfit : 5 / 100 ≤ s.takeProfitPct ∧ s.takeProfitPct ≤ 100
  fixedStop : 5 / 100 ≤ s.fixedStopPct ∧ s.fixedStopPct ≤ 50
  trailingDelta : 10 ≤ s.trailingDeltaBips ∧ s.trailingDeltaBips ≤ 2000
  limitFillBuffer : 1 ≤ s.limitFillBufferBips ∧ s.limitFillBufferBips ≤ 1000
  fee : 0 ≤ s.feePctPerSide ∧ s.feePctPerSide ≤ 5

instance (s : ProtectionSettings) : Decidable s.Bounded :=
  decidable_of_iff
    ((5 / 100 ≤ s.takeProfitPct ∧ s.takeProfitPct ≤ 100) ∧
      (5 / 100 ≤ s.fixedStopPct ∧ s.fixedStopPct ≤ 50) ∧
      (10 ≤ s.trailingDeltaBips ∧ s.trailingDeltaBips ≤ 2000) ∧
      (1 ≤ s.limitFillBufferBips ∧ s.limitFillBufferBips ≤ 1000) ∧
      0 ≤ s.feePctPerSide ∧ s.feePctPerSide ≤ 5)
    ⟨fun ⟨h₁, h₂, h₃, h₄, h₅⟩ => ⟨h₁, h₂, h₃, h₄, h₅⟩,
      fun h => ⟨h.takeProfit, h.fixedStop, h.trailingDelta, h.limitFillBuffer, h.fee⟩⟩

namespace Params
variable (p : Params)

def quantities : List ℚ :=
  [p.quantity, p.workingQuantity, p.pendingQuantity].reduceOption

def prices : List ℚ :=
  [p.price, p.workingPrice, p.pendingPrice, p.pendingAbovePrice, p.pendingBelowStopPrice,
    p.pendingBelowPrice, p.abovePrice, p.belowStopPrice, p.belowPrice].reduceOption

end Params

/-- The limit price of a stop leg, and the price that triggers it or the delta that it trails by. -/
structure StopLeg where
  limit : ℚ
  trigger : ℚ ⊕ ℤ
  deriving DecidableEq, Repr

/-- The stop leg of one group of fields. -/
def stopLeg (limit stopPrice : Option ℚ) (trailingDelta : Option ℤ) : List StopLeg :=
  match limit, stopPrice, trailingDelta with
  | some limit, some stop, none => [{ limit := limit, trigger := .inl stop }]
  | some limit, none, some delta => [{ limit := limit, trigger := .inr delta }]
  | _, _, _ => []

def Params.stopLegs (p : Params) : List StopLeg :=
  stopLeg p.price none p.trailingDelta ++
    stopLeg p.pendingPrice none p.pendingTrailingDelta ++
    stopLeg p.pendingBelowPrice p.pendingBelowStopPrice p.pendingBelowTrailingDelta ++
    stopLeg p.belowPrice p.belowStopPrice p.belowTrailingDelta

/-- The leg sells below a price. -/
def StopLeg.Below (leg : StopLeg) (price : ℚ) : Prop :=
  match leg.trigger with
  | .inl stop => leg.limit ≤ stop ∧ stop < price
  | .inr _ => leg.limit < price

structure Geometric (rules : SymbolRules) (p : Params) : Prop where
  quantities : ∀ q ∈ p.quantities, 0 < q ∧ Multiple rules.step q
  prices : ∀ x ∈ p.prices, Multiple rules.tick x

structure EntryGeometry (s : ProtectionSettings) (rules : SymbolRules) (entry : ℚ)
    (p : Params) : Prop extends Geometric rules p where
  pending : ∃ working pending, p.workingQuantity = some working ∧
    p.pendingQuantity = some pending ∧ pending ≤ working * (1 - s.feePctPerSide / 100)
  stop : ∃ price leg, p.workingPrice = some price ∧ price ≤ entry ∧ p.stopLegs = [leg] ∧
    leg.Below price

structure ReplacementGeometry (rules : SymbolRules) (current : ℚ) (p : Params) : Prop
    extends Geometric rules p where
  stop : ∃ leg, p.stopLegs = [leg] ∧ leg.Below current
  takeProfit : rules.tick ≤ 2 / 1000 * current → ∀ x ∈ p.abovePrice, current < x

section geometry
variable {s : ProtectionSettings} {rules : SymbolRules} {price : ℚ}

/-- A positive number of basis points below a price, however many they are. -/
theorem ProtectionSettings.below_lt {bips : ℤ} (hprice : 0 < price) (hbips : 0 < bips) :
    ProtectionSettings.below rules price bips < price := by
  apply floorStep_lt rules.tick_pos hprice
  have hcast : (0 : ℚ) < bips := by exact_mod_cast hbips
  have hshare : 1 - (bips : ℚ) / 10000 < 1 := by linarith
  calc price * (1 - (bips : ℚ) / 10000) < price * 1 := mul_lt_mul_of_pos_left hshare hprice
    _ = price := mul_one price

theorem ProtectionSettings.Bounded.below_le (hs : s.Bounded) (hprice : 0 ≤ price) :
    ProtectionSettings.below rules price s.limitFillBufferBips ≤ price := by
  have hlow : (1 : ℚ) ≤ s.limitFillBufferBips := by exact_mod_cast hs.limitFillBuffer.1
  have hhigh : (s.limitFillBufferBips : ℚ) ≤ 1000 := by exact_mod_cast hs.limitFillBuffer.2
  have hshare₀ : 0 ≤ 1 - (s.limitFillBufferBips : ℚ) / 10000 := by linarith
  have hshare₁ : 1 - (s.limitFillBufferBips : ℚ) / 10000 ≤ 1 := by linarith
  calc ProtectionSettings.below rules price s.limitFillBufferBips
      ≤ price * (1 - (s.limitFillBufferBips : ℚ) / 10000) :=
        floorStep_le (mul_nonneg hprice hshare₀) rules.tick_pos
    _ ≤ price * 1 := mul_le_mul_of_nonneg_left hshare₁ hprice
    _ = price := mul_one price

theorem ProtectionSettings.Bounded.trail_pos (hs : s.Bounded) (hmin : 0 ≤ rules.trailMin)
    (requested : ℤ) :
    0 < ProtectionSettings.delta rules requested + s.limitFillBufferBips := by
  have hdelta : rules.trailMin ≤ ProtectionSettings.delta rules requested := le_max_left _ _
  have hbuffer := hs.limitFillBuffer.1
  omega

/-- A fixed stop of the settings lies below the entry. -/
theorem ProtectionSettings.Bounded.fixedStop_lt (hs : s.Bounded) {entry : ℚ} (hentry : 0 < entry) :
    0 ≤ entry * (1 - s.fixedStopPct / 100) ∧ entry * (1 - s.fixedStopPct / 100) < entry := by
  have hlow := hs.fixedStop.1
  have hhigh := hs.fixedStop.2
  have hshare₀ : 0 ≤ 1 - s.fixedStopPct / 100 := by linarith
  have hshare₁ : 1 - s.fixedStopPct / 100 < 1 := by linarith
  constructor
  · exact mul_nonneg hentry.le hshare₀
  · calc entry * (1 - s.fixedStopPct / 100) < entry * 1 := mul_lt_mul_of_pos_left hshare₁ hentry
      _ = entry := mul_one entry

/-- The stop and the limit of a fixed stop leg. -/
theorem ProtectionSettings.Bounded.fixed_below (hs : s.Bounded) {stop : ℚ} (hstop : 0 ≤ stop)
    (hlt : floorStep stop rules.tick < price) :
    StopLeg.Below {
      limit := ProtectionSettings.below rules (floorStep stop rules.tick) s.limitFillBufferBips
      trigger := .inl (floorStep stop rules.tick) } price :=
  ⟨hs.below_le (floorStep_nonneg hstop rules.tick_pos), hlt⟩

theorem ProtectionSettings.Bounded.trailing_below (hs : s.Bounded) (hmin : 0 ≤ rules.trailMin)
    (hprice : 0 < price) (requested delta : ℤ) :
    StopLeg.Below {
      limit := ProtectionSettings.below rules price
        (ProtectionSettings.delta rules requested + s.limitFillBufferBips)
      trigger := .inr delta } price :=
  ProtectionSettings.below_lt hprice (hs.trail_pos hmin requested)

/-! ### Entries -/

variable {mode : ProtectionMode} {qty pending : ℚ} {ids : EntryIds}

theorem pendingQty_ok (h : s.pendingQty rules qty = .ok pending) (hpos : 0 < pending) :
    0 < qty ∧ Multiple rules.step pending ∧ pending ≤ qty * (1 - s.feePctPerSide / 100) := by
  unfold ProtectionSettings.pendingQty at h
  split at h
  · cases h
  · next hfee =>
    push Not at hfee
    obtain rfl := Except.ok.inj h
    have hvalue := pos_of_floorStep_pos rules.step_pos hpos
    have hshare : 0 < 1 - s.feePctPerSide / 100 := by linarith [hfee.2]
    refine ⟨pos_of_mul_pos_left hvalue hshare.le, multiple_floorStep _ _, ?_⟩
    exact floorStep_le_of_pos rules.step_pos hpos

/-- The stop leg of an entry. -/
def ProtectionSettings.entryStop (s : ProtectionSettings) (mode : ProtectionMode)
    (rules : SymbolRules) (entry : ℚ) : StopLeg :=
  let delta := ProtectionSettings.delta rules s.trailingDeltaBips
  let stop := floorStep (entry * (1 - s.fixedStopPct / 100)) rules.tick
  if mode = .fixedOco then
    { limit := ProtectionSettings.below rules stop s.limitFillBufferBips, trigger := .inl stop }
  else {
    limit := ProtectionSettings.below rules entry (delta + s.limitFillBufferBips)
    trigger := .inr delta }

theorem entryRequest_stopLegs (entry : ℚ) :
    (entryRequest s mode rules qty entry pending ids).2.stopLegs =
      [s.entryStop mode rules entry] := by
  cases mode <;> rfl

theorem entryRequest_quantities (entry : ℚ) :
    (entryRequest s mode rules qty entry pending ids).2.quantities = [qty, pending] := by
  cases mode <;> rfl

theorem entryRequest_prices {entry : ℚ} (hentry : Multiple rules.tick entry) :
    ∀ x ∈ (entryRequest s mode rules qty entry pending ids).2.prices, Multiple rules.tick x := by
  have hfloor : ∀ value, Multiple rules.tick (floorStep value rules.tick) :=
    fun value => multiple_floorStep value rules.tick
  cases mode with
  | trailingOnly =>
    show ∀ x ∈ [entry, floorStep _ _], _
    simp only [List.forall_mem_cons]
    exact ⟨hentry, hfloor _, by simp⟩
  | fixedOco =>
    show ∀ x ∈ [entry, floorStep _ _, floorStep _ _, floorStep _ _], _
    simp only [List.forall_mem_cons]
    exact ⟨hentry, hfloor _, hfloor _, hfloor _, by simp⟩
  | ocoTrailing =>
    show ∀ x ∈ [entry, floorStep _ _, floorStep _ _], _
    simp only [List.forall_mem_cons]
    exact ⟨hentry, hfloor _, hfloor _, by simp⟩

theorem ProtectionSettings.Bounded.entryStop_below (hs : s.Bounded) (hmin : 0 ≤ rules.trailMin)
    {entry : ℚ} (hentry : 0 < entry) : (s.entryStop mode rules entry).Below entry := by
  unfold ProtectionSettings.entryStop
  obtain ⟨hstop, hlt⟩ := hs.fixedStop_lt hentry
  split
  · exact hs.fixed_below hstop (floorStep_lt rules.tick_pos hentry hlt)
  · exact hs.trailing_below hmin hentry _ _

theorem ProtectionSettings.Bounded.entry_geometry (hs : s.Bounded) (hmin : 0 ≤ rules.trailMin)
    {entry : ℚ} (hentry : rules.tick ≤ entry) (hqty : Multiple rules.step qty)
    (hpending : s.pendingQty rules qty = .ok pending) (hpos : 0 < pending) :
    EntryGeometry s rules entry
      (entryRequest s mode rules qty (floorStep entry rules.tick) pending ids).2 := by
  have hpositive : 0 < entry := rules.tick_pos.trans_le hentry
  have hunit : Multiple rules.tick rules.tick := ⟨1, by simp⟩
  have hfloor : 0 < floorStep entry rules.tick :=
    rules.tick_pos.trans_le (hunit.le_floorStep rules.tick_pos hpositive.le hentry)
  obtain ⟨hqty₀, hmultiple, hshaved⟩ := pendingQty_ok hpending hpos
  constructor
  · constructor
    · rw [entryRequest_quantities]
      simp only [List.forall_mem_cons]
      exact ⟨⟨hqty₀, hqty⟩, ⟨hpos, hmultiple⟩, by simp⟩
    · exact entryRequest_prices (multiple_floorStep _ _)
  · have hworking : (entryRequest s mode rules qty (floorStep entry rules.tick) pending
        ids).2.workingQuantity = some qty := by
      cases mode <;> rfl
    have hprotected : (entryRequest s mode rules qty (floorStep entry rules.tick) pending
        ids).2.pendingQuantity = some pending := by
      cases mode <;> rfl
    exact ⟨qty, pending, hworking, hprotected, hshaved⟩
  · have hprice : (entryRequest s mode rules qty (floorStep entry rules.tick) pending
        ids).2.workingPrice = some (floorStep entry rules.tick) := by
      cases mode <;> rfl
    exact ⟨_, _, hprice, floorStep_le hpositive.le rules.tick_pos, entryRequest_stopLegs _,
      hs.entryStop_below hmin hfloor⟩

/-! ### Replacements -/

variable {entry current : ℚ} {stopPrice : Option ℚ} {bips : Option ℤ} {endpoint : Endpoint}
  {p : Params}

/-- The take profit clears the price by the share that a coarse tick may take back. -/
theorem takeProfit_above {takeProfit : ℚ} (hcurrent : 0 < current)
    (htick : rules.tick ≤ 2 / 1000 * current) :
    current < floorStep (max takeProfit (current * (1 + 2 / 1000))) rules.tick := by
  have hraised : current * (1 + 2 / 1000) ≤ max takeProfit (current * (1 + 2 / 1000)) :=
    le_max_right _ _
  have hnonneg : 0 ≤ max takeProfit (current * (1 + 2 / 1000)) := by
    apply le_trans _ hraised
    positivity
  have hfloor := lt_floorStep_add hnonneg rules.tick_pos
  linarith

theorem ProtectionSettings.Bounded.replacement_geometry (hs : s.Bounded)
    (hmin : 0 ≤ rules.trailMin) (hentry : 0 < entry) (hcurrent : 0 < current)
    (hstop : ∀ x ∈ stopPrice, 0 ≤ x) (hqty : Multiple rules.step qty) (hpos : 0 < qty)
    (h : Replacement s rules qty entry current stopPrice bips mode endpoint p) :
    ReplacementGeometry rules current p := by
  have hfloor : ∀ value, Multiple rules.tick (floorStep value rules.tick) :=
    fun value => multiple_floorStep value rules.tick
  have hquantities : ∀ q ∈ [qty], 0 < q ∧ Multiple rules.step q := by
    intro q hq
    rw [List.mem_singleton.mp hq]
    exact ⟨hpos, hqty⟩
  cases h with
  | trailingOnly client =>
    constructor
    · constructor
      · exact hquantities
      · show ∀ x ∈ [floorStep _ _], _
        simp only [List.forall_mem_cons]
        exact ⟨hfloor _, by simp⟩
    · exact ⟨_, rfl, hs.trailing_below hmin hcurrent _ _⟩
    · intro _ x hx
      cases hx
  | fixedOco list above below hlt =>
    constructor
    · constructor
      · exact hquantities
      · show ∀ x ∈ [floorStep _ _, floorStep _ _, floorStep _ _], _
        simp only [List.forall_mem_cons]
        exact ⟨hfloor _, hfloor _, hfloor _, by simp⟩
    · have hfixed : 0 ≤ s.fixedStop entry stopPrice := by
        cases stopPrice with
        | none => exact (hs.fixedStop_lt hentry).1
        | some x => exact hstop x rfl
      exact ⟨_, rfl, hs.fixed_below hfixed hlt⟩
    · intro htick x hx
      cases hx
      exact takeProfit_above hcurrent htick
  | ocoTrailing list above below =>
    constructor
    · constructor
      · exact hquantities
      · show ∀ x ∈ [floorStep _ _, floorStep _ _], _
        simp only [List.forall_mem_cons]
        exact ⟨hfloor _, hfloor _, by simp⟩
    · exact ⟨_, rfl, hs.trailing_below hmin hcurrent _ _⟩
    · intro htick x hx
      cases hx
      exact takeProfit_above hcurrent htick

end geometry

section factory
variable {W : Type} {exec : ∀ γ : Type, Ask γ → W → Except Exc γ × W} {cfg : Config}

theorem triple_factoryEntry_built (mode : ProtectionMode) (rules : SymbolRules) (qty entry : ℚ) :
    Triple exec (fun _ => True) (factoryEntry cfg mode rules qty entry)
      (fun built _ => ∃ pending ids,
        cfg.settings.pendingQty rules (floorStep qty rules.step) = .ok pending ∧ 0 < pending ∧
        built = entryRequest cfg.settings mode rules (floorStep qty rules.step)
          (floorStep entry rules.tick) pending ids)
      (fun _ _ => True) fun _ => True := by
  have hany : ∀ {β : Type} (m : Asking β), Triple exec (fun _ => True) m
      (fun _ _ => True) (fun _ _ => True) fun _ => True := fun _ => Triple.top
  unfold factoryEntry
  refine Triple.bind (Q := fun pending _ =>
    cfg.settings.pendingQty rules (floorStep qty rules.step) = .ok pending) ?_ fun pending => ?_
  · exact Triple.ofExcept (fun pending hpending _ _ => hpending) fun _ _ _ _ => trivial
  refine Triple.assume fun _ hpending => Triple.weaken ?_ fun _ _ => trivial
  refine Triple.bind (Q := fun _ _ => 0 < pending) ?_ fun _ => ?_
  · exact Triple.ensure (fun hpos _ _ => hpos) fun _ _ _ => trivial
  refine Triple.assume fun _ hpos => Triple.weaken ?_ fun _ _ => trivial
  refine Triple.bind (hany _) fun list => Triple.bind (hany _) fun working => ?_
  refine Triple.bind (hany _) fun first => Triple.bind (hany _) fun second => .pure fun _ _ => ?_
  exact ⟨pending, _, hpending, hpos, rfl⟩

/-- The requests that the factory returns, whatever client ids it draws. -/
theorem factory_geometry (hs : cfg.settings.Bounded) (rules : SymbolRules)
    (hmin : 0 ≤ rules.trailMin) (mode : ProtectionMode) (qty : ℚ) {entry current : ℚ}
    (hentry : rules.tick ≤ entry) (hcurrent : 0 < current) {stopPrice : Option ℚ}
    (hstop : ∀ x ∈ stopPrice, 0 ≤ x) (bips : Option ℤ) (w w' : W) (endpoint : Endpoint)
    (p : Params) :
    ((factoryEntry cfg mode rules qty entry).eval exec w = (.ok (endpoint, p), w') →
      EntryGeometry cfg.settings rules entry p) ∧
    ((factoryReplacement cfg mode rules qty entry current stopPrice bips).eval exec w =
        (.ok (endpoint, p), w') → ReplacementGeometry rules current p) := by
  have hqty : Multiple rules.step (floorStep qty rules.step) := multiple_floorStep _ _
  constructor
  · intro h
    obtain ⟨pending, ids, hpending, hpos, hbuilt⟩ :=
      ((triple_factoryEntry_built mode rules qty entry).eval trivial).1 _ _ h
    have hp : p = (entryRequest cfg.settings mode rules (floorStep qty rules.step)
      (floorStep entry rules.tick) pending ids).2 := congrArg Prod.snd hbuilt
    rw [hp]
    exact hs.entry_geometry hmin hentry hqty hpending hpos
  · intro h
    obtain ⟨hpos, hbuilt⟩ :=
      ((triple_factoryReplacement_built mode rules qty entry current stopPrice
      bips).eval trivial).1 _ _ h
    have hentry₀ : 0 < entry := rules.tick_pos.trans_le hentry
    exact hs.replacement_geometry hmin hentry₀ hcurrent hstop hqty hpos hbuilt

end factory

def sampleRules : SymbolRules where
  symbol := "BTCUSDT"
  base := "BTC"
  quote := "USDT"
  tick := 1 / 10
  step := 1 / 10000
  minQty := 1 / 10000
  maxQty := 100
  minNotional := 5
  maxNotional := 1000000
  trailMin := 10
  trailMax := 2000
  ocoAllowed := true
  otoAllowed := true
  trailingAllowed := true
  tick_pos := by norm_num
  step_pos := by norm_num

/-- A fixed entry, and the replacement that locks its profit after the price has risen. -/
theorem factory_geometry_sample :
    let answer {α : Type} (m : Asking α) := m.eval (Ask.exec Desk.env) { env := {} }
    let bought := answer (factoryEntry Desk.config .fixedOco sampleRules 1 100)
    let locked := answer
      (factoryReplacement Desk.config .fixedOco sampleRules 1 100 110 (some (1003 / 10)) none)
    (∃ built, bought.1 = .ok built ∧
      EntryGeometry Desk.config.settings sampleRules 100 built.2) ∧
    ∃ built, locked.1 = .ok built ∧ ReplacementGeometry sampleRules 110 built.2 := by
  intro answer bought locked
  have hbounded : Desk.config.settings.Bounded := by decide +kernel
  have hentry : sampleRules.tick ≤ 100 := by norm_num [sampleRules]
  have hcurrent : (0 : ℚ) < 110 := by norm_num
  have hstop : ∀ x ∈ some (1003 / 10 : ℚ), 0 ≤ x := by simp; norm_num
  constructor
  · have hok : bought.1.toOption.isSome = true := by decide +kernel
    obtain ⟨built, hbuilt⟩ := except_ok_of_isSome hok
    have hbought : bought = (.ok (built.1, built.2), bought.2) := Prod.ext hbuilt rfl
    exact ⟨built, hbuilt, (factory_geometry hbounded sampleRules (by decide) .fixedOco 1 hentry
      hcurrent hstop none _ _ _ _).1 hbought⟩
  · have hok : locked.1.toOption.isSome = true := by decide +kernel
    obtain ⟨built, hbuilt⟩ := except_ok_of_isSome hok
    have hlocked : locked = (.ok (built.1, built.2), locked.2) := Prod.ext hbuilt rfl
    exact ⟨built, hbuilt, (factory_geometry hbounded sampleRules (by decide) .fixedOco 1 hentry
      hcurrent hstop none _ _ _ _).2 hlocked⟩

end SpotSidecar
