import Mathlib.Data.List.ReduceOption
import SpotSidecar.Filters.Capacity

/-! What an accepted request keeps to: every leg is within the published filters. -/
namespace SpotSidecar.Filters

/-- A bound that is neither absent nor zero. -/
def Publishes (field : Scalar) (q : ℚ) : Prop := field = .num q ∧ q ≠ 0

/-- A price lies within the multiples of a reference price that are published. -/
structure WithinBand (reference : ℚ) (down up : Scalar) (price : ℚ) : Prop where
  low : ∀ m, Publishes down m → reference * m ≤ price
  high : ∀ m, Publishes up m → price ≤ reference * m

namespace PublicData
variable (data : PublicData)

/-- There is an official reference price. -/
def Official (q : ℚ) : Prop := data.referencePrice = .ok (.value (.num q))

/-- The price that stands in for the official one: an average, if the percent filter has one. -/
structure Fallback (filters : SymbolFilters) (q : ℚ) : Prop where
  average : (∃ minutes, avgPriceMins filters = .int minutes ∧ 0 < minutes) →
    data.avgPrice = .ok (.num q)
  ticker : (¬ ∃ minutes, avgPriceMins filters = .int minutes ∧ 0 < minutes) →
    data.tickerPrice = .ok (.num q)

/-- The reference price of the percent filter. -/
def Resolves (filters : SymbolFilters) (q : ℚ) : Prop :=
  data.Official q ∨ data.referencePrice = .ok .noReferencePrice ∧ data.Fallback filters q

/-- The execution rules of the symbol have this `PRICE_RANGE`. -/
def Ranges (symbol : Symbol) (rule : PriceRangeRow) : Prop :=
  ∃ rows row rules, data.executionRules = .ok (.ok rows) ∧ row ∈ rows ∧ row.symbol = symbol ∧
    row.rules = .ok rules ∧ rule ∈ rules ∧ rule.ruleType = "PRICE_RANGE"

end PublicData

section sound
variable (v : Validation) (leg : OrderLeg)

/-- What holds of a limit price or a stop price. -/
structure PriceSound (price : ℚ) : Prop where
  positive : 0 < price
  tick : ∀ row ∈ v.filters.priceFilter, ∀ t, Publishes row.tickSize t → Multiple t price
  low : ∀ row ∈ v.filters.priceFilter, ∀ b, Publishes row.minPrice b → b ≤ price
  high : ∀ row ∈ v.filters.priceFilter, ∀ b, Publishes row.maxPrice b → price ≤ b
  percent : ∀ row ∈ v.filters.percentPrice, ∃ reference,
    v.data.Resolves v.filters reference ∧
      WithinBand reference row.multiplierDown row.multiplierUp price
  percentBySide : ∀ row ∈ v.filters.percentPriceBySide, ∃ reference,
    v.data.Resolves v.filters reference ∧
      (leg.side = .sell →
        WithinBand reference row.askMultiplierDown row.askMultiplierUp price) ∧
      (leg.side ≠ .sell → WithinBand reference row.bidMultiplierDown row.bidMultiplierUp price)

/-- A leg keeps to every filter. -/
structure LegSound : Prop where
  prices : ∀ price ∈ leg.prices, PriceSound v leg price
  range : ∀ rule, v.data.Ranges v.symbol rule → ∀ official, v.data.Official official →
    ∀ price ∈ leg.price,
      (leg.side = .sell → WithinBand official rule.askLimitMultDown rule.askLimitMultUp price) ∧
      (leg.side ≠ .sell → WithinBand official rule.bidLimitMultDown rule.bidLimitMultUp price)
  step : ∀ row ∈ v.filters.lotSize, ∀ s, Publishes row.stepSize s → Multiple s leg.qty
  minQty : ∀ row ∈ v.filters.lotSize, ∀ b, Publishes row.minQty b → b ≤ leg.qty
  maxQty : ∀ row ∈ v.filters.lotSize, ∀ b, Publishes row.maxQty b → leg.qty ≤ b
  /-- An older name of the least notional counts where the newer one is absent or zero. -/
  minNotional : ∀ row, row ∈ v.filters.notional ∨ row ∈ v.filters.minNotional →
    ∀ b, Publishes row.minNotional b ∨
        (¬ ∃ b', Publishes row.minNotional b') ∧ Publishes row.notional b →
      ∀ price ∈ leg.price.or leg.stopPrice, b ≤ price * leg.qty
  maxNotional : ∀ row, row ∈ v.filters.notional ∨ row ∈ v.filters.minNotional →
    ∀ b, Publishes row.maxNotional b → ∀ price ∈ leg.price.or leg.stopPrice, price * leg.qty ≤ b
  trailing : ∀ delta ∈ leg.trailingDelta, ∃ row ∈ v.filters.trailingDelta, ∃ low high,
    row.minTrailingBelowDelta = .int low ∧ row.maxTrailingBelowDelta = .int high ∧
      low ≤ delta ∧ delta ≤ high

end sound

/-! ### What is read -/

theorem checkBound_ok {bound : Option ℚ} {ok : ℚ → Prop} [DecidablePred ok] {text : ℚ → String}
    (h : checkBound bound ok text = .ok ()) : ∀ b ∈ bound, ok b := by
  intro b hb
  rw [Option.mem_def.mp hb] at h
  exact Checks.require_eq_ok.mp h

theorem forM_ok {α : Type} {f : α → Except Exc Unit} {l : List α} (h : l.forM f = .ok ()) :
    ∀ a ∈ l, f a = .ok () := by
  induction l with
  | nil =>
    intro a ha
    cases ha
  | cons b l ih =>
    obtain ⟨_, hb, hl⟩ := except_bind_eq_ok.mp h
    intro a ha
    obtain rfl | ha := List.mem_cons.mp ha
    · exact hb
    · exact ih hl a ha

/-- A bound that is published was read. -/
def Reads (field : Scalar) (bound : Option ℚ) : Prop := ∀ q, Publishes field q → bound = some q

theorem dec_reads {field : Scalar} {bound : Option ℚ} (h : dec field = .ok bound) :
    Reads field bound := by
  intro q hq
  obtain ⟨rfl, hne⟩ := hq
  have hread : dec (.num q) = .ok (some q) := by
    rw [dec, if_neg hne]
  rw [hread] at h
  exact (Except.ok.inj h).symm

theorem dec_some {field : Scalar} {q : ℚ} (h : dec field = .ok (some q)) : Publishes field q := by
  cases field with
  | num q' =>
    by_cases hzero : q' = 0
    · rw [dec, if_pos hzero] at h
      cases h
    · rw [dec, if_neg hzero] at h
      cases h
      exact ⟨rfl, hzero⟩
  | absent => cases h
  | null => cases h
  | empty => cases h
  | nonFinite => cases h
  | bad => cases h

theorem multiplier_reads {symbol : Symbol} {name : String} {raw : Scalar} {bound : Option ℚ}
    (h : multiplier symbol name raw = .ok bound) : Reads raw bound := by
  intro q hq
  obtain ⟨rfl, hne⟩ := hq
  unfold multiplier positivePrice at h
  by_cases hpos : 0 < q
  · simp only [Scalar.isMissing, if_pos hpos] at h
    exact (Except.ok.inj h).symm
  · simp only [Scalar.isMissing, if_neg hpos] at h
    cases h

/-- The bounds are those that the rows publish. -/
structure Bounds.Of (b : Bounds) (filters : SymbolFilters) : Prop where
  tick : ∀ row ∈ filters.priceFilter, Reads row.tickSize b.tick
  minPrice : ∀ row ∈ filters.priceFilter, Reads row.minPrice b.minPrice
  maxPrice : ∀ row ∈ filters.priceFilter, Reads row.maxPrice b.maxPrice
  step : ∀ row ∈ filters.lotSize, Reads row.stepSize b.step
  minQty : ∀ row ∈ filters.lotSize, Reads row.minQty b.minQty
  maxQty : ∀ row ∈ filters.lotSize, Reads row.maxQty b.maxQty
  minNotional : ∀ row ∈ filters.notional.or filters.minNotional, ∀ q,
    Publishes row.minNotional q ∨
        (¬ ∃ q', Publishes row.minNotional q') ∧ Publishes row.notional q →
      b.minNotional = some q
  maxNotional : ∀ row ∈ filters.notional.or filters.minNotional, Reads row.maxNotional b.maxNotional

theorem bounds_of {filters : SymbolFilters} {b : Bounds} (h : filters.bounds = .ok b) :
    b.Of filters := by
  unfold SymbolFilters.bounds at h
  obtain ⟨tick, htick, h⟩ := except_bind_eq_ok.mp h
  obtain ⟨minPrice, hminPrice, h⟩ := except_bind_eq_ok.mp h
  obtain ⟨maxPrice, hmaxPrice, h⟩ := except_bind_eq_ok.mp h
  obtain ⟨step, hstep, h⟩ := except_bind_eq_ok.mp h
  obtain ⟨minQty, hminQty, h⟩ := except_bind_eq_ok.mp h
  obtain ⟨maxQty, hmaxQty, h⟩ := except_bind_eq_ok.mp h
  obtain ⟨least, hleast, h⟩ := except_bind_eq_ok.mp h
  obtain ⟨minNotional, hminNotional, h⟩ := except_bind_eq_ok.mp h
  obtain ⟨maxNotional, hmaxNotional, h⟩ := except_bind_eq_ok.mp h
  obtain rfl := Except.ok.inj h
  have hat : ∀ {α : Type} {o : Option α} {a d : α}, a ∈ o → o.getD d = a := by
    intro α o a d ha
    rw [Option.mem_def.mp ha]
    rfl
  constructor
  · intro row hrow
    rw [hat hrow] at htick
    exact dec_reads htick
  · intro row hrow
    rw [hat hrow] at hminPrice
    exact dec_reads hminPrice
  · intro row hrow
    rw [hat hrow] at hmaxPrice
    exact dec_reads hmaxPrice
  · intro row hrow
    rw [hat hrow] at hstep
    exact dec_reads hstep
  · intro row hrow
    rw [hat hrow] at hminQty
    exact dec_reads hminQty
  · intro row hrow
    rw [hat hrow] at hmaxQty
    exact dec_reads hmaxQty
  · intro row hrow q hq
    rw [hat hrow] at hleast hminNotional
    obtain hq | ⟨hnone, hq⟩ := hq
    · rw [dec_reads hleast q hq] at hminNotional
      exact (Except.ok.inj hminNotional).symm
    · cases least with
      | some least => exact absurd ⟨least, dec_some hleast⟩ hnone
      | none => exact dec_reads hminNotional q hq
  · intro row hrow
    rw [hat hrow] at hmaxNotional
    exact dec_reads hmaxNotional

theorem positivePrice_ok {malformed invalid : String} {price : Scalar} {q : ℚ}
    (h : positivePrice malformed invalid price = .ok q) : price = .num q := by
  unfold positivePrice at h
  split at h
  · split at h
    · cases h
      rfl
    · cases h
  · cases h
  · cases h

namespace PublicData
variable {data : PublicData} {symbol : Symbol} {filters : SymbolFilters}

theorem officialReferencePrice_cases {official : Option ℚ}
    (h : data.officialReferencePrice symbol = .ok official) :
    official = none ∧ data.referencePrice = .ok .noReferencePrice ∨
      ∃ q, official = some q ∧ data.Official q := by
  unfold officialReferencePrice at h
  split at h
  · cases h
  · next hnone => exact .inl ⟨(Except.ok.inj h).symm, hnone⟩
  · next price hprice =>
    right
    obtain ⟨q, hq, rfl⟩ := except_map_eq_ok.mp h
    rw [positivePrice_ok hq] at hprice
    exact ⟨q, rfl, hprice⟩

theorem official_of {q : ℚ} {official : Option ℚ} (hq : data.Official q)
    (h : data.officialReferencePrice symbol = .ok official) : official = some q := by
  obtain ⟨-, hnone⟩ | ⟨q', rfl, hq'⟩ := officialReferencePrice_cases h
  · rw [hq] at hnone
    cases hnone
  · rw [PublicData.Official, hq] at hq'
    cases hq'
    rfl

theorem fallback_of {q : ℚ} (h : data.fallbackReferencePrice symbol filters = .ok q) :
    data.Fallback filters q := by
  unfold fallbackReferencePrice at h
  dsimp only at h
  split at h
  · cases h
  · next minutes hminutes =>
    have haverage : (∃ n, avgPriceMins filters = .int n ∧ 0 < n) ↔ 0 < minutes := by
      constructor
      · rintro ⟨n, hn, hpos⟩
        rw [hn] at hminutes
        cases hminutes
        exact hpos
      · intro hpos
        cases hident : avgPriceMins filters with
        | int n =>
          rw [hident] at hminutes
          cases hminutes
          exact ⟨minutes, rfl, hpos⟩
        | absent =>
          rw [hident] at hminutes
          cases hminutes
          exact absurd hpos (lt_irrefl 0)
        | null =>
          rw [hident] at hminutes
          cases hminutes
          exact absurd hpos (lt_irrefl 0)
        | bad =>
          rw [hident] at hminutes
          cases hminutes
    split at h
    · cases h
    · next price hprice =>
      rw [positivePrice_ok h] at hprice
      constructor
      · intro hsome
        rwa [if_pos (haverage.mp hsome)] at hprice
      · intro hnone
        rwa [if_neg (fun hpos => hnone (haverage.mpr hpos))] at hprice

end PublicData

/-- A side of a band. -/
theorem rangeBand_ok {symbol : Symbol} {side : String} {down up : Option ℚ} {band : RangeBand}
    (h : rangeBand symbol side down up = .ok band) : band = { down := down, up := up } := by
  unfold rangeBand at h
  split at h
  · split at h
    · cases h
    · exact (Except.ok.inj h).symm
  · exact (Except.ok.inj h).symm

/-- The multipliers are those that a rule publishes. -/
structure PriceRange.Of (range : PriceRange) (row : PriceRangeRow) : Prop where
  bidDown : Reads row.bidLimitMultDown range.bid.down
  bidUp : Reads row.bidLimitMultUp range.bid.up
  askDown : Reads row.askLimitMultDown range.ask.down
  askUp : Reads row.askLimitMultUp range.ask.up

theorem parsePriceRange_of {symbol : Symbol} {row : PriceRangeRow} {range : PriceRange}
    (h : parsePriceRange symbol row = .ok range) : range.Of row := by
  unfold parsePriceRange at h
  obtain ⟨bidUp, hbidUp, h⟩ := except_bind_eq_ok.mp h
  obtain ⟨bidDown, hbidDown, h⟩ := except_bind_eq_ok.mp h
  obtain ⟨askUp, haskUp, h⟩ := except_bind_eq_ok.mp h
  obtain ⟨askDown, haskDown, h⟩ := except_bind_eq_ok.mp h
  obtain ⟨bid, hbid, h⟩ := except_bind_eq_ok.mp h
  obtain ⟨ask, hask, h⟩ := except_bind_eq_ok.mp h
  obtain rfl := Except.ok.inj h
  obtain rfl := rangeBand_ok hbid
  obtain rfl := rangeBand_ok hask
  exact {
    bidDown := multiplier_reads hbidDown
    bidUp := multiplier_reads hbidUp
    askDown := multiplier_reads haskDown
    askUp := multiplier_reads haskUp }

theorem exactRow_of {symbol : Symbol} {rows : List SymbolRuleRow} {found : Option SymbolRuleRow}
    (h : exactRow symbol rows = .ok found) {row : SymbolRuleRow} (hrow : row ∈ rows)
    (hsymbol : row.symbol = symbol) : found = some row := by
  have hmem : row ∈ rows.filter (·.symbol = symbol) := by
    rw [List.mem_filter]
    exact ⟨hrow, by simpa using hsymbol⟩
  unfold exactRow at h
  split at h
  · next heq => 
    rw [heq] at hmem
    cases hmem
  · cases h
  · next found' _ heq =>
    rw [heq] at hmem
    rw [List.mem_singleton.mp hmem]
    exact (Except.ok.inj h).symm
  · cases h
  · cases h

theorem rangeRule_of {symbol : Symbol} {row : SymbolRuleRow} {found : Option PriceRangeRow}
    (h : rangeRule symbol row = .ok found) {rules : List PriceRangeRow}
    (hrules : row.rules = .ok rules)
    {rule : PriceRangeRow} (hrule : rule ∈ rules) (htype : rule.ruleType = "PRICE_RANGE") :
    found = some rule := by
  have hmem : rule ∈ rules.filter (·.ruleType = "PRICE_RANGE") := by
    rw [List.mem_filter]
    exact ⟨hrule, by simpa using htype⟩
  unfold rangeRule at h
  rw [hrules] at h
  dsimp only at h
  split at h
  · next heq =>
    rw [heq] at hmem
    cases hmem
  · next found' heq =>
    rw [heq] at hmem
    rw [List.mem_singleton.mp hmem]
    exact (Except.ok.inj h).symm
  · cases h

theorem priceRangeRule_of {data : PublicData} {symbol : Symbol} {range : Option PriceRange}
    (h : data.priceRangeRule symbol = .ok range) {rule : PriceRangeRow}
    (hrule : data.Ranges symbol rule) : ∃ r, range = some r ∧ r.Of rule := by
  obtain ⟨rows, row, rules, hanswer, hrow, hsymbol, hrules, hmem, htype⟩ := hrule
  unfold PublicData.priceRangeRule at h
  rw [hanswer] at h
  obtain ⟨found, hfound, h⟩ := except_bind_eq_ok.mp h
  rw [exactRow_of hfound hrow hsymbol] at h
  obtain ⟨found', hfound', h⟩ := except_bind_eq_ok.mp h
  rw [rangeRule_of hfound' hrules hmem htype] at h
  obtain ⟨r, hr, rfl⟩ := except_map_eq_ok.mp h
  exact ⟨r, rfl, parsePriceRange_of hr⟩

/-! ### What is checked -/

/-- The checks of the legs are made of what is published. -/
structure LegChecks.From (c : LegChecks) (v : Validation) (legs : List OrderLeg) : Prop where
  filters : c.filters = v.filters
  bounds : c.bounds.Of v.filters
  range : v.data.priceRangeRule v.symbol = .ok c.range
  trailing : trailingBounds v.symbol v.entry legs = .ok c.trailing
  official : v.official c.range = .ok c.official
  reference : v.reference c.official = .ok c.reference

theorem legChecks_from {v : Validation} {legs : List OrderLeg} {c : LegChecks}
    (h : v.legChecks legs = .ok c) : c.From v legs := by
  unfold Validation.legChecks at h
  obtain ⟨bounds, hbounds, h⟩ := except_bind_eq_ok.mp h
  obtain ⟨range, hrange, h⟩ := except_bind_eq_ok.mp h
  obtain ⟨trailing, htrailing, h⟩ := except_bind_eq_ok.mp h
  obtain ⟨official, hofficial, h⟩ := except_bind_eq_ok.mp h
  obtain ⟨reference, hreference, h⟩ := except_bind_eq_ok.mp h
  obtain rfl := Except.ok.inj h
  exact {
    filters := rfl
    bounds := bounds_of hbounds
    range := hrange
    trailing := htrailing
    official := hofficial
    reference := hreference }

section legs
variable {v : Validation} {legs : List OrderLeg} {c : LegChecks} {leg : OrderLeg} {price : ℚ}

/-- With a percent filter the reference price of the checks is the resolved one. -/
theorem LegChecks.From.resolves (hc : c.From v legs) (hfiltered : v.percentFiltered = true) :
    ∃ r, c.reference = some r ∧ v.data.Resolves v.filters r := by
  have hofficial := hc.official
  have hreference := hc.reference
  rw [Validation.official, hfiltered, Bool.or_true, if_pos rfl] at hofficial
  unfold Validation.reference at hreference
  rw [if_pos hfiltered] at hreference
  obtain ⟨hnone, hanswer⟩ | ⟨q, hsome, hq⟩ := PublicData.officialReferencePrice_cases hofficial
  · rw [hnone] at hreference
    obtain ⟨r, hr, href⟩ := except_map_eq_ok.mp hreference
    exact ⟨r, href.symm, .inr ⟨hanswer, PublicData.fallback_of hr⟩⟩
  · rw [hsome] at hreference
    exact ⟨q, (Except.ok.inj hreference).symm, .inl hq⟩

theorem withinBand_of {reference : ℚ} {down up : Scalar} {d u : Option ℚ} {text text' : ℚ → String}
    (hd : Reads down d) (hu : Reads up u)
    (hlow : checkBound d (reference * · ≤ price) text = .ok ())
    (hhigh : checkBound u (price ≤ reference * ·) text' = .ok ()) :
    WithinBand reference down up price where
  low := fun m hm => checkBound_ok hlow m (hd m hm)
  high := fun m hm => checkBound_ok hhigh m (hu m hm)

/-- What `checkPercent` reads of the row for a side. -/
theorem checkPercent_ok {reference : ℚ} (h : c.checkPercent leg reference price = .ok ()) :
    (∀ row ∈ c.filters.percentPriceBySide,
      (leg.side = .sell →
        WithinBand reference row.askMultiplierDown row.askMultiplierUp price) ∧
      (leg.side ≠ .sell →
        WithinBand reference row.bidMultiplierDown row.bidMultiplierUp price)) ∧
    (c.filters.percentPriceBySide = none → ∀ row ∈ c.filters.percentPrice,
      WithinBand reference row.multiplierDown row.multiplierUp price) := by
  unfold LegChecks.checkPercent at h
  obtain ⟨⟨down, up⟩, hband, h⟩ := except_bind_eq_ok.mp h
  obtain ⟨_, hlow, hhigh⟩ := except_bind_eq_ok.mp h
  unfold LegChecks.percentBand at hband
  split at hband
  · next pps hpps =>
    constructor
    · intro row hrow
      rw [hpps] at hrow
      cases hrow
      split at hband
      · next hsell =>
        obtain ⟨d, hd, hband⟩ := except_bind_eq_ok.mp hband
        obtain ⟨u, hu, hband⟩ := except_bind_eq_ok.mp hband
        cases hband
        exact ⟨fun _ => withinBand_of (dec_reads hd) (dec_reads hu) hlow hhigh,
          fun hne => absurd hsell hne⟩
      · next hsell =>
        obtain ⟨d, hd, hband⟩ := except_bind_eq_ok.mp hband
        obtain ⟨u, hu, hband⟩ := except_bind_eq_ok.mp hband
        cases hband
        exact ⟨fun heq => absurd heq hsell,
          fun _ => withinBand_of (dec_reads hd) (dec_reads hu) hlow hhigh⟩
    · intro hnone
      rw [hpps] at hnone
      cases hnone
  · next pp hpps hpp =>
    constructor
    · intro row hrow
      rw [hpps] at hrow
      cases hrow
    · intro _ row hrow
      rw [hpp] at hrow
      cases hrow
      obtain ⟨d, hd, hband⟩ := except_bind_eq_ok.mp hband
      obtain ⟨u, hu, hband⟩ := except_bind_eq_ok.mp hband
      cases hband
      exact withinBand_of (dec_reads hd) (dec_reads hu) hlow hhigh
  · next hpps hpp =>
    constructor
    · intro row hrow
      rw [hpps] at hrow
      cases hrow
    · intro _ row hrow
      rw [hpp] at hrow
      cases hrow

theorem LegChecks.From.priceSound (hc : c.From v legs)
    (hpercent : v.filters.percentPriceBySide = none ∨ v.filters.percentPrice = none)
    (h : c.checkPrice leg price = .ok ()) : PriceSound v leg price := by
  unfold LegChecks.checkPrice at h
  obtain ⟨_, hpos, h⟩ := except_bind_eq_ok.mp h
  obtain ⟨_, htick, h⟩ := except_bind_eq_ok.mp h
  obtain ⟨_, hlow, h⟩ := except_bind_eq_ok.mp h
  obtain ⟨_, hhigh, h⟩ := except_bind_eq_ok.mp h
  have hbounds := hc.bounds
  constructor
  · exact Checks.require_eq_ok.mp hpos
  · intro row hrow t ht
    have heq : price = floorStep price t := checkBound_ok htick t (hbounds.tick row hrow t ht)
    rw [heq]
    exact multiple_floorStep price t
  · intro row hrow b hb
    exact checkBound_ok hlow b (hbounds.minPrice row hrow b hb)
  · intro row hrow b hb
    exact checkBound_ok hhigh b (hbounds.maxPrice row hrow b hb)
  · intro row hrow
    have hfiltered : v.percentFiltered = true := by
      rw [Validation.percentFiltered, Option.mem_def.mp hrow]
      exact Bool.or_true _
    obtain ⟨r, hr, hresolves⟩ := hc.resolves hfiltered
    rw [hr] at h
    have hnone : v.filters.percentPriceBySide = none := by
      obtain hnone | hnone := hpercent
      · exact hnone
      · rw [hnone] at hrow
        cases hrow
    have hpp := (checkPercent_ok h).2
    rw [hc.filters] at hpp
    exact ⟨r, hresolves, hpp hnone row hrow⟩
  · intro row hrow
    have hfiltered : v.percentFiltered = true := by
      rw [Validation.percentFiltered, Option.mem_def.mp hrow]
      exact Bool.true_or _
    obtain ⟨r, hr, hresolves⟩ := hc.resolves hfiltered
    rw [hr] at h
    have hpps := (checkPercent_ok h).1
    rw [hc.filters] at hpps
    exact ⟨r, hresolves, hpps row hrow⟩

theorem LegChecks.From.rangeSound (hc : c.From v legs) (h : c.checkRange leg = .ok ())
    {rule : PriceRangeRow} (hrule : v.data.Ranges v.symbol rule) {official : ℚ}
    (hofficial : v.data.Official official) (hprice : price ∈ leg.price) :
    (leg.side = .sell → WithinBand official rule.askLimitMultDown rule.askLimitMultUp price) ∧
      (leg.side ≠ .sell →
        WithinBand official rule.bidLimitMultDown rule.bidLimitMultUp price) := by
  obtain ⟨range, hrange, hof⟩ := priceRangeRule_of hc.range hrule
  have hasked := hc.official
  rw [hrange, Validation.official, Option.isSome_some, Bool.true_or, if_pos rfl] at hasked
  unfold LegChecks.checkRange at h
  rw [hrange, PublicData.official_of hofficial hasked, Option.mem_def.mp hprice] at h
  obtain ⟨_, hlow, hhigh⟩ := except_bind_eq_ok.mp h
  constructor
  · intro hsell
    rw [PriceRange.band, if_pos hsell] at hlow hhigh
    exact withinBand_of hof.askDown hof.askUp hlow hhigh
  · intro hsell
    rw [PriceRange.band, if_neg hsell] at hlow hhigh
    exact withinBand_of hof.bidDown hof.bidUp hlow hhigh

/-- The bounds are read if a leg has a trailing delta. -/
theorem trailingBounds_ok {symbol : Symbol} {entry : SymbolEntry} {low high : ℤ}
    (h : trailingBounds symbol entry legs = .ok (some (low, high))) :
    ∃ row ∈ entry.filters.trailingDelta,
      row.minTrailingBelowDelta = .int low ∧ row.maxTrailingBelowDelta = .int high := by
  unfold trailingBounds at h
  split at h
  · cases h
  · split at h
    · cases h
    · split at h
      · cases h
      · next row hrow =>
        split at h
        · next low' high' hlow hhigh =>
          split at h
          · cases h
          · cases h
            exact ⟨row, hrow, hlow, hhigh⟩
        · cases h

theorem LegChecks.From.trailingSound (hc : c.From v legs) (h : c.checkTrailing leg = .ok ())
    {delta : ℤ} (hdelta : delta ∈ leg.trailingDelta) :
    ∃ row ∈ v.filters.trailingDelta, ∃ low high,
      row.minTrailingBelowDelta = .int low ∧ row.maxTrailingBelowDelta = .int high ∧
        low ≤ delta ∧ delta ≤ high := by
  unfold LegChecks.checkTrailing at h
  rw [Option.mem_def.mp hdelta] at h
  dsimp only at h
  split at h
  · cases h
  · next low high htrailing =>
    have hbounds := hc.trailing
    rw [htrailing] at hbounds
    obtain ⟨row, hrow, hlow, hhigh⟩ := trailingBounds_ok hbounds
    have hin := Checks.require_eq_ok.mp h
    exact ⟨row, hrow, low, high, hlow, hhigh, hin.1, hin.2⟩

/-- Of the two notional filters only one is published, so that it is the one that is read. -/
theorem notional_row (hnotional : v.filters.notional = none ∨ v.filters.minNotional = none)
    {row : NotionalFilter} (hrow : row ∈ v.filters.notional ∨ row ∈ v.filters.minNotional) :
    row ∈ v.filters.notional.or v.filters.minNotional := by
  obtain hrow | hrow := hrow
  · rw [Option.mem_def.mp hrow]
    rfl
  · obtain hnone | hnone := hnotional
    · rw [hnone]
      exact hrow
    · rw [hnone] at hrow
      cases hrow

/-- The price of the notional is the limit price, or the stop price where there is none. -/
theorem OrderLeg.notionalPrice_of (hpos : ∀ price ∈ leg.prices, 0 < price)
    (hprice : price ∈ leg.price.or leg.stopPrice) : leg.notionalPrice = some price := by
  cases hlimit : leg.price with
  | none =>
    rw [hlimit] at hprice
    rw [OrderLeg.notionalPrice, hlimit]
    exact hprice
  | some limit =>
    rw [hlimit] at hprice
    cases hprice
    have hmem : price ∈ leg.prices := by
      rw [OrderLeg.prices, List.reduceOption_mem_iff, hlimit]
      exact List.mem_cons_self
    have hne := (hpos price hmem).ne'
    rw [OrderLeg.notionalPrice, hlimit]
    simp [Option.filter, hne]

theorem LegChecks.From.legSound (hc : c.From v legs)
    (hnotional : v.filters.notional = none ∨ v.filters.minNotional = none)
    (hpercent : v.filters.percentPriceBySide = none ∨ v.filters.percentPrice = none)
    (h : c.checkLeg leg = .ok ()) : LegSound v leg := by
  unfold LegChecks.checkLeg at h
  obtain ⟨_, hprices, h⟩ := except_bind_eq_ok.mp h
  obtain ⟨_, hrange, h⟩ := except_bind_eq_ok.mp h
  obtain ⟨_, hquantity, h⟩ := except_bind_eq_ok.mp h
  obtain ⟨_, hvalue, htrailing⟩ := except_bind_eq_ok.mp h
  have hsound : ∀ price ∈ leg.prices, PriceSound v leg price :=
    fun price hprice => hc.priceSound hpercent (forM_ok hprices price hprice)
  unfold LegChecks.checkQuantity at hquantity
  obtain ⟨_, hstep, hquantity⟩ := except_bind_eq_ok.mp hquantity
  obtain ⟨_, hleast, hmost⟩ := except_bind_eq_ok.mp hquantity
  have hbounds := hc.bounds
  constructor
  · exact hsound
  · intro rule hrule official hofficial price hprice
    exact hc.rangeSound hrange hrule hofficial hprice
  · intro row hrow s hs
    have heq : leg.qty = floorStep leg.qty s := checkBound_ok hstep s (hbounds.step row hrow s hs)
    rw [heq]
    exact multiple_floorStep leg.qty s
  · intro row hrow b hb
    exact checkBound_ok hleast b (hbounds.minQty row hrow b hb)
  · intro row hrow b hb
    exact checkBound_ok hmost b (hbounds.maxQty row hrow b hb)
  · intro row hrow b hb price hprice
    unfold LegChecks.checkNotional at hvalue
    rw [OrderLeg.notionalPrice_of (fun p hp => (hsound p hp).positive) hprice] at hvalue
    obtain ⟨_, hlow, -⟩ := except_bind_eq_ok.mp hvalue
    exact checkBound_ok hlow b (hbounds.minNotional row (notional_row hnotional hrow) b hb)
  · intro row hrow b hb price hprice
    unfold LegChecks.checkNotional at hvalue
    rw [OrderLeg.notionalPrice_of (fun p hp => (hsound p hp).positive) hprice] at hvalue
    obtain ⟨_, -, hhigh⟩ := except_bind_eq_ok.mp hvalue
    exact checkBound_ok hhigh b (hbounds.maxNotional row (notional_row hnotional hrow) b hb)
  · intro delta hdelta
    exact hc.trailingSound htrailing hdelta

end legs

/-- Of an accepted request every leg keeps to every filter that is published, but its notional is
that of its limit or stop price, and its trailing delta is held to the bounds below the market. -/
theorem legs_sound {v : Validation} {summary : Summary}
    (hnotional : v.filters.notional = none ∨ v.filters.minNotional = none)
    (hpercent : v.filters.percentPriceBySide = none ∨ v.filters.percentPrice = none)
    (h : validateReplacement v = .ok summary) :
    ∃ legs, legsFromRequest v.endpoint v.request = .ok legs ∧ summary.legs = legs.length ∧
      ∀ leg ∈ legs, LegSound v leg := by
  unfold validateReplacement at h
  obtain ⟨_, -, h⟩ := except_bind_eq_ok.mp h
  obtain ⟨legs, hlegs, h⟩ := except_bind_eq_ok.mp h
  obtain ⟨c, hc, h⟩ := except_bind_eq_ok.mp h
  obtain ⟨_, hchecked, h⟩ := except_bind_eq_ok.mp h
  obtain ⟨names, -, h⟩ := except_bind_eq_ok.mp h
  obtain rfl := Except.ok.inj h
  refine ⟨legs, hlegs, rfl, ?_⟩
  intro leg hleg
  exact (legChecks_from hc).legSound hnotional hpercent (forM_ok hchecked leg hleg)

theorem legs_sound_sample : ∃ summary, validateReplacement sampleValidation = .ok summary ∧
    ∃ legs, legsFromRequest sampleValidation.endpoint sampleValidation.request = .ok legs ∧
      summary.legs = legs.length ∧ ∀ leg ∈ legs, LegSound sampleValidation leg := by
  have haccepted : (validateReplacement sampleValidation).toOption.isSome = true := by
    decide +kernel
  obtain ⟨summary, h⟩ := except_ok_of_isSome haccepted
  exact ⟨summary, h, legs_sound (.inr rfl) (.inr rfl) h⟩

/-- A trailing stop that gives no price, where a BUY may trail by 1 % at least. -/
def trailingAlone (side : Side) (quantity : ℚ) (delta : ℤ) : Validation :=
  { sampleValidation with
    endpoint := .order
    request := .ofParams {
      symbol := "BTCUSDT"
      side := some side
      type := some .stopLoss
      quantity := some quantity
      trailingDelta := some delta }
    entry := { sampleValidation.entry with
      filters := { sampleValidation.filters with
        maxPosition := none
        trailingDelta := some {
          minTrailingBelowDelta := .int 10
          maxTrailingBelowDelta := .int 2000
          minTrailingAboveDelta := .int 100
          maxTrailingAboveDelta := .int 2000 } } } }

/-- A SELL worth 0.11 is accepted where 5 is the least notional, and a BUY that trails by 0.4 %. -/
theorem legs_sound_unpriced :
    let sell := trailingAlone .sell (1 / 1000) 40
    let buy := trailingAlone .buy 1 40
    ((validateReplacement sell).toOption.isSome = true ∧
        ∃ leg, legsFromRequest sell.endpoint sell.request = .ok [leg] ∧
          leg.price.or leg.stopPrice = none ∧ sell.data.Resolves sell.filters 110 ∧
          ∃ row ∈ sell.filters.notional, Publishes row.minNotional 5 ∧ 110 * leg.qty < 5) ∧
      (validateReplacement buy).toOption.isSome = true ∧
        ∃ leg, legsFromRequest buy.endpoint buy.request = .ok [leg] ∧ leg.side = .buy ∧
          leg.trailingDelta = some 40 ∧
          ∃ row ∈ buy.filters.trailingDelta, row.minTrailingAboveDelta = .int 100 := by
  intro sell buy
  refine ⟨⟨by decide +kernel, _, rfl, rfl, .inr ⟨rfl, fun _ => rfl, fun hnone => ?_⟩, _, rfl,
    ⟨rfl, by decide⟩, by decide +kernel⟩, ⟨by decide +kernel, _, rfl, rfl, rfl, _, rfl, rfl⟩⟩
  exact absurd ⟨5, rfl, by decide⟩ hnone

end SpotSidecar.Filters
