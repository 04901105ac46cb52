import SpotSidecar.Interaction.Embed
import SpotSidecar.Safety.Gate
import SpotSidecar.Safety.Stops
import SpotSidecar.Supervisor.Scripted

/-! The trailing orders of automatic management: the rule checks one reading of the price, and the
order is built from another. -/
namespace SpotSidecar.Supervisor
open Interaction Prog

/-- The readings of the managing thread, and the orders it had placed when a reconciliation
began. -/
structure Watch where
  readings : Readings := {}
  reconciling : Option (List Placed) := none

/-- The orders placed before the reconciliation that follows a conversion. -/
def Watch.placed (v : Watch) : List Placed := v.reconciling.getD v.readings.placed

variable {σ α : Type} {cfg : Config} {env : Env σ}

def Watch.sees (γ : Type) : Work γ → World σ → Except Exc γ → Watch → Watch
  | .adapter a, w, answer, v => { v with readings := v.readings.sees γ a w.adapter answer }
  | .reconcileBegan, _, _, v => { v with reconciling := some v.placed }
  | _, _, _, v => v

abbrev Env.oversees (env : Env σ) :
    ∀ γ : Type, Work γ → World σ × Watch → Except Exc γ × (World σ × Watch) :=
  watched (Work.exec env) Watch.sees

/-- Acts in which the spectator sees nothing. -/
def Work.unseen (γ : Type) : Work γ → Prop
  | .adapter a => a.unread
  | .reconcileBegan => False
  | _ => True

/-- The part of the overseen world that the adapter is. -/
def adapterPart (v : World σ × Watch) : SpotSidecar.World σ × Readings :=
  (v.1.adapter, v.2.readings)

theorem contains_own (env : Env σ) : Contains env.oversees env.toEnv.reads (fun _ => Work.adapter)
    adapterPart :=
  fun _ _ _ => ⟨rfl, rfl⟩

variable (env) in
/-- The adapter's own programs begin no reconciliation. -/
theorem keeps_reconciling (m : Acting α) (x : Option (List Placed)) :
    Keeps env.oversees (fun v => v.2.reconciling = x) (own m) :=
  keeps_lift (fun _ _ hv => hv) m

theorem keeps_unseen {m : Working α} (hm : m.All Work.unseen) (R : Watch → Prop) :
    Keeps env.oversees (fun v => R v.2) m := by
  refine All.keeps_record hm (fun op hop w answer v => ?_) R
  cases op with
  | adapter a =>
    rw [Watch.sees, Readings.sees_unread a hop]
  | reconcileBegan => exact hop.elim
  | _ => rfl

/-- A trailing delta within the bounds of the symbol. -/
def trailWithin (info : SymbolInfo) (requested : ℤ) : ℤ :=
  max info.minTrailingBelowDelta (min requested info.maxTrailingBelowDelta)

/-- The trailing delta that a conversion takes for the one it is asked for. -/
def Config.requested (cfg : Config) (delta : ℤ) : ℤ :=
  if delta = 0 then cfg.adapter.settings.trailingDeltaBips else delta

/-- What the price loses to a trailing delta and the buffer. -/
def Config.trailed (cfg : Config) (price : ℚ) (delta : ℤ) : ℚ :=
  price * (1 - (delta + cfg.adapter.settings.limitFillBufferBips) / 10000)

/-- What automatic management has found before it replaces the protection of a position. -/
structure Checked (cfg : Config) (entry : ℚ) (info : SymbolInfo) (price : ℚ) (delta : ℤ)
    (breakEven : ℚ) : Prop where
  adjusted : feeAdjustedBreakEven entry cfg.adapter.settings.feePctPerSide
    cfg.adapter.settings.feePctPerSide cfg.adapter.breakEvenSlippagePct = .ok breakEven
  clamped : delta = trailWithin info cfg.autoTightTrailBips
  floor : breakEven ≤ floorStep (cfg.trailed price delta) info.tickSize

theorem autoTrail_ok {rules : SymbolRules} {info : SymbolInfo} {entry price : ℚ} {delta : ℤ}
    (hrules : rules.From info)
    (h : autoTrail cfg.adapter rules entry price cfg.autoTightTrailBips = .ok (.trail delta)) :
    ∃ breakEven, Checked cfg entry info price delta breakEven := by
  unfold autoTrail at h
  obtain ⟨breakEven, hadjusted, h⟩ := except_bind_eq_ok.mp h
  refine ⟨breakEven, ?_⟩
  dsimp only at h
  split at h
  · cases h
  · next hfloor =>
    obtain rfl := AutoAction.trail.inj (Except.ok.inj h)
    have hdelta : ProtectionSettings.delta rules cfg.autoTightTrailBips =
        trailWithin info cfg.autoTightTrailBips := by
      rw [ProtectionSettings.delta, hrules.trailMin, hrules.trailMax, trailWithin]
    exact ⟨hadjusted, hdelta, hrules.tick ▸ not_lt.mp hfloor⟩

theorem triple_autoAction (pair : Pair) (triggerPct : ℚ) (bullish : Bool) (row : TradeRow)
    (entry price : ℚ) (r : Readings) :
    Triple env.toEnv.hears (fun v => v.2 = r)
      (autoAction cfg.adapter pair triggerPct cfg.autoTightTrailBips bullish row entry price)
      (fun action v => ∀ delta, action = .trail delta → ∃ info breakEven,
        v.2 = { r with infos := info :: r.infos } ∧ Checked cfg entry info price delta breakEven)
      (fun _ _ => True) fun _ => True := by
  unfold autoAction
  refine .ite (fun _ => .ite (fun _ => ?_) fun _ => ?_) fun _ => .ite (fun _ => ?_) fun _ => ?_
  · exact .pure fun _ _ _ h => by cases h
  · refine Triple.bind (triple_rulesOf_reading pair r) fun rules => ?_
    refine Triple.exists_pre fun info => Triple.assume_eq fun hrules => ?_
    refine .ofExcept (fun action haction v hv delta hdelta => ?_) fun _ _ _ _ => trivial
    rw [hdelta] at haction
    obtain ⟨breakEven, hchecked⟩ := autoTrail_ok hrules haction
    exact ⟨info, breakEven, hv, hchecked⟩
  · exact .pure fun _ _ _ h => by cases h
  · exact .pure fun _ _ _ h => by cases h

/-- A trailing order of automatic management: it was checked against the first reading of the price
and the rules, and is built from the last. -/
structure Trails (cfg : Config) (order : Placed) (delta : ℤ) (row : TradeRow)
    (info₀ info : SymbolInfo) (checked current breakEven limit : ℚ) : Prop where
  active : order.store.activeTradeForPair row.pair = some row
  first : order.prices.getLast? = some (.num checked) ∧ order.infos.getLast? = some info₀
  check : Checked cfg (row.averageEntryPrice.getD 0) info₀ checked
    (trailWithin info₀ cfg.autoTightTrailBips) breakEven
  last : order.prices.head? = some (.num current) ∧ order.infos.head? = some info
  price : order.params.price = some limit
  clamped : delta = trailWithin info (cfg.requested (trailWithin info₀ cfg.autoTightTrailBips))

/-- A trailing order keeps the break-even price just if the last reading of the price, less the
delta and the buffer, reaches it. -/
def Config.trails (cfg : Config) (order : Placed) : Prop :=
  ∀ delta, order.params.trailingDelta = some delta →
    ∃ row info₀ info checked current breakEven limit,
      Trails cfg order delta row info₀ info checked current breakEven limit ∧
      (breakEven ≤ limit ↔ ceilStep breakEven info.tickSize ≤ cfg.trailed current delta)

/-- The order of a conversion that follows a check trails as the check has found. -/
theorem trails_of_converted {s : Store} {symbol : Symbol} {row : TradeRow} {entry checked : ℚ}
    {delta₀ : ℤ} {info₀ : SymbolInfo} {breakEven : ℚ} {c : Conversion} {order : Placed}
    (hrow : s.activeTradeForSymbol symbol = .ok (some row))
    (hentry : row.averageEntryPrice = some entry)
    (hcheck : Checked cfg entry info₀ checked delta₀ breakEven)
    (h : Converted cfg.adapter { mode := .trailingOnly, trailingDeltaBips := some delta₀ } s symbol
      c order) (hprices : [.num checked] <:+ order.prices) (hinfos : [info₀] <:+ order.infos) :
    cfg.trails order := by
  intro delta hdelta
  obtain ⟨-, info, current, hinfo, hrules, hcurrent, hclamped, hprice⟩ := h.trailing hdelta
  have hlast : ∀ {β : Type} {l : List β} {x : β}, [x] <:+ l → l.getLast? = some x := by
    rintro β l x ⟨before, rfl⟩
    exact List.getLast?_concat
  have hpos := (feeAdjustedBreakEven_pos hcheck.adjusted).2
  refine ⟨row, info₀, info, checked, current, breakEven, ProtectionSettings.below c.rules current
    (delta + cfg.adapter.settings.limitFillBufferBips), ?_, ?_⟩
  · exact {
      active := by
        have hactive := (activeTradeForPair_of_symbol hrow).2
        unfold Store.activeTradeForPair Store.activeTradeRows at hactive ⊢
        rw [h.trades]
        exact hactive
      first := ⟨hlast hprices, hlast hinfos⟩
      check := by
        rw [hentry]
        exact hcheck.clamped ▸ hcheck
      last := ⟨hcurrent, hinfo⟩
      price := hprice
      clamped := by
        rw [hclamped, ProtectionSettings.deltaFor, ProtectionSettings.delta, hrules.trailMin,
          hrules.trailMax, ← hcheck.clamped, trailWithin, Config.requested]
        by_cases hzero : delta₀ = 0 <;> simp [hzero, Option.filter] }
  · have htick : 0 < info.tickSize := hrules.tick ▸ c.rules.tick_pos
    have hiff := @le_floorStep_iff _ (cfg.trailed current delta) _ htick hpos
    rw [ProtectionSettings.below, hrules.tick]
    simpa only [Config.trailed, Int.cast_add] using hiff

section runs

/-- The orders that were placed before a reconciliation trail as they were checked. -/
def Watch.fine (cfg : Config) (v : Watch) : Prop := ∀ order ∈ v.placed, cfg.trails order

/-- Once a reconciliation has begun, nothing is added. -/
theorem keeps_reconciled (m : Working α) :
    Keeps env.oversees (fun v => v.2.reconciling.isSome = true ∧ v.2.fine cfg) m := by
  refine keeps_of_exec (fun a v hv => ?_) m
  obtain ⟨placed, hplaced⟩ := Option.isSome_iff_exists.mp hv.1
  have hfine : ∀ order ∈ placed, cfg.trails order := by
    have hv := hv.2
    rwa [Watch.fine, Watch.placed, hplaced, Option.getD_some] at hv
  cases a with
  | reconcileBegan =>
    refine ⟨rfl, ?_⟩
    simpa only [Watch.fine, Env.oversees, watched, Watch.sees, Watch.placed, hplaced,
      Option.getD_some] using hfine
  | adapter a =>
    refine ⟨hv.1, ?_⟩
    simpa only [Watch.fine, Env.oversees, watched, Watch.sees, Watch.placed, hplaced,
      Option.getD_some] using hfine
  | _ => exact hv

/-- What asks and writes no flag leaves the store. -/
theorem keeps_store_calm {m : Asking α} (hm : Calm m) (s : Store) :
    Keeps (Ask.exec env.toEnv) (fun w => w.store = s) m :=
  hm.keeps fun a ha w hw => by
    cases a with
    | call c =>
      simp only [Ask.exec]
      split <;> exact hw
    | setMemory m => exact ha.elim
    | setData d => exact ha.elim
    | _ => exact hw

/-- Where the managing thread has read prices and rules, and nothing is placed. -/
def At (s : Store) (r : Readings) (v : World σ × Watch) : Prop :=
  v.2 = { readings := r } ∧ v.1.store = s

theorem At.fine {s : Store} {r : Readings} {v : World σ × Watch} (h : At s r v)
    (hr : r.placed = []) :
    v.2.fine cfg := by
  intro order horder
  rw [h.1, Watch.placed, Option.getD_none, hr] at horder
  exact absurd horder List.not_mem_nil

/-- A question of the managing thread. -/
theorem triple_ownAsking {m : Asking α} {Q : α → Readings → Prop} {s : Store} {r : Readings}
    (hr : r.placed = []) (hm : Calm m)
    (h : Triple env.toEnv.hears (fun v => v.2 = r ∧ v.1.store = s) m (fun a v => Q a v.2)
      (fun _ _ => True) fun _ => True) :
    Triple env.oversees (At s r) (own m)
      (fun a v => ∃ r', At s r' v ∧ r'.placed = [] ∧ Q a r')
      (fun _ v => v.2.fine cfg) fun v => v.2.fine cfg := by
  have hplaced : Keeps env.toEnv.hears (fun v => v.2.placed = []) m := keeps_placed m (· = [])
  have hstore : Keeps env.toEnv.hears (fun v => v.1.store = s) m :=
    Triple.watched (keeps_store_calm hm s)
  have hparts := ((Triple.heard (h.and (hplaced.both hstore))).embed (contains_own env)).and
    (keeps_reconciling env (liftM m) none)
  have hempty : ∀ v : World σ × Watch, v.2.readings.placed = [] → v.2.reconciling = none →
      v.2.fine cfg := by
    intro v hp hn order horder
    rw [Watch.placed, hn, Option.getD_none, hp] at horder
    exact absurd horder List.not_mem_nil
  refine hparts.conseq ?_ ?_ ?_ ?_
  · rintro ⟨w, v⟩ ⟨rfl, hs⟩
    exact ⟨⟨⟨rfl, hs⟩, hr, hs⟩, rfl⟩
  · rintro a ⟨w, v⟩ ⟨⟨hQ, hp, hs⟩, hn⟩
    exact ⟨v.readings, ⟨by cases v; cases hn; rfl, hs⟩, hp, hQ⟩
  · rintro e ⟨w, v⟩ ⟨⟨-, hp, -⟩, hn⟩
    exact hempty _ hp hn
  · rintro ⟨w, v⟩ ⟨⟨-, hp, -⟩, hn⟩
    exact hempty _ hp hn

/-- The conversion of automatic management, from what it has read for its check. -/
theorem triple_autoConvert {args : ConvertArgs} {symbol : Symbol} {s : Store} {r : Readings}
    (hr : r.placed = [])
    (hgood : ∀ c order, Converted cfg.adapter args s symbol c order → r.prices <:+ order.prices →
      r.infos <:+ order.infos → cfg.trails order) :
    Triple env.oversees (At s r) (autoConvert cfg symbol args) (fun _ v => v.2.fine cfg)
      (fun _ v => v.2.fine cfg) fun v => v.2.fine cfg := by
  have hread : ∀ {α : Type} (m : Asking α), Calm m → m.All Ask.unread →
      Triple env.oversees (At s r) (own m) (fun _ => At s r) (fun _ v => v.2.fine cfg)
        fun v => v.2.fine cfg := fun m hm hu =>
    (triple_ownAsking (Q := fun _ r' => r' = r) hr hm
      ((triple_unread hu (· = r)).weaken fun _ hv => hv.1)).post fun a v ⟨r', hv, _, he⟩ => he ▸ hv
  have hafter : ∀ {β : Type} (m : Working β),
      Triple env.oversees (fun v => v.2.reconciling.isSome = true ∧ v.2.fine cfg) m
        (fun _ v => v.2.reconciling.isSome = true ∧ v.2.fine cfg) (fun _ v => v.2.fine cfg)
        fun v => v.2.fine cfg := fun m =>
    (keeps_reconciled m).conseq (fun _ hv => hv) (fun _ _ hv => hv) (fun _ _ hv => hv.2)
      fun _ hv => hv.2
  unfold autoConvert
  refine Triple.bind (hread _ .theMemory (.perform trivial)) fun m => ?_
  refine Triple.bind (hread _ .theStore unread_theStore) fun s' => ?_
  refine Triple.bind (Q := fun _ v => v.2.reconciling = none ∧ v.2.fine cfg) ?_ fun verdict => ?_
  · have hfine : ∀ v : World σ × Watch, Adds r.placed
        (fun order => ∃ c, Converted cfg.adapter args s symbol c order) (adapterPart v) →
        r.Grows v.2.readings → v.2.reconciling = none → v.2.fine cfg := by
      intro v hadds hgrows hnone order horder
      rw [Watch.placed, hnone, Option.getD_none] at horder
      rcases hadds order horder with hold | ⟨c, hc⟩
      · rw [hr] at hold
        exact absurd hold List.not_mem_nil
      rcases hgrows.placed order horder with hold | ⟨hprices, hinfos⟩
      · rw [hr] at hold
        exact absurd hold List.not_mem_nil
      · exact hgood c order hc hprices hinfos
    have hparts := (((triple_convert_placed cfg.adapter env.toEnv args s symbol r).and
      (keeps_grows r _)).embed (contains_own env)).and (keeps_reconciling env _ none)
    refine hparts.conseq ?_ ?_ ?_ ?_
    · rintro ⟨w, v⟩ ⟨rfl, hs⟩
      exact ⟨⟨⟨hs, rfl⟩, .refl _⟩, rfl⟩
    · exact fun _ v hv => ⟨hv.2, hfine v hv.1.1 hv.1.2 hv.2⟩
    · exact fun _ v hv => hfine v hv.1.1 hv.1.2 hv.2
    · exact fun v hv => hfine v hv.1.1 hv.1.2 hv.2
  refine .ite (fun _ => ?_) fun _ => .pure fun v hv => hv.2
  have hbegin : Triple env.oversees (fun v => v.2.reconciling = none ∧ v.2.fine cfg)
      (.perform .reconcileBegan : Working Unit)
      (fun _ v => v.2.reconciling.isSome = true ∧ v.2.fine cfg) (fun _ v => v.2.fine cfg)
      fun v => v.2.fine cfg := by
    refine Triple.perform (fun v hv => hv.2) (fun v a v' hv heq => ?_) fun v e v' _ heq => ?_
    · obtain ⟨-, rfl⟩ := Prod.mk.inj heq
      exact ⟨rfl, hv.2⟩
    · cases heq
  unfold reconcileHeld
  exact Triple.bind (.bind hbegin fun _ => hafter _) fun proof =>
    (hafter _).post fun _ v hv => hv.2

theorem triple_managePosition (active : PairControl.ActiveState) (bullish : Bool) :
    Triple env.oversees (fun v => v.2 = {}) (managePosition cfg active bullish)
      (fun _ v => v.2.fine cfg) (fun _ v => v.2.fine cfg) fun v => v.2.fine cfg := by
  refine Triple.assume fun v₀ h₀ => ?_
  generalize hs : v₀.1.store = s
  have hat : ∀ v : World σ × Watch, v = v₀ → At s {} v := by
    rintro v rfl
    exact ⟨h₀, hs⟩
  refine Triple.weaken ?_ hat
  have hend : ∀ {r : Readings}, r.placed = [] → ∀ v : World σ × Watch, At s r v → v.2.fine cfg :=
    fun hr v hv => hv.fine hr
  unfold managePosition
  refine Triple.bind (Q := fun a v => At s {} v ∧ a = s) ?_ fun a => Triple.assume_eq fun ha => ?_
  · have hstore : Triple env.toEnv.hears (fun v => v.2 = ({} : Readings) ∧ v.1.store = s) theStore
        (fun a v => a = s ∧ v.2 = ({} : Readings)) (fun _ _ => True) fun _ => True := by
      refine Triple.perform (fun _ _ => trivial) (fun v a v' hv heq => ?_) fun _ _ _ _ _ => trivial
      obtain ⟨hanswer, rfl⟩ := Prod.mk.inj heq
      exact ⟨(Except.ok.inj hanswer).symm.trans hv.2, hv.1⟩
    exact (triple_ownAsking (Q := fun a r' => a = s ∧ r' = {}) rfl .theStore hstore).post
      fun a v ⟨r', hv, _, ha, he⟩ => ⟨he ▸ hv, ha⟩
  subst ha
  refine Triple.bind (Q := fun found v => At a {} v ∧
    a.activeTradeForSymbol active.symbol = .ok found)
    ?_ fun found => Triple.assume_eq fun hfound => ?_
  · cases a.activeTradeForSymbol active.symbol with
    | error e => exact .raise fun v hv => hend rfl v hv
    | ok found => exact .pure fun v hv => ⟨hv, rfl⟩
  cases found with
  | none => exact .pure fun v hv => hend rfl v hv
  | some row =>
    cases hentry : row.averageEntryPrice with
    | none =>
      simp only [hentry]
      exact .pure fun v hv => hend rfl v hv
    | some entry =>
      simp only [hentry]
      refine .ite (fun _ => .pure fun v hv => hend rfl v hv) fun _ => ?_
      refine Triple.bind (Q := fun _ => At a {}) ?_ fun ready => ?_
      · refine Triple.perform (fun v hv => hend rfl v hv) (fun v b v' hv heq => ?_)
          fun v e v' hv heq => ?_
        · obtain ⟨-, rfl⟩ := Prod.mk.inj heq
          exact hv
        · obtain ⟨-, rfl⟩ := Prod.mk.inj heq
          exact hend rfl v hv
      refine .ite (fun _ => .pure fun v hv => hend rfl v hv) fun _ => ?_
      refine Triple.bind
        (triple_ownAsking (Q := fun price r' => r' = { prices := [.num price] }) rfl
        (Calm.currentPrice _) (((triple_currentPrice _ _).weaken fun _ hv => hv.1).post
          fun _ _ hv => hv.1)) fun price => ?_
      set r : Readings := { prices := [.num price] } with hr
      refine Triple.weaken (R := At a r) ?_ fun v ⟨r', hv, _, he⟩ => he ▸ hv
      refine .ite (fun _ => .pure fun v hv => hend rfl v hv) fun _ => ?_
      refine Triple.bind (triple_ownAsking (Q := fun action r' => ∀ delta, action = .trail delta →
        ∃ info breakEven, r' = { r with infos := [info] } ∧
          Checked cfg entry info price delta breakEven) rfl (Calm.autoAction _ _ _ _ _ _ _)
        ((triple_autoAction _ _ _ _ _ _ _).weaken fun _ hv => hv.1)) fun action => ?_
      refine Triple.exists_pre fun r' => ?_
      refine Triple.weaken (R := fun v => At a r' v ∧ (r'.placed = [] ∧ ∀ delta,
        action = .trail delta → ∃ info breakEven, r' = { r with infos := [info] } ∧
          Checked cfg entry info price delta breakEven)) ?_ fun _ hv => hv
      refine Triple.assume_eq fun ⟨hplaced, hchecked⟩ => ?_
      cases action with
      | keep reason => exact .pure fun v hv => hend hplaced v hv
      | trail delta =>
        obtain ⟨info, breakEven, hr', hcheck⟩ := hchecked delta rfl
        refine triple_autoConvert hplaced fun c order hc hprices hinfos => ?_
        rw [hr'] at hprices hinfos
        exact trails_of_converted hfound hentry hcheck hc hprices hinfos
      | breakEven =>
        refine triple_autoConvert hplaced fun c order hc _ _ delta hdelta => ?_
        obtain ⟨hlocked, -⟩ := hc.trailing hdelta
        cases hlocked

theorem unseen_gap (p : Point) : (gap p).All Work.unseen := by
  refine .bind (.perform trivial) fun arrived => .bind (.each fun e _ => ?_) fun _ => .pure
  exact .attempt (All.lift (fun _ => trivial) _)

variable (cfg env) in
theorem triple_maybeAutoManage (flow : Option Flow) :
    Triple env.oversees (fun v => v.2 = {}) (maybeAutoManage cfg flow)
      (fun _ v => v.2.fine cfg) (fun _ v => v.2.fine cfg) fun v => v.2.fine cfg := by
  have hnone : ∀ v : World σ × Watch, v.2 = {} → v.2.fine cfg := by
    intro v hv order horder
    rw [hv] at horder
    exact absurd horder List.not_mem_nil
  have hunseen : ∀ {β : Type} (m : Working β), m.All Work.unseen →
      Triple env.oversees (fun v => v.2 = {}) m (fun _ v => v.2 = {}) (fun _ v => v.2.fine cfg)
        fun v => v.2.fine cfg := fun m hm =>
    (keeps_unseen hm (· = {})).conseq (fun _ hv => hv) (fun _ _ hv => hv) (fun _ => hnone) hnone
  have hown : ∀ {β : Type} {m : Acting β}, m.All Act.unread → (own m).All Work.unseen :=
    fun hm => All.lift_of hm fun _ h => h
  unfold maybeAutoManage
  refine Triple.bind (hunseen _ (unseen_gap _)) fun _ => ?_
  refine Triple.bind (hunseen _ (.perform trivial)) fun d => ?_
  refine Triple.bind (hunseen _ (hown (unread_asking (.perform trivial)))) fun m => ?_
  refine Triple.bind (hunseen _ (hown (unread_asking unread_theStore))) fun s => ?_
  split
  · exact .pure hnone
  · refine Triple.bind (hunseen _ (.perform trivial)) fun active => ?_
    refine Triple.bind (hunseen _ (hown (unread_asking (unread_call trivial)))) fun now => ?_
    split
    · exact .pure hnone
    · exact triple_managePosition active _

/-- The orders that a run of automatic management places before the reconciliation after them. -/
def autoPlaced (env : Env σ) (n : ℕ) (cfg : Config) (flow : Option Flow) (w : World σ) :
    List Placed :=
  (run env.oversees n (maybeAutoManage cfg flow) (w, {})).2.2.placed

variable (cfg env) in
/-- Every trailing order of automatic management was checked against the first reading of its run,
and keeps the break-even price just if the reading it is built from still allows it to. -/
theorem auto_trailing_iff (flow : Option Flow) (w : World σ) (n : ℕ) :
    ∀ order ∈ autoPlaced env n cfg flow w, ∀ delta, order.params.trailingDelta = some delta →
      ∃ row info₀ info checked current breakEven limit,
        Trails cfg order delta row info₀ info checked current breakEven limit ∧
        (breakEven ≤ limit ↔ ceilStep breakEven info.tickSize ≤ cfg.trailed current delta) := by
  have hrun := wp_run (triple_maybeAutoManage cfg env flow (w, {}) rfl) n
  have hfine : (run env.oversees n (maybeAutoManage cfg flow) (w, {})).2.2.fine cfg := by
    revert hrun
    rcases (run env.oversees n (maybeAutoManage cfg flow) (w, {})).1 with a | e | _ <;> exact id
  exact hfine

/-- The price stays: one order is placed, and it trails as it was checked. -/
theorem auto_trailing_iff_steady :
    let orders := autoPlaced Scripted.ticking 10000 Scripted.automatic (some Scripted.bullish)
      (Scripted.quoted [101, 101])
    orders.length = 1 ∧ ∀ order ∈ orders, ∀ delta, order.params.trailingDelta = some delta →
      ∃ row info₀ info checked current breakEven limit,
        Trails Scripted.automatic order delta row info₀ info checked current breakEven limit ∧
        (breakEven ≤ limit ↔
          ceilStep breakEven info.tickSize ≤ Scripted.automatic.trailed current delta) :=
  ⟨by decide +kernel, auto_trailing_iff Scripted.automatic Scripted.ticking (some Scripted.bullish)
    (Scripted.quoted [101, 101]) 10000⟩

/-- The price falls between the two readings: the order is placed below the break-even price. -/
theorem auto_trailing_falls :
    ¬∀ order ∈ autoPlaced Scripted.ticking 10000 Scripted.automatic (some Scripted.bullish)
        (Scripted.quoted [101, 201 / 2]),
      ∀ row ∈ order.store.activeTradeRows, ∀ breakEven limit,
        order.params.trailingDelta.isSome = true → order.params.price = some limit →
        feeAdjustedBreakEven (row.averageEntryPrice.getD 0) (1 / 10) (1 / 10) (5 / 100) =
          .ok breakEven → breakEven ≤ limit := by
  intro h
  have hrun : (autoPlaced Scripted.ticking 10000 Scripted.automatic (some Scripted.bullish)
      (Scripted.quoted [101, 201 / 2])).map (fun order => (order.params.trailingDelta,
        order.params.price, order.store.activeTradeRows.map (·.averageEntryPrice))) =
      [(some 20, some (10009 / 100), [some 100])] := by
    decide +kernel
  obtain ⟨order, horders, horder⟩ := List.map_eq_singleton_iff.mp hrun
  simp only [Prod.mk.injEq] at horder
  obtain ⟨hdelta, hprice, hrows⟩ := horder
  obtain ⟨row, hrow, hentry⟩ := List.map_eq_singleton_iff.mp hrows
  have hbelow := h order (horders ▸ List.mem_singleton_self _) row
    (hrow ▸ List.mem_singleton_self _)
    (100 * (1 + (1 / 10 + 5 / 100) / 100) / (1 - (1 / 10 + 5 / 100) / 100)) (10009 / 100)
    (by rw [hdelta]; rfl) hprice (by rw [hentry]; decide +kernel)
  norm_num at hbelow

end runs
end SpotSidecar.Supervisor
