import SpotSidecar.Safety.Closed
import SpotSidecar.Safety.Protected
import Mathlib.Algebra.Order.BigOperators.Group.List
import Mathlib.Algebra.Order.Archimedean.Basic

/-! What completed trades leave behind at the account, and when the ownership check takes it for
an unowned balance. -/
namespace SpotSidecar
open Interaction Prog

theorem floorStep_pos_iff {value step : ℚ} (hv : 0 ≤ value) (hs : 0 < step) :
    0 < floorStep value step ↔ step ≤ value := by
  rw [floorStep_of_nonneg hv hs, mul_pos_iff_of_pos_right hs, Int.cast_pos, Int.floor_pos,
    one_le_div hs]

/-- A trade that is over: its entry was filled in full and so was its protective SELL. The
commission is what the exchange took of the bought BTC. -/
structure CompletedTrade (cfg : Config) (rules : SymbolRules) where
  qty : ℚ
  pending : ℚ
  commission : ℚ
  qty_nonneg : 0 ≤ qty
  pending_eq : cfg.settings.pendingQty rules (floorStep qty rules.step) = .ok pending
  pending_pos : 0 < pending
  commission_nonneg : 0 ≤ commission
  commission_le : commission ≤ floorStep qty rules.step * (cfg.settings.feePctPerSide / 100)

namespace CompletedTrade
variable {cfg : Config} {rules : SymbolRules} (t : CompletedTrade cfg rules)

/-- The working quantity of the entry. -/
def bought : ℚ := floorStep t.qty rules.step

/-- What is left once the commission is paid and the protective quantity is sold. -/
def rest : ℚ := t.bought - t.commission - t.pending

/-- The quantity after the configured fee. -/
def shaved : ℚ := t.bought * (1 - cfg.settings.feePctPerSide / 100)

/-- The part of a step that the rounding of the protective quantity leaves, and the part of the
configured fee that was not charged. -/
def dust : ℚ :=
  Int.fract (t.shaved / rules.step) * rules.step +
    (t.bought * (cfg.settings.feePctPerSide / 100) - t.commission)

theorem fee : 0 ≤ cfg.settings.feePctPerSide ∧ cfg.settings.feePctPerSide < 100 ∧
    t.pending = floorStep t.shaved rules.step := by
  have hpending := t.pending_eq
  unfold ProtectionSettings.pendingQty at hpending
  split at hpending
  · cases hpending
  · next hfee =>
    rw [not_or, not_lt, not_le] at hfee
    exact ⟨hfee.1, hfee.2, (Except.ok.inj hpending).symm⟩

theorem shaved_nonneg : 0 ≤ t.shaved := by
  obtain ⟨-, hfee, -⟩ := t.fee
  have hbought : 0 ≤ t.bought := floorStep_nonneg t.qty_nonneg rules.step_pos
  exact mul_nonneg hbought (by linarith)

theorem rest_eq : t.rest = t.dust := by
  obtain ⟨-, -, hpending⟩ := t.fee
  have hstep := rules.step_pos.ne'
  rw [rest, dust, hpending, floorStep_of_nonneg t.shaved_nonneg rules.step_pos, Int.fract]
  have hcancel : t.shaved / rules.step * rules.step = t.shaved := div_mul_cancel₀ _ hstep
  rw [sub_mul, hcancel, shaved]
  ring

theorem dust_nonneg : 0 ≤ t.dust := by
  have hfract := mul_nonneg (Int.fract_nonneg (t.shaved / rules.step)) rules.step_pos.le
  have hfee := t.commission_le
  unfold dust bought
  linarith

end CompletedTrade

section holdings
variable {cfg : Config} {rules : SymbolRules}

/-- The BTC at the account after these trades, from none at first. -/
def holdings (trades : List (CompletedTrade cfg rules)) : ℚ := (trades.map (·.rest)).sum

theorem holdings_eq (trades : List (CompletedTrade cfg rules)) :
    holdings trades = (trades.map (·.dust)).sum := by
  rw [holdings, List.map_congr_left fun t _ => t.rest_eq]

theorem holdings_nonneg (trades : List (CompletedTrade cfg rules)) : 0 ≤ holdings trades := by
  rw [holdings_eq]
  exact List.sum_nonneg fun d hd => by
    obtain ⟨t, -, rfl⟩ := List.mem_map.mp hd
    exact t.dust_nonneg

/-- What is left is never taken away again. -/
theorem holdings_take_le (trades : List (CompletedTrade cfg rules)) (k : ℕ) :
    holdings (trades.take k) ≤ holdings trades := by
  have hsplit : holdings trades = holdings (trades.take k) + holdings (trades.drop k) := by
    unfold holdings
    rw [← List.sum_append, ← List.map_append, List.take_append_drop]
  have hrest := holdings_nonneg (trades.drop k)
  linarith

/-- The requests that `OrderRequestFactory.entry` makes: the quantities of such a trade. -/
theorem triple_factoryEntry_qty {σ : Type} {env : Env σ} (mode : ProtectionMode) (qty entry : ℚ) :
    Triple (Ask.exec env) (fun _ => True) (factoryEntry cfg mode rules qty entry)
      (fun r _ => r.2.workingQuantity = some (floorStep qty rules.step) ∧
        ∃ pending, r.2.pendingQuantity = some pending ∧ 0 < pending ∧
          cfg.settings.pendingQty rules (floorStep qty rules.step) = .ok pending)
      (fun _ _ => True) (fun _ => True) := by
  unfold factoryEntry
  dsimp only
  refine Triple.bind (Q := fun pending _ =>
    cfg.settings.pendingQty rules (floorStep qty rules.step) = .ok pending)
    (.ofExcept (fun _ h _ _ => h) fun _ _ _ _ => trivial) fun pending => ?_
  refine Triple.bind (Q := fun _ _ => 0 < pending ∧
    cfg.settings.pendingQty rules (floorStep qty rules.step) = .ok pending)
    (.ensure (fun hpos _ h => ⟨hpos, h⟩) fun _ _ _ => trivial) fun _ => ?_
  have hask : ∀ {β : Type} (p : Prop) (m : Asking β), Triple (Ask.exec env) (fun _ => p) m
      (fun _ _ => p) (fun _ _ => True) (fun _ => True) :=
    fun p m => (keeps_of_exec (fun _ _ h => h) m).conseq (fun _ h => h) (fun _ _ h => h)
      (fun _ _ _ => trivial) fun _ _ => trivial
  refine Triple.bind (hask _ _) fun list => Triple.bind (hask _ _) fun working => ?_
  refine Triple.bind (hask _ _) fun first => Triple.bind (hask _ _) fun second => .pure ?_
  rintro w ⟨hpos, hpending⟩
  refine ⟨?_, pending, ?_, hpos, hpending⟩
  all_goals
    unfold entryRequest
    cases mode <;> rfl

end holdings

section account
variable {σ α : Type} {env : Env σ} {cfg : Config} {pair : Pair} {info : SymbolInfo} {total : ℚ}
  {R : σ → Prop}

/-- The pair and the symbol pass the checks of `_rules`. -/
structure Tradable (cfg : Config) (pair : Pair) (info : SymbolInfo) : Prop where
  base : pair.base = "BTC"
  allowed : cfg.allowedQuotes = [] ∨ pair.quote ∈ cfg.allowedQuotes
  symbol : info.symbol = pair.symbol
  trading : info.trading = true
  baseAsset : info.baseAsset = "BTC"
  quoteAsset : info.quoteAsset = pair.quote
  spot : info.spotAllowed = true
  tick : 0 < info.tickSize
  step : 0 < info.stepSize

/-- Collaborators in `R` answer: nothing is open at the exchange, and the account holds this
much BTC. -/
structure Flat (env : Env σ) (pair : Pair) (info : SymbolInfo) (total : ℚ) (R : σ → Prop) :
    Prop where
  stays : ∀ {γ : Type} (c : Call γ) s, R s → R (env.call γ c s).2
  time : ∀ s, R s → ∃ now, (env.call _ .time s).1 = .ok now
  activePair : ∀ s, R s → (env.call _ .activePair s).1 = .ok pair
  symbolInfo : ∀ s, R s → (env.call _ (.symbolInfo pair.symbol) s).1 = .ok info
  openOrders : ∀ s, R s → (env.call _ (.openOrders none) s).1 = .ok (some [])
  openOrderLists : ∀ s, R s → (env.call _ .openOrderLists s).1 = .ok (some [])
  account : ∀ s, R s → ∃ balances, (env.call _ .account s).1 = .ok (some balances) ∧
    totalOf balances "BTC" = total

/-- No trade is nonterminal and no intent unresolved. -/
structure Idle (R : σ → Prop) (w : World σ) : Prop where
  rows : w.store.activeTradeRows = []
  intents : w.store.unresolvedIntents = []
  env : R w.env

theorem Flat.ask (h : Flat env pair info total R) {γ : Type} (a : Ask γ) (w : World σ)
    (hw : Idle R w) : Idle R (a.exec env γ w).2 := by
  obtain ⟨htrades, hintents, -⟩ := Ask.exec_cases env a w
  refine ⟨?_, ?_, ?_⟩
  · rw [activeTradeRows_congr htrades]
    exact hw.rows
  · rw [Store.unresolvedIntents, hintents]
    exact hw.intents
  · cases a with
    | call c =>
      have hstays := h.stays c _ hw.env
      simp only [Ask.exec]
      split <;> exact hstays
    | _ => exact hw.env

/-- A question that is answered. -/
theorem Flat.answer (h : Flat env pair info total R) {γ : Type} (c : Call γ) {P : γ → Prop}
    {E : Exc → World σ → Prop} (hc : ∀ s, R s → ∃ a, (env.call γ c s).1 = .ok a ∧ P a) :
    Triple (Ask.exec env) (Idle R) (call c) (fun a w => Idle R w ∧ P a) E (fun _ => True) := by
  refine Triple.perform (fun _ _ => trivial) (fun w a w' hw heq => ?_) fun w e w' hw heq => ?_
  · have hidle := h.ask (.call c) w hw
    rw [heq] at hidle
    obtain ⟨a', ha', hP⟩ := hc w.env hw.env
    have hfst : (env.call γ c w.env).1 = .ok a := congrArg Prod.fst heq
    rw [ha'] at hfst
    cases hfst
    exact ⟨hidle, hP⟩
  · obtain ⟨a', ha', -⟩ := hc w.env hw.env
    have hfst : (env.call γ c w.env).1 = .error e := congrArg Prod.fst heq
    rw [ha'] at hfst
    cases hfst

theorem idle_store :
    Triple (Ask.exec env) (Idle R) theStore (fun s w => Idle R w ∧ s.activeTradeRows = [] ∧
      s.unresolvedIntents = []) (fun _ _ => False) (fun _ => True) :=
  fun _ hw => ⟨trivial, hw, hw.rows, hw.intents⟩

theorem Flat.rules (h : Flat env pair info total R) (htradable : Tradable cfg pair info) :
    Triple (Ask.exec env) (Idle R) (rulesOf cfg pair)
      (fun rules w => Idle R w ∧ rules.step = info.stepSize) (fun _ _ => False)
      (fun _ => True) := by
  have hensure : ∀ {p : Prop} [Decidable p] (e : Exc), p → Triple (Ask.exec env) (Idle R)
      (Prog.ensure p e) (fun _ => Idle R) (fun _ _ => False) (fun _ => True) :=
    fun _ hp => .ensure (fun _ _ hw => hw) fun hn => absurd hp hn
  unfold rulesOf canonicalPair validateExchangeSymbol
  refine Triple.bind (Q := fun _ => Idle R) ?_ fun _ => ?_
  · exact Triple.bind (hensure _ htradable.base) fun _ => hensure _ htradable.allowed
  · refine Triple.bind (h.answer (.symbolInfo pair.symbol) (P := (· = info)) fun s hs =>
      ⟨info, h.symbolInfo s hs, rfl⟩) fun found => Triple.assume_eq fun hfound => ?_
    subst hfound
    refine Triple.bind (Q := fun _ => Idle R) ?_ fun _ => ?_
    · refine Triple.bind (hensure _ htradable.symbol) fun _ => ?_
      refine Triple.bind (hensure _ htradable.trading) fun _ => ?_
      refine Triple.bind (hensure _ htradable.baseAsset) fun _ => ?_
      exact Triple.bind (hensure _ htradable.quoteAsset) fun _ => hensure _ htradable.spot
    · rw [dif_pos ⟨htradable.tick, htradable.step⟩]
      exact .pure fun w hw => ⟨hw, rfl⟩

/-- The verdict of the ownership check on an account without a trade. -/
def flatVerdict (total step : ℚ) : Except String Unit :=
  if 0 < floorStep total step then .error "unowned BTC balance exists" else .ok ()

theorem Flat.reconciledOwnership (h : Flat env pair info total R)
    (htradable : Tradable cfg pair info)
    (htotal : 0 ≤ total) {balances : Balances} (hbalances : totalOf balances "BTC" = total) :
    Triple (Ask.exec env) (Idle R) (reconciledOwnership cfg [] [] balances)
      (fun verdict w => Idle R w ∧ verdict = flatVerdict total info.stepSize) (fun _ _ => False)
      (fun _ => True) := by
  unfold SpotSidecar.reconciledOwnership
  refine Triple.bind idle_store fun s => ?_
  refine Triple.weaken (R := fun w => Idle R w ∧ s.activeTradeRows = []) ?_
    fun w hw => ⟨hw.1, hw.2.1⟩
  refine Triple.assume_eq fun hrows => ?_
  rw [hrows]
  refine Triple.bind (h.answer .activePair (P := (· = pair)) fun s hs =>
    ⟨pair, h.activePair s hs, rfl⟩) fun active => Triple.assume_eq fun hactive => ?_
  subst hactive
  have howned : enumerationOwned [] [] [] = .ok () := rfl
  simp only [List.any_nil, howned, Bool.false_eq_true, if_false]
  have hjudged : Triple (Ask.exec env) (Idle R) (judgeBalance cfg active [] [] [] balances)
      (fun verdict w => Idle R w ∧ verdict = flatVerdict total info.stepSize) (fun _ _ => False)
      (fun _ => True) := by
    unfold judgeBalance
    refine Triple.bind (Q := fun _ => Idle R) (.ensure (fun _ _ hw => hw) fun hn => ?_) fun _ => ?_
    · exact absurd (hbalances ▸ htotal) hn
    · refine Triple.bind (h.rules htradable) fun rules => Triple.assume_eq fun hstep => .pure ?_
      intro w hw
      rw [hbalances, hstep]
      exact ⟨hw, rfl⟩
  exact hjudged.handle fun _ _ hw => hw.elim

theorem Flat.enumerate (h : Flat env pair info total R) (c : Call (Option (List (Option Ident))))
    (hc : ∀ s, R s → (env.call _ c s).1 = .ok (some [])) :
    Triple (Ask.exec env) (Idle R) (enumerate c) (fun items w => Idle R w ∧ items = some [])
      (fun _ _ => False) (fun _ => True) := by
  unfold SpotSidecar.enumerate
  refine Triple.bind (Q := fun answer w => Idle R w ∧ answer = .ok (some []))
    (Triple.attempt ?_) fun answer => Triple.assume_eq fun hanswer => ?_
  · refine (h.answer c (P := (· = some [])) fun s hs => ⟨_, hc s hs, rfl⟩).post ?_
    rintro items w ⟨hw, rfl⟩
    exact ⟨hw, rfl⟩
  · subst hanswer
    exact .pure fun w hw => ⟨hw, rfl⟩

theorem Flat.enumerateBalances (h : Flat env pair info total R) :
    Triple (Ask.exec env) (Idle R) enumerateBalances
      (fun balances w => Idle R w ∧ ∃ b, balances = some b ∧ totalOf b "BTC" = total)
      (fun _ _ => False) (fun _ => True) := by
  unfold SpotSidecar.enumerateBalances accountBalances
  refine Triple.bind (Q := fun answer w => Idle R w ∧ ∃ b, answer = .ok b ∧
    totalOf b "BTC" = total) (Triple.attempt ?_) fun answer => Triple.assume_eq ?_
  · refine Triple.bind (h.answer .account (P := fun a => ∃ b, a = some b ∧
      totalOf b "BTC" = total) fun s hs => ?_) fun account => Triple.assume_eq ?_
    · obtain ⟨b, hb, htotal⟩ := h.account s hs
      exact ⟨some b, hb, b, rfl, htotal⟩
    · rintro ⟨b, rfl, htotal⟩
      exact .pure fun w hw => ⟨hw, b, rfl, htotal⟩
  · rintro ⟨b, rfl, htotal⟩
    exact .pure fun w hw => ⟨hw, b, rfl, htotal⟩

theorem idle_setMemory (f : Memory → Memory) :
    Triple (Ask.exec env) (Idle R) (setMemory f) (fun _ => Idle R) (fun _ _ => False)
      (fun _ => True) :=
  fun _ hw => ⟨trivial, trivial, hw.rows, hw.intents, hw.env⟩

theorem idle_setData (f : SidecarData → SidecarData) :
    Triple (Ask.exec env) (Idle R) (setData f) (fun _ => Idle R) (fun _ _ => False)
      (fun _ => True) :=
  fun _ hw => ⟨trivial, trivial, hw.rows, hw.intents, hw.env⟩

theorem Flat.pause (h : Flat env pair info total R) (reason : String) :
    Triple (Ask.exec env) (Idle R) (pause reason) (fun _ => Idle R) (fun _ _ => False)
      (fun _ => True) := by
  unfold SpotSidecar.pause
  refine Triple.bind (idle_setMemory _) fun _ => ?_
  refine Triple.bind (idle_setData fun d => (Store.setEntries { data := d } false reason).data)
    fun _ => ?_
  refine Triple.bind (Q := fun _ => Idle R) (Triple.attempt ?_) fun _ => .pure fun _ hw => hw
  have hkeep : Keeps (Ask.exec env) (Idle R) (call (.setGlobalPause reason)) :=
    keeps_of_exec (fun a w hw => h.ask a w hw) _
  exact hkeep.conseq (fun _ hw => hw) (fun _ _ hw => hw) (fun _ _ hw => hw) fun _ _ => trivial

theorem Flat.judgeAccount (h : Flat env pair info total R) (htradable : Tradable cfg pair info)
    (htotal : 0 ≤ total) (resolved emergency stale partials : Bool) :
    Triple (Ask.exec env) (Idle R) (judgeAccount cfg resolved emergency stale partials)
      (fun r w => Idle R w ∧ r.ownership = flatVerdict total info.stepSize) (fun _ _ => False)
      (fun _ => True) := by
  unfold SpotSidecar.judgeAccount
  refine Triple.bind (h.enumerate _ h.openOrders) fun orders => Triple.assume_eq ?_
  rintro rfl
  refine Triple.bind (h.enumerate _ h.openOrderLists) fun lists => Triple.assume_eq ?_
  rintro rfl
  refine Triple.bind h.enumerateBalances fun balances => Triple.assume_eq ?_
  rintro ⟨b, rfl, hb⟩
  refine Triple.bind idle_store fun s => ?_
  refine Triple.bind ((h.reconciledOwnership htradable htotal hb).weaken fun w hw => hw.1) ?_
  intro ownership
  refine Triple.assume_eq ?_
  rintro rfl
  dsimp only
  refine Triple.bind (Q := fun _ => Idle R) ?_ fun _ => .pure fun w hw => ⟨hw, rfl⟩
  unfold recordVerdict
  refine Triple.bind ((h.answer .time (P := fun _ => True) fun s hs => ?_).post
    fun _ w hw => hw.1) fun now => ?_
  · obtain ⟨now, hnow⟩ := h.time s hs
    exact ⟨now, hnow, trivial⟩
  · refine Triple.bind (idle_setData _) fun _ => ?_
    split
    · exact h.pause _
    · exact .pure fun _ hw => hw

/-- There is no trade whose fill would need protection. -/
theorem idle_recoverPartial (symbol : Symbol) :
    Triple (Act.exec env) (Idle R) (recoverPartial cfg symbol) (fun _ => Idle R)
      (fun _ _ => False) (fun _ => True) := by
  unfold SpotSidecar.recoverPartial
  refine Triple.bind (Q := fun _ => Idle R) (Triple.attempt ?_) fun result => ?_
  · unfold placePartialProtection
    have hstore : Triple (Act.exec env) (Idle R) (liftM theStore : Acting Store)
        (fun s w => Idle R w ∧ s.activeTradeRows = [] ∧ s.unresolvedIntents = [])
        (fun _ => Idle R) (fun _ => True) :=
      (Triple.asked idle_store).conseq (fun _ hw => hw) (fun _ _ hw => hw)
        (fun _ _ hw => hw.elim) fun _ hw => hw
    refine Triple.bind hstore fun s => Triple.assume_eq fun hs => ?_
    refine Triple.bind (Q := fun found w => Idle R w ∧ found = none)
      (.ofExcept (fun found hfound w hw => ⟨hw, ?_⟩) fun _ _ _ hw => hw) fun found => ?_
    · cases found with
      | none => rfl
      | some row =>
        have hmem := mem_activeTradeRows.mpr (mem_of_activeTradeForSymbol hfound)
        rw [hs.1] at hmem
        cases hmem
    · refine Triple.assume_eq ?_
      rintro rfl
      exact .pure fun _ hw => hw
  · split
    · exact Triple.bind (Triple.asked (idle_setMemory _)) fun _ => .pure fun _ hw => hw
    · exact .pure fun _ hw => hw

/-- The reconciliation of an account where nothing is open. -/
theorem Flat.verifiedReconcile (h : Flat env pair info total R) (htradable : Tradable cfg pair info)
    (htotal : 0 ≤ total) :
    Triple (Act.exec env) (Idle R) (verifiedReconcile cfg)
      (fun r _ => r.ownership = flatVerdict total info.stepSize) (fun _ _ => False)
      (fun _ => True) := by
  have hstore : Triple (Act.exec env) (Idle R) (liftM theStore : Acting Store)
      (fun s w => Idle R w ∧ s.activeTradeRows = [] ∧ s.unresolvedIntents = []) (fun _ _ => False)
      (fun _ => True) := Triple.asked idle_store
  have hnone : ∀ {β γ : Type} (f : β → Acting γ), Triple (Act.exec env) (Idle R) (Prog.each f [])
      (fun _ => Idle R) (fun _ _ => False) (fun _ => True) := fun _ => .pure fun _ hw => hw
  unfold SpotSidecar.verifiedReconcile
  refine Triple.bind (Q := fun _ => Idle R) ?_ fun resolution => ?_
  · unfold resolveOperationIntents
    refine Triple.bind hstore fun s => Triple.assume_eq fun hs => ?_
    rw [hs.2]
    refine Triple.bind (hnone _) fun answers => ?_
    refine Triple.bind hstore fun s' => Triple.assume_eq fun hs' => ?_
    rw [hs'.2]
    refine Triple.bind (hnone _) fun answers' => Triple.bind hstore fun s'' => ?_
    exact .pure fun w hw => hw.1
  · refine Triple.bind (Q := fun _ => Idle R) ?_ fun _ => ?_
    · unfold refreshDurableExchangeState
      refine Triple.folded (Triple.bind (Q := fun s w => Idle R w ∧ s.activeTradeRows = []) ?_ ?_)
      · exact Triple.lift (fun _ _ => rfl) (idle_store.post fun s w hw => ⟨hw.1, hw.2.1⟩)
      · intro s
        refine Triple.assume_eq fun hs => ?_
        rw [hs]
        exact Triple.bind (.pure fun _ hw => hw) fun _ => .pure fun _ hw => hw
    · refine Triple.bind (Q := fun _ => Idle R) ?_ fun emergency => ?_
      · unfold reconcileConfirmedEmergencyExits
        refine Triple.bind hstore fun s => Triple.assume_eq fun hs => ?_
        rw [hs.1]
        exact Triple.bind (hnone _) fun _ => .pure fun _ hw => hw
      · refine Triple.bind hstore fun s => Triple.assume_eq fun hs => ?_
        rw [hs.1]
        refine Triple.bind (hnone _) fun stale => ?_
        refine Triple.bind (Q := fun _ => Idle R) (fun w hw => ⟨trivial, hw⟩) fun m => ?_
        refine Triple.bind (Triple.each _ fun symbol _ => idle_recoverPartial symbol)
          fun partials => ?_
        exact Triple.asked ((h.judgeAccount htradable htotal _ _ _ _).post fun _ _ hw => hw.2)

/-- Nothing is open in the store or at the exchange, and the account holds this much BTC. -/
def AtRest (env : Env σ) (pair : Pair) (info : SymbolInfo) (total : ℚ) (w : World σ) : Prop :=
  ∃ R, Flat env pair info total R ∧ Idle R w

/-- The reconciliation of such a world ends, and its ownership check reports the balance when it
reaches a step. -/
theorem AtRest.ownership_iff {w : World σ} (hw : AtRest env pair info total w)
    (htradable : Tradable cfg pair info) (htotal : 0 ≤ total) :
    (∀ n r w', (verifiedReconcile cfg).run (Act.exec env) n w = (.done r, w') →
      r.ownership ≠ .error "unowned BTC balance exists") ↔ total < info.stepSize := by
  obtain ⟨R, hflat, hidle⟩ := hw
  have hreconciled := hflat.verifiedReconcile htradable htotal
  have hpositive : 0 < floorStep total info.stepSize ↔ ¬total < info.stepSize := by
    rw [floorStep_pos_iff htotal htradable.step, not_lt]
  constructor
  · intro hnever
    by_contra hreached
    obtain ⟨n, r, w', hrun, hr⟩ := hreconciled.completes hidle
    refine hnever n r w' hrun ?_
    rw [hr, flatVerdict, if_pos (hpositive.mpr hreached)]
  · intro hbelow n r w' hrun
    have hr := wp_run (hreconciled w hidle) n
    rw [hrun] at hr
    have hverdict : r.ownership = .ok () := by
      rw [hr, flatVerdict, if_neg fun hp => hpositive.mp hp hbelow]
    rw [hverdict]
    exact fun h => nomatch h

end account

/-- No reconciliation after one of these trades takes what they left for an unowned balance,
exactly when all that they leave is less than a step. -/
theorem unowned_dust_iff {σ : Type} {env : Env σ} {cfg : Config} {pair : Pair} {info : SymbolInfo}
    (htradable : Tradable cfg pair info) {rules : SymbolRules}
    (trades : List (CompletedTrade cfg rules)) (after : ℕ → World σ)
    (hafter : ∀ k < trades.length,
      AtRest env pair info (holdings (trades.take (k + 1))) (after k)) :
    (∀ k < trades.length, ∀ n r w',
      (verifiedReconcile cfg).run (Act.exec env) n (after k) = (.done r, w') →
        r.ownership ≠ .error "unowned BTC balance exists") ↔
      (trades.map (·.dust)).sum < info.stepSize := by
  have hone : ∀ k < trades.length, (∀ n r w',
      (verifiedReconcile cfg).run (Act.exec env) n (after k) = (.done r, w') →
        r.ownership ≠ .error "unowned BTC balance exists") ↔
      holdings (trades.take (k + 1)) < info.stepSize :=
    fun k hk => (hafter k hk).ownership_iff htradable (holdings_nonneg _)
  rw [← holdings_eq]
  constructor
  · intro hnever
    cases trades with
    | nil => exact htradable.step
    | cons t trades =>
      have hlast : trades.length < (t :: trades).length := Nat.lt_succ_self _
      have hall := (hone _ hlast).mp (hnever _ hlast)
      rwa [List.take_succ_cons, List.take_length] at hall
  · intro hbelow k hk
    exact (hone k hk).mpr ((holdings_take_le trades (k + 1)).trans_lt hbelow)

namespace CompletedTrade

/-- Without a fee nothing is left. -/
theorem dust_of_no_fee {cfg : Config} {rules : SymbolRules} (t : CompletedTrade cfg rules)
    (hfee : cfg.settings.feePctPerSide = 0) : t.dust = 0 := by
  have hcommission : t.commission = 0 := by
    have hle := t.commission_le
    rw [hfee] at hle
    have := t.commission_nonneg
    linarith
  have hsteps : t.shaved / rules.step = ⌊t.qty / rules.step⌋ := by
    rw [shaved, bought, hfee, floorStep_of_nonneg t.qty_nonneg rules.step_pos]
    field_simp [rules.step_pos.ne']
    ring
  rw [dust, hsteps, Int.fract_intCast, hcommission, hfee]
  ring

/-- With a fee, one trade whose commission is paid in another asset leaves a whole step. -/
theorem exists_dust {cfg : Config} {rules : SymbolRules} (hpos : 0 < cfg.settings.feePctPerSide)
    (hlt : cfg.settings.feePctPerSide < 100) :
    ∃ t : CompletedTrade cfg rules, rules.step ≤ t.dust := by
  set kept := 1 - cfg.settings.feePctPerSide / 100 with hkept
  have hkept_pos : 0 < kept := by linarith
  have hkept_lt : kept < 1 := by linarith
  have hstep := rules.step_pos
  obtain ⟨m, hm⟩ := exists_nat_ge (1 / kept)
  have hm_kept : 1 ≤ m * kept := (div_le_iff₀ hkept_pos).mp hm
  have hm_pos : (0 : ℚ) < m := pos_of_mul_pos_left (zero_lt_one.trans_le hm_kept) hkept_pos.le
  have hbought : floorStep (m * rules.step) rules.step = m * rules.step := by
    rw [floorStep_of_nonneg (mul_nonneg hm_pos.le hstep.le) hstep,
      mul_div_cancel_right₀ _ hstep.ne', Int.floor_natCast, Int.cast_natCast]
  have hshaved : m * rules.step * kept / rules.step = m * kept := by
    rw [mul_right_comm, mul_div_cancel_right₀ _ hstep.ne']
  have hpending : floorStep (m * rules.step * kept) rules.step = ⌊m * kept⌋ * rules.step := by
    rw [floorStep_of_nonneg (by positivity) hstep, hshaved]
  have hfloor : 1 ≤ ⌊m * kept⌋ := Int.floor_pos.mpr hm_kept
  have hbelow : ⌊m * kept⌋ + 1 ≤ (m : ℤ) := by
    have hlt' : m * kept < m := mul_lt_of_lt_one_right hm_pos hkept_lt
    have hcast : ((⌊m * kept⌋ : ℤ) : ℚ) < (m : ℤ) :=
      (Int.floor_le _).trans_lt (by exact_mod_cast hlt')
    exact_mod_cast hcast
  refine ⟨⟨m * rules.step, ⌊m * kept⌋ * rules.step, 0, mul_nonneg hm_pos.le hstep.le,
    ?_, ?_, le_rfl, ?_⟩, ?_⟩
  · rw [hbought, ProtectionSettings.pendingQty,
      if_neg fun h => h.elim hpos.le.not_gt hlt.not_ge, ← hkept, hpending]
  · exact mul_pos (by exact_mod_cast hfloor) hstep
  · rw [hbought]
    positivity
  · rw [← rest_eq]
    simp only [rest, CompletedTrade.bought, hbought, sub_zero]
    have hcast : (⌊m * kept⌋ : ℚ) + 1 ≤ m := by exact_mod_cast hbelow
    have := mul_le_mul_of_nonneg_right hcast hstep.le
    linarith

end CompletedTrade

namespace Desk

/-- Nothing is open at the desk, and the account holds this much BTC. -/
def Resting (total : ℚ) (d : Desk) : Prop :=
  d.openOrders = [] ∧ d.openLists = [] ∧ d.free + d.locked = total

theorem flat (total : ℚ) : Flat env ⟨"BTC", "USDT"⟩ info total (Resting total) where
  stays c d hd := by
    cases c with
    | getOrder symbol key => cases key <;> exact hd
    | getOrderList key => cases key <;> exact hd
    | _ => exact hd
  time _ _ := ⟨0, rfl⟩
  activePair _ _ := rfl
  symbolInfo _ _ := rfl
  openOrders d hd := congrArg (fun l => Except.ok (some l)) hd.1
  openOrderLists d hd := congrArg (fun l => Except.ok (some l)) hd.2.1
  account d hd := by
    refine ⟨_, rfl, ?_⟩
    rw [← hd.2.2]
    rfl

theorem tradable : Tradable config ⟨"BTC", "USDT"⟩ info where
  base := rfl
  allowed := by decide
  symbol := rfl
  trading := rfl
  baseAsset := rfl
  quoteAsset := rfl
  spot := rfl
  tick := by norm_num [info]
  step := by norm_num [info]

/-- The rules that `_rules` makes of the symbol of the desk. -/
def rules : SymbolRules where
  symbol := "BTCUSDT"
  base := "BTC"
  quote := "USDT"
  tick := 1 / 100
  step := 1 / 1000
  minQty := 1 / 1000
  maxQty := 0
  minNotional := 0
  maxNotional := 0
  trailMin := 10
  trailMax := 2000
  ocoAllowed := true
  otoAllowed := true
  trailingAllowed := true
  tick_pos := by norm_num
  step_pos := by norm_num

/-- The trade of the desk that was stopped out, with its commission paid in another asset. -/
def stoppedOutTrade : CompletedTrade config rules where
  qty := 1
  pending := 999 / 1000
  commission := 0
  qty_nonneg := by norm_num
  pending_eq := by decide +kernel
  pending_pos := by norm_num
  commission_nonneg := le_rfl
  commission_le := by decide +kernel

theorem stoppedOut_atRest :
    AtRest env ⟨"BTC", "USDT"⟩ info (holdings [stoppedOutTrade]) stoppedOut :=
  ⟨_, flat _, by decide +kernel, by decide +kernel, by decide +kernel, by decide +kernel,
    by decide +kernel⟩

end Desk

theorem unowned_dust_iff_stoppedOut :
    (∀ k < 1, ∀ n r w',
      (verifiedReconcile Desk.config).run (Act.exec Desk.env) n Desk.stoppedOut = (.done r, w') →
        r.ownership ≠ .error "unowned BTC balance exists") ↔
      ([Desk.stoppedOutTrade].map (·.dust)).sum < Desk.info.stepSize :=
  unowned_dust_iff Desk.tradable [Desk.stoppedOutTrade] (fun _ => Desk.stoppedOut) fun k hk => by
    obtain rfl : k = 0 := Nat.lt_one_iff.mp hk
    exact Desk.stoppedOut_atRest

/-- The verdict on the ownership when a reconciliation ends. -/
def ownershipOf : Outcome Exc Reconciliation → Option (Except String Unit)
  | .done r => some r.ownership
  | _ => none

theorem exists_of_ownershipOf {o : Outcome Exc Reconciliation} {verdict : Except String Unit}
    (h : ownershipOf o = some verdict) : ∃ r, o = .done r ∧ r.ownership = verdict := by
  cases o with
  | done r => exact ⟨r, rfl, Option.some.inj h⟩
  | raised e => cases h
  | crashed => cases h

/-- One BTC is bought and its commission paid in another asset; after the stop has sold what the
configured fee would have left, the reconciliation finds the rest unowned. -/
theorem unowned_dust_stoppedOut :
    AtRest Desk.env ⟨"BTC", "USDT"⟩ Desk.info (holdings [Desk.stoppedOutTrade]) Desk.stoppedOut ∧
      ∃ n r w',
        (verifiedReconcile Desk.config).run (Act.exec Desk.env) n Desk.stoppedOut = (.done r, w') ∧
          r.ownership = .error "unowned BTC balance exists" := by
  have hverdict : ownershipOf ((verifiedReconcile Desk.config).run (Act.exec Desk.env) 10000
      Desk.stoppedOut).1 = some (.error "unowned BTC balance exists") := by
    decide +kernel
  obtain ⟨r, hdone, hr⟩ := exists_of_ownershipOf hverdict
  exact ⟨Desk.stoppedOut_atRest, 10000, r, _, Prod.ext hdone rfl, hr⟩

end SpotSidecar
