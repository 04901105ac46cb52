import SpotSidecar.Safety.Informed

/-! No SELL is for more than what was free, or for more than what the bot owned. -/
namespace SpotSidecar
open Interaction Prog
variable {σ α β γ : Type} {cfg : Config} {env : Env σ} {step : ℚ}

/-- The row of a trade that an operation has read stands in the table. -/
def Stands (row : TradeRow) (w : World σ) : Prop := w.store.trade row.tradeId = some row

/-- What an operation knows of the trade when it fixes the quantity of a SELL. -/
structure Fixing (row : TradeRow) (balances : Balances) (w : World σ) : Prop where
  stands : Stands row w
  informed : Informed balances w

theorem Stands.still {row : TradeRow} {w : World σ} (h : Stands row w) {a : Act γ} (ha : a.still) :
    Stands row (a.exec env γ w).2 := by
  have htrades := (Act.still_exec env ha w).1
  unfold Stands Store.trade at *
  rw [htrades]
  exact h

theorem Stands.ask {row : TradeRow} {w : World σ} (h : Stands row w) (a : Ask γ) :
    Stands row (a.exec env γ w).2 := h.still (a := .fold (.ask a)) trivial

theorem Replacement.quantity {s : ProtectionSettings} {rules : SymbolRules}
    {qty entry current : ℚ} {stopPrice : Option ℚ} {bips : Option ℤ} {mode : ProtectionMode}
    {endpoint : Endpoint} {params : Params}
    (h : Replacement s rules qty entry current stopPrice bips mode endpoint params) :
    params.quantity = some qty := by
  cases h <;> rfl

theorem Replacement.side {s : ProtectionSettings} {rules : SymbolRules}
    {qty entry current : ℚ} {stopPrice : Option ℚ} {bips : Option ℤ} {mode : ProtectionMode}
    {endpoint : Endpoint} {params : Params}
    (h : Replacement s rules qty entry current stopPrice bips mode endpoint params) :
    params.side = some .sell := by
  cases h <;> rfl

/-- What a conversion has settled is a SELL for what its row records. -/
structure Conversion.Owned (step : ℚ) (c : Conversion) : Prop where
  rules : c.rules.step = step
  pos : 0 < c.qty
  multiple : Multiple step c.qty
  recorded : c.qty ≤ c.row.recorded
  side : c.params.side = some .sell
  quantity : c.params.quantity = some c.qty

theorem triple_planConversion_owned (hsteps : env.Steps step) (symbol : Symbol)
    (args : ConvertArgs) (s : Store) :
    Triple (Ask.exec env) (fun w => w.store = s) (planConversion cfg symbol args)
      (fun planned w => ∀ c, planned = .ok c → c.Owned step ∧ Noted w ∧ Stands c.row w)
      (fun _ _ => True) fun _ => True := by
  have htrades : Keeps env.hears (fun v => v.1.store.trades = s.trades)
      (planConversion cfg symbol args) := Triple.watched (keeps_trades _ s.trades)
  have howned : Triple env.hears (fun v => v.1.store = s ∧ v.2 = {})
      (planConversion cfg symbol args)
      (fun planned v => ∀ c, planned = .ok c → c.Owned step ∧ Noted v.1 ∧ Stands c.row v.1)
      (fun _ _ => True) fun _ => True := by
    refine (((triple_planConversion_reading symbol args s {}).and (keeps_infos hsteps _)).and
      htrades).conseq ?_ ?_ (fun _ _ _ => trivial) fun _ _ => trivial
    · rintro v ⟨hs, hr⟩
      refine ⟨⟨⟨hs, hr⟩, ?_⟩, hs ▸ rfl⟩
      rw [hr]
      exact fun info hinfo => nomatch hinfo
    · rintro planned v ⟨⟨hplanned, hinfos⟩, hrows⟩ c hc
      obtain ⟨hplan, hpos, ⟨info, hinfo, hfrom⟩, current, -, hbuilt⟩ := hplanned c hc
      obtain ⟨hstep, hnoted⟩ := hinfos info (List.mem_of_mem_head? hinfo)
      have hrules : c.rules.step = step := hfrom.step.trans hstep
      refine ⟨?_, hnoted, ?_⟩
      · have hqty := hplan.qty
        refine ⟨hrules, hpos, ?_, ?_, hbuilt.side, hbuilt.quantity⟩
        · rw [hqty, hrules]
          exact multiple_floorStep _ _
        · have hle : c.qty ≤ (c.row.protectedQuantity.or c.row.filledQuantity).getD 0 := by
            rw [hqty] at hpos ⊢
            exact floorStep_le_of_pos c.rules.step_pos hpos
          refine hle.trans ?_
          unfold TradeRow.recorded
          cases c.row.protectedQuantity with
          | none => exact le_max_left _ _
          | some qty => exact le_max_right _ _
      · unfold Stands Store.trade
        rw [hrows]
        exact Store.trade_of_mem (mem_of_activeTradeForSymbol hplan.row).1
  exact (Triple.unwatched howned {}).weaken fun w hw => ⟨hw, rfl⟩

namespace Backed

theorem settles {m : Acting α} (h : Settles m) : Keeps (Act.exec env) (Backed step) m :=
  (Sellless.settles h).keeps

theorem asking (m : Asking α) : Keeps (Act.exec env) (Backed step) (liftM m : Acting α) :=
  (Sellless.asking m).keeps

theorem upsert (id : TradeId) (pair : Pair) (f : TradeFields) :
    Keeps (Act.exec env) (Backed step) (upsert id pair f) :=
  .perform fun _ hw => hw.act (.upsertTrade id pair f) trivial

theorem mark (id : IntentId) : Keeps (Act.exec env) (Backed step) (markSubmitting id) :=
  .perform fun _ hw => hw.act (.markIntentSubmitting id) trivial

theorem post (p : Post) : Keeps (Act.exec env) (Backed step) (post p) :=
  .perform fun _ hw => hw.act (.post p) trivial

theorem insertReady (d : IntentDraft) :
    Triple (Act.exec env) (fun w => Backed step w ∧ Ready step d w) (SpotSidecar.prepare d)
      (fun _ => Backed step) (fun _ => Backed step) (Backed step) :=
  .perform_same (fun _ hw => hw.1) fun _ hw => hw.1.prepare hw.2

/-- A cancel sells nothing. -/
theorem insertCancel {d : IntentDraft} (hd : d.request.side = none) :
    Keeps (Act.exec env) (Backed step) (SpotSidecar.prepare d) :=
  .perform fun w hw => hw.prepare fun hside => by rw [hd] at hside; cases hside

theorem submitOnce (operation : Operation) (tradeId : TradeId) (symbol : Symbol)
    (endpoint : Endpoint) (params : Params) (parent : Option IntentId) :
    Triple (Act.exec env)
      (fun w => Backed step w ∧
        Ready step (submissionDraft cfg operation tradeId symbol endpoint params parent) w)
      (submitOnce cfg operation tradeId symbol endpoint params parent)
      (fun _ => Backed step) (fun _ => Backed step) (Backed step) := by
  unfold SpotSidecar.submitOnce
  refine Triple.bind (insertReady _) fun isNew => ?_
  split
  · refine Keeps.bind (mark _) fun _ => Keeps.bind (.attempt (post _)) fun answer => ?_
    split
    · exact .bind (asking _) fun response => settles (.concludeSubmission _ _ _ _ _)
    · exact settles (.recoverSubmission _ _ _ _ _)
  · refine Keeps.bind (asking _) fun s => ?_
    split
    · exact .pure
    · exact .raise

theorem cancelEntryList (row : TradeRow) (symbol : Symbol) (operation : Operation) :
    Keeps (Act.exec env) (Backed step) (cancelEntryList cfg row symbol operation) := by
  unfold SpotSidecar.cancelEntryList
  split
  · exact .pure
  · refine .bind (insertCancel rfl) fun isNew => ?_
    split
    · refine .bind (mark _) fun _ => .bind (.attempt (post _)) fun answer => ?_
      split
      · exact .bind (settles (.finish _ _ _)) fun _ => .pure
      · exact .bind (settles (.finish _ _ _)) fun _ => .pure
      · split
        · exact .bind (settles (.perform trivial)) fun _ => .pure
        · exact .bind (settles (.finish _ _ _)) fun _ => .pure
    · refine .bind (asking _) fun s => ?_
      split <;> exact .pure

theorem cancelProtection (row : TradeRow) (symbol : Symbol) :
    Keeps (Act.exec env) (Backed step) (cancelProtection cfg row symbol) := by
  unfold SpotSidecar.cancelProtection
  split
  · exact .pure
  · refine .bind (insertCancel rfl) fun isNew => ?_
    split
    · refine .bind (mark _) fun _ => .bind (.attempt (post _)) fun answer => ?_
      split
      · exact .bind (settles (.finish _ _ _)) fun _ => .pure
      · exact .bind (settles (.finish _ _ _)) fun _ => .pure
      · exact settles (.concludeCancel _ _ _)
    · exact asking _

theorem resumeExisting (i : Intent) (request : Params) :
    Keeps (Act.exec env) (Backed step) (resumeExistingPreparedSubmission cfg i request) := by
  unfold resumeExistingPreparedSubmission
  refine .bind (mark _) fun _ => .bind (.attempt (post _)) fun answer => ?_
  split
  · exact .bind (asking _) fun response => settles (.concludeResumed _ _ _)
  · refine .bind (asking _) fun found => ?_
    split
    · exact settles (.concludeResumed _ _ _)
    · dsimp only
      split <;> exact .bind (settles (.finish _ _ _)) fun _ => .pure

theorem resolveIntent (i : Intent) :
    Keeps (Act.exec env) (Backed step) (resolveIntent cfg i) := by
  unfold SpotSidecar.resolveIntent
  refine .bind (asking _) fun request => ?_
  split
  · split
    · exact .pure
    · split
      · refine .bind ?_ fun _ => .pure
        unfold resolvePreparedChild
        refine .bind (asking _) fun s => ?_
        split
        · exact .raise
        · refine .bind (asking _) fun rules => .bind (asking _) fun _ => ?_
          refine .bind (resumeExisting _ _) ?_
          rintro ⟨state, response⟩
          exact settles (.bindRecovered _ _ _ _ _ _ _ _)
      · exact .bind (settles (.abortPrepared _)) fun _ => .pure
  · split
    · exact .bind (settles (.resolveCancel _ _)) fun _ => .pure
    · exact .bind (settles (.resolvePlacement _ _)) fun _ => .pure

/-- An entry sells nothing. -/
theorem submitEntry (tradeId : TradeId) (symbol : Symbol) (pair : Pair) (endpoint : Endpoint)
    {params : Params} (hside : params.side ≠ some .sell) :
    Keeps (Act.exec env) (Backed step) (submitEntry cfg tradeId symbol pair endpoint params) := by
  have hready : ∀ w : World σ, Ready step (submissionDraft cfg .entry tradeId symbol endpoint params
      none) w := fun w h => absurd h hside
  unfold SpotSidecar.submitEntry
  refine .bind (asking _) fun now => .bind (asking _) fun s => .bind (upsert _ _ _) fun _ => ?_
  refine Keeps.bind ((submitOnce _ _ _ _ _ _).weaken fun w hw => ⟨hw, hready w⟩) fun submitted => ?_
  split
  · exact .bind (upsert _ _ _) fun _ => .pure
  · exact .bind (settles (.bindIntent _ _ _)) fun _ => .pure
  · exact .raise
  · exact .bind (upsert _ _ _) fun _ => .pure

theorem submit (symbol : Symbol) (id : TradeId) :
    Keeps (Act.exec env) (Backed step) (submit cfg symbol id) := by
  unfold SpotSidecar.submit
  refine .bind (asking _) fun m => .bind (asking _) fun s => ?_
  split
  · exact .pure
  · refine .bind (asking _) fun active => ?_
    split
    · exact .pure
    · split
      · exact .pure
      · refine .bind (asking _) fun s => ?_
        split
        · exact .pure
        · split
          · exact .pure
          · have hplan : Triple (Act.exec env) (Backed step)
                (liftM (planEntry cfg symbol active) : Acting (Except String (Endpoint × Params)))
                (fun plan w => Backed step w ∧ ∀ r, plan = .ok r → r.2.side ≠ some .sell)
                (fun _ => Backed step) (Backed step) := by
              refine ((asking _).and (Triple.asked (triple_planEntry_built
                (F := fun r => r.2.side ≠ some .sell) ?_ _ _))).conseq (fun _ hw => ⟨hw, trivial⟩)
                (fun _ _ hw => hw) (fun _ _ hw => hw.1) fun _ hw => hw.1
              intro mode rules qty entry pending ids
              cases mode <;> rintro ⟨⟩
            refine Triple.bind hplan fun plan => Triple.assume_eq fun hside => ?_
            split
            · exact Keeps.pure
            · exact submitEntry _ _ _ _ (hside _ rfl)

/-- What is asked while the quantity of a SELL is being fixed. -/
theorem asking_fixing {m : Asking α} (hm : Unaccounted m) (row : TradeRow) (balances : Balances) :
    Triple (Act.exec env) (fun w => Backed step w ∧ Fixing row balances w) (liftM m : Acting α)
      (fun _ w => Backed step w ∧ Fixing row balances w) (fun _ => Backed step) (Backed step) := by
  have hstands : Keeps (Ask.exec env) (Stands row) m := keeps_of_exec (fun a _ hw => hw.ask a) m
  have hboth := Triple.asked (hstands.both (hm.keeps balances))
  refine ((asking m).and hboth).conseq (fun _ hw => ⟨hw.1, hw.2.stands, hw.2.informed⟩)
    (fun _ _ hw => ⟨hw.1, hw.2.1, hw.2.2⟩) (fun _ _ hw => hw.1) fun _ hw => hw.1

theorem asking_stands (row : TradeRow) (m : Asking α) :
    Triple (Act.exec env) (fun w => Backed step w ∧ Stands row w) (liftM m : Acting α)
      (fun _ w => Backed step w ∧ Stands row w) (fun _ => Backed step) (Backed step) :=
  (asking m).framed (keeps_asking (fun a _ hw => hw.ask a) m)

/-- The free balance is what is known when the quantity of a SELL is fixed. -/
theorem freeBalance (row : TradeRow) (asset : Asset) :
    Triple (Act.exec env) (fun w => Backed step w ∧ Stands row w)
      (liftM (freeBalance asset) : Acting ℚ)
      (fun free w => ∃ balances, (Backed step w ∧ Fixing row balances w) ∧
        free = (balanceOf balances asset).1) (fun _ => Backed step) (Backed step) := by
  refine ((asking_stands row _).and (Triple.asked (triple_freeBalance_informed asset))).conseq
    (fun _ hw => ⟨hw, trivial⟩) ?_ (fun _ _ hw => hw.1) fun _ hw => hw.1
  rintro free w ⟨⟨hbacked, hstands⟩, balances, hfree, hinformed⟩
  exact ⟨balances, ⟨hbacked, hstands, hinformed⟩, hfree⟩

/-- The replacement that the factory builds is a SELL for the quantity it was given. -/
theorem factoryReplacement (row : TradeRow) (balances : Balances) (mode : ProtectionMode)
    (rules : SymbolRules) (qty entry current : ℚ) (stopPrice : Option ℚ) (bips : Option ℤ) :
    Triple (Act.exec env) (fun w => Backed step w ∧ Fixing row balances w)
      (liftM (factoryReplacement cfg mode rules qty entry current stopPrice bips) :
        Acting (Endpoint × Params))
      (fun r w => (Backed step w ∧ Fixing row balances w) ∧
        r.2.quantity = some (floorStep qty rules.step) ∧ 0 < floorStep qty rules.step)
      (fun _ => Backed step) (Backed step) := by
  refine ((asking_fixing (.factoryReplacement _ _ _ _ _ _ _) row balances).and
    (Triple.asked (triple_factoryReplacement_built _ _ _ _ _ _ _))).conseq
    (fun _ hw => ⟨hw, trivial⟩) (fun r w hw => ⟨hw.1, ?_, hw.2.1⟩) (fun _ _ hw => hw.1)
    fun _ hw => hw.1
  exact hw.2.2.quantity

/-- A SELL for what is free and recorded. -/
theorem sell (operation : Operation) {row : TradeRow} {balances : Balances} (symbol : Symbol)
    (endpoint : Endpoint) {params : Params} {qty : ℚ}
    (hqty : params.quantity = some qty) (hpos : 0 < qty) (hmultiple : Multiple step qty)
    (hfree : qty ≤ floorStep (balanceOf balances "BTC").1 step) (howned : qty ≤ row.recorded) :
    Triple (Act.exec env) (fun w => Backed step w ∧ Fixing row balances w)
      (SpotSidecar.submitOnce cfg operation row.tradeId symbol endpoint params none)
      (fun _ => Backed step) (fun _ => Backed step) (Backed step) := by
  refine (submitOnce _ _ _ _ _ _).weaken fun w hw => ⟨hw.1, ?_⟩
  refine ready_alone hw.2.informed.noted rfl hqty hpos hmultiple (fun _ => ?_) hw.2.stands howned
  exact ⟨balances, hw.2.informed.reads, hfree⟩

theorem protectFilled (row : TradeRow) (symbol : Symbol) (pair : Pair) {rules : SymbolRules}
    (hrules : rules.step = step) :
    Triple (Act.exec env) (fun w => Backed step w ∧ Stands row w)
      (protectFilled cfg row symbol pair rules) (fun _ => Backed step) (fun _ => Backed step)
      (Backed step) := by
  unfold SpotSidecar.protectFilled
  refine Triple.bind (freeBalance row _) fun held => ?_
  refine Triple.exists_pre fun balances => Triple.assume_eq fun hheld => ?_
  dsimp only
  split
  · exact .pure fun _ hw => hw.1
  · next hpos =>
    set qty := floorStep (min held (row.filledQuantity.getD 0)) rules.step with hqty
    refine Triple.bind (asking_fixing (.entryPriceOf _ _) row balances) fun entryPrice => ?_
    refine Triple.bind (asking_fixing (.currentPrice _) row balances) fun current => ?_
    refine Triple.bind (asking_fixing .theStore row balances) fun s => ?_
    refine Triple.bind (asking_fixing .ensure row balances) fun _ => ?_
    refine Triple.bind (factoryReplacement row balances _ _ _ _ _ _ _) ?_
    rintro ⟨endpoint, params⟩
    refine Triple.assume_eq fun hparams => ?_
    refine Triple.bind (asking_fixing (.preflight _ _ _ _ _) row balances) fun _ => ?_
    have hmultiple : Multiple rules.step qty := multiple_floorStep _ _
    rw [hmultiple.floorStep_eq rules.step_pos] at hparams
    obtain ⟨hfree, howned⟩ := floorStep_min_le rules.step_pos hparams.2
    subst hrules
    refine Triple.bind (sell _ _ _ hparams.1 hparams.2 hmultiple (hheld ▸ hfree)
      (howned.trans (le_max_left _ _))) fun submitted => ?_
    split
    · refine Keeps.bind (settles (.bindIntent _ _ _)) fun _ => ?_
      exact .bind (upsert _ _ _) fun _ => .pure
    · exact Keeps.raise
    · exact Keeps.pure

theorem folding (m : Folding α) : Keeps (Act.exec env) (Backed step) (liftM m : Acting α) :=
  (Sellless.folding m).keeps

/-- A row stays in the table, and it stands there as it was reread. -/
theorem foldEntry (row : TradeRow) (event : Event) :
    Triple (Act.exec env) (fun w => Backed step w ∧ (w.store.trade row.tradeId).isSome = true)
      (liftM (foldEntry row event) : Acting TradeRow)
      (fun r w => Backed step w ∧ Stands r w) (fun _ => Backed step) (Backed step) := by
  have hrow : Keeps (Act.exec env) (fun w => (w.store.trade row.tradeId).isSome = true)
      (liftM (SpotSidecar.foldEntry row event) : Acting TradeRow) :=
    keeps_of_exec (fun a w hw => Act.exec_row env a w hw) _
  refine (((folding _).framed hrow).and (Triple.folded (triple_foldEntry_reread row event))).conseq
    (fun _ hw => ⟨hw, trivial⟩) ?_ (fun _ _ hw => hw.1) fun _ hw => hw.1
  rintro r w ⟨⟨hbacked, hsome⟩, hid, hcurrent⟩
  refine ⟨hbacked, ?_⟩
  obtain ⟨row', hrow'⟩ := Option.isSome_iff_exists.mp hsome
  rw [← hid] at hrow'
  rw [Stands, hrow', hcurrent row' hrow']

theorem cancelPartialEntry (row : TradeRow) (symbol : Symbol) :
    Triple (Act.exec env) (fun w => Backed step w ∧ Stands row w)
      (cancelPartialEntry cfg row symbol)
      (fun r w => Backed step w ∧ ∀ row', r = .ok row' → Stands row' w)
      (fun _ => Backed step) (Backed step) := by
  have hno : ∀ detail : String, Triple (Act.exec env) (fun w => Backed step w ∧ Stands row w)
      (Pure.pure (.error detail) : Acting (Except String TradeRow))
      (fun r w => Backed step w ∧ ∀ row', r = .ok row' → Stands row' w)
      (fun _ => Backed step) (Backed step) :=
    fun detail => .pure fun w hw => ⟨hw.1, fun row' h => by cases h⟩
  have hkeep : Keeps (Act.exec env) (Stands row)
      (SpotSidecar.cancelEntryList cfg row symbol .cancelPartialEntry) :=
    (Still.cancelEntryList _ _ _).keeps fun a ha _ hw => hw.still ha
  unfold SpotSidecar.cancelPartialEntry
  refine Triple.bind ((cancelEntryList _ _ _).framed hkeep) ?_
  rintro ⟨canceled, detail⟩
  dsimp only
  split
  · refine Triple.bind (Keeps.framed .ofExcept .ofExcept) fun id => ?_
    refine Triple.bind (asking_stands row _) fun reply => ?_
    refine Triple.bind (Keeps.framed .ofExcept .ofExcept) fun event => ?_
    split
    · split
      · refine Triple.bind ((foldEntry _ _).weaken fun w hw => ⟨hw.1, ?_⟩) fun row' => .pure ?_
        · rw [show w.store.trade row.tradeId = some row from hw.2]
          rfl
        · rintro w ⟨hw, hstands⟩
          refine ⟨hw, fun r hr => ?_⟩
          obtain rfl := Except.ok.inj hr
          exact hstands
      · exact hno _
    · exact hno _
  · exact hno _

theorem settlePartial (row : TradeRow) (entry : Report) (symbol : Symbol) (pair : Pair)
    {rules : SymbolRules} (hrules : rules.step = step) :
    Triple (Act.exec env) (fun w => Backed step w ∧ Stands row w)
      (settlePartial cfg row entry symbol pair rules) (fun _ => Backed step)
      (fun _ => Backed step) (Backed step) := by
  unfold SpotSidecar.settlePartial
  refine Triple.bind (asking_stands row _) fun orders =>
    Triple.bind (asking_stands row _) fun lists => ?_
  refine Triple.bind (asking_stands row _) fun isOpen => ?_
  split
  · exact Keeps.weaken (.bind (upsert _ _ _) fun _ => .pure) fun _ hw => hw.1
  · split
    · exact .pure fun _ hw => hw.1
    · refine Triple.bind (asking_stands row _) fun lists => ?_
      refine Triple.bind (asking_stands row _) fun originalOpen => ?_
      split
      · refine Triple.bind (cancelPartialEntry row symbol) fun canceled => ?_
        split
        · next row' => exact (protectFilled row' _ _ hrules).weaken fun w hw =>
            ⟨hw.1, hw.2 row' rfl⟩
        · exact .pure fun _ hw => hw.1
      · split
        · exact protectFilled row _ _ hrules
        · exact .pure fun _ hw => hw.1

/-- The row that an operation finds stands in the table. -/
theorem activeTrade (s : Store) (symbol : Symbol) :
    Triple (Act.exec env) (fun w => Backed step w ∧ s = w.store)
      (Prog.ofExcept (s.activeTradeForSymbol symbol) : Acting (Option TradeRow))
      (fun found w => Backed step w ∧ ∀ row, found = some row → Stands row w)
      (fun _ => Backed step) (Backed step) := by
  refine .ofExcept (fun found hfound w hw => ⟨hw.1, ?_⟩) fun _ _ _ hw => hw.1
  rintro row rfl
  obtain ⟨hbacked, rfl⟩ := hw
  exact Store.trade_of_mem (mem_of_activeTradeForSymbol hfound).1

theorem rulesOf (hsteps : env.Steps step) (row : TradeRow) (pair : Pair) :
    Triple (Act.exec env) (fun w => Backed step w ∧ Stands row w)
      (liftM (rulesOf cfg pair) : Acting SymbolRules)
      (fun rules w => (Backed step w ∧ Stands row w) ∧ rules.step = step)
      (fun _ => Backed step) (Backed step) :=
  ((asking_stands row _).and (Triple.asked (triple_rulesOf_noted hsteps pair))).conseq
    (fun _ hw => ⟨hw, trivial⟩) (fun _ _ hw => ⟨hw.1, hw.2.2⟩) (fun _ _ hw => hw.1) fun _ hw => hw.1

theorem placePartialProtection (hsteps : env.Steps step) (symbol : Symbol) :
    Keeps (Act.exec env) (Backed step) (placePartialProtection cfg symbol) := by
  unfold SpotSidecar.placePartialProtection
  refine Triple.bind (triple_theStore fun _ hw => hw) fun s => ?_
  refine Triple.bind (activeTrade s symbol) fun found => ?_
  split
  · exact .pure fun _ hw => hw.1
  · next row =>
    refine Triple.weaken (R := fun w => Backed step w ∧ Stands row w) ?_ fun w hw =>
      ⟨hw.1, hw.2 row rfl⟩
    refine Triple.bind (asking_stands row _) fun active => ?_
    refine Triple.bind (rulesOf hsteps row active) fun rules => Triple.assume_eq fun hrules => ?_
    refine Triple.bind (asking_stands row _) fun entry => ?_
    refine Triple.bind (Keeps.framed .ofExcept .ofExcept) fun id => ?_
    split
    · exact .pure fun _ hw => hw.1
    · refine Triple.bind (Keeps.framed .ofExcept .ofExcept) fun event => ?_
      split
      · exact .pure fun _ hw => hw.1
      · refine Triple.bind ((foldEntry _ _).weaken fun w hw => ⟨hw.1, ?_⟩) fun row' => ?_
        · rw [show w.store.trade row.tradeId = some row from hw.2]
          rfl
        · exact settlePartial row' _ _ _ hrules

theorem sellOut {plan : ExitPlan} {row : TradeRow} {balances : Balances} (hrow : plan.row = row)
    (hpos : 0 < plan.qty) (hmultiple : Multiple step plan.qty)
    (hfree : plan.qty ≤ floorStep (balanceOf balances "BTC").1 step)
    (howned : plan.qty ≤ row.recorded) :
    Triple (Act.exec env) (fun w => Backed step w ∧ Fixing row balances w)
      (sellOut cfg plan) (fun _ => Backed step) (fun _ => Backed step) (Backed step) := by
  subst hrow
  have hclient : Unaccounted (call (.newClientId "EMERGENCY")) := .call trivial
  unfold SpotSidecar.sellOut
  refine Triple.bind (asking_fixing (.bestBid _) plan.row balances) fun bid => ?_
  refine Triple.bind (asking_fixing hclient plan.row balances) fun client => ?_
  refine Triple.bind (asking_fixing (.preflight _ _ _ _ _) plan.row balances) fun _ => ?_
  refine Triple.bind (sell .emergencyExit _ _ rfl hpos hmultiple hfree howned) fun submitted => ?_
  split
  · exact Keeps.bind (settles (.bindIntent _ _ _)) fun _ => settles (.verifyExit _ _)
  · exact Keeps.raise
  · exact Keeps.pure

theorem emergencyExit (hsteps : env.Steps step) (symbol : Symbol) :
    Keeps (Act.exec env) (Backed step) (emergencyExit cfg symbol) := by
  unfold SpotSidecar.emergencyExit
  refine Triple.bind (triple_theStore fun _ hw => hw) fun s => ?_
  refine Triple.bind (activeTrade s symbol) fun found => ?_
  split
  · exact .pure fun _ hw => hw.1
  · next row =>
    have hkeep : Keeps (Act.exec env) (Stands row) (SpotSidecar.cancelProtection cfg row symbol) :=
      (Still.cancelProtection _ _).keeps fun a ha _ hw => hw.still ha
    refine Triple.weaken (R := fun w => Backed step w ∧ Stands row w) ?_ fun w hw =>
      ⟨hw.1, hw.2 row rfl⟩
    refine Triple.bind (asking_stands row _) fun _ => ?_
    refine Triple.bind ((cancelProtection row symbol).framed hkeep) ?_
    rintro ⟨canceled, detail⟩
    dsimp only
    split
    · unfold exitCanceled
      refine Triple.bind (asking_stands row _) fun active => ?_
      refine Triple.bind (rulesOf hsteps row active) fun rules => Triple.assume_eq fun hrules => ?_
      split
      · exact .pure fun _ hw => hw.1
      · refine Triple.bind (freeBalance row _) fun free => ?_
        refine Triple.exists_pre fun balances => Triple.assume_eq fun hfree => ?_
        subst hrules hfree
        dsimp only
        split
        · exact .pure fun _ hw => hw.1
        · next hpos =>
          obtain ⟨hfloor, howned⟩ := floorStep_min_le rules.step_pos (not_le.mp hpos)
          rw [(multiple_floorStep _ _).floorStep_eq rules.step_pos] at hfloor
          refine sellOut rfl ?_ ?_ ?_ ?_
          · exact not_le.mp hpos
          · exact multiple_floorStep _ _
          · exact hfloor
          · exact howned
    · exact .pure fun _ hw => hw.1

/-- Inserting a plan whose SELL is bounded. -/
theorem insertPlan (d : IntentDraft) :
    Triple (Act.exec env) (fun w => Backed step w ∧ Ready step d w) (SpotSidecar.prepare d)
      (fun isNew w => Backed step w ∧ (isNew = true → (d.row 0).draft ∈ w.store.drafts))
      (fun _ => Backed step) (Backed step) := by
  have hdraft : Triple (Act.exec env) (fun _ => True) (SpotSidecar.prepare d)
      (fun isNew w => isNew = true → (d.row 0).draft ∈ w.store.drafts) (fun _ _ => True)
      fun _ => True := by
    refine Triple.perform (fun _ _ => trivial) (fun w isNew w' _ heq => ?_) fun _ _ _ _ _ => trivial
    simp only [Act.exec] at heq
    split at heq
    · next hok =>
      cases heq
      rintro rfl
      obtain ⟨h, -⟩ | ⟨-, -, hd⟩ := Store.prepareIntent_drafts hok
      · cases h
      · rw [hd]
        simp
    · cases heq
  exact ((insertReady d).and hdraft).conseq (fun _ hw => ⟨hw, trivial⟩) (fun _ _ hw => hw)
    (fun _ _ hw => hw.1) fun _ hw => hw.1

/-- The replacement that is built after the cancel is for what is held of the planned quantity. -/
theorem replacementFor (row : TradeRow) (balances : Balances) (args : ConvertArgs)
    {c : Conversion} (hc : c.Owned step) {held : ℚ} (hheld : Multiple step held) :
    Triple (Act.exec env) (fun w => Backed step w ∧ Fixing row balances w)
      (liftM (replacementFor cfg args c held) : Acting (Endpoint × Params))
      (fun r w => (Backed step w ∧ Fixing row balances w) ∧
        r.2.quantity = some (min held c.qty)) (fun _ => Backed step) (Backed step) := by
  have hbuilt : Triple (Ask.exec env) (fun _ => True) (SpotSidecar.replacementFor cfg args c held)
      (fun r _ => r.2.quantity = some (min held c.qty)) (fun _ _ => True) fun _ => True := by
    unfold SpotSidecar.replacementFor
    split
    · next hless =>
      refine Triple.bind Triple.top fun current => ?_
      refine (triple_factoryReplacement_built _ _ _ _ _ _ _).post fun r w hr => ?_
      rw [hr.2.quantity, hc.rules, hheld.floorStep_eq (hc.rules ▸ c.rules.step_pos),
        min_eq_left hless.le]
    · next hless =>
      refine .pure fun w _ => ?_
      rw [min_eq_right (not_lt.mp hless)]
      exact hc.quantity
  exact ((asking_fixing (.replacementFor _ _ _) row balances).and (Triple.asked hbuilt)).conseq
    (fun _ hw => ⟨hw, trivial⟩) (fun _ _ hw => hw) (fun _ _ hw => hw.1) fun _ hw => hw.1

/-- What the ledger keeps beside the rest. -/
theorem beside {P C : World σ → Prop} {Q : α → World σ → Prop} {E : Exc → World σ → Prop}
    {m : Acting α} (h : Triple (Act.exec env) P m Q E C) (d : IntentDraft) :
    Triple (Act.exec env) (fun w => P w ∧ d ∈ w.store.drafts) m
      (fun a w => Q a w ∧ d ∈ w.store.drafts) E C :=
  (h.and (ClientIdsOwned.keeps_draft d m)).conseq (fun _ hw => hw) (fun _ _ hw => hw)
    (fun _ _ hw => hw.1) fun _ hw => hw.1

theorem submitReplacement (row : TradeRow) (balances : Balances) (args : ConvertArgs)
    {c : Conversion} (hc : c.Owned step) {held : ℚ} (hpos : 0 < held)
    (hheld : held = floorStep (balanceOf balances "BTC").1 step) :
    Triple (Act.exec env) (fun w => (Backed step w ∧ Fixing row balances w) ∧
        ((planDraft cfg c).row 0).draft ∈ w.store.drafts)
      (submitReplacement cfg args c (planDraft cfg c).intentId held)
      (fun _ => Backed step) (fun _ => Backed step) (Backed step) := by
  have hmultiple : Multiple step held := hheld ▸ multiple_floorStep _ _
  unfold SpotSidecar.submitReplacement
  refine Triple.bind (beside (replacementFor row balances args hc hmultiple) _) ?_
  rintro ⟨endpoint, params⟩
  dsimp only
  refine Triple.weaken (R := fun w => ((Backed step w ∧ Fixing row balances w) ∧
    ((planDraft cfg c).row 0).draft ∈ w.store.drafts) ∧ params.quantity = some (min held c.qty)) ?_
    fun w hw => ⟨⟨hw.1.1, hw.2⟩, hw.1.2⟩
  refine Triple.assume_eq fun hqty => ?_
  refine Triple.bind (beside (asking_fixing (.preflight _ _ _ _ _) row balances) _) fun _ => ?_
  refine Triple.bind ((submitOnce _ _ _ _ _ _).weaken fun w hw => ⟨hw.1.1, ?_⟩) fun submitted => ?_
  · refine ready_child hw.1.1 hw.2 rfl (fun _ => hc.side) rfl rfl (by rintro ⟨⟩) hqty
      (lt_min hpos hc.pos) ?_ ?_ hw.1.2.informed.reads ((min_le_left _ _).trans hheld.le)
    · rcases min_choice held c.qty with h | h
      · rw [h]
        exact hmultiple
      · rw [h]
        exact hc.multiple
    · intro q hq
      obtain rfl : c.qty = q := Option.some.inj (hc.quantity.symm.trans hq)
      exact min_le_right _ _
  · split
    · exact settles (.finishConversion _ _ _ _ _ _ _)
    · exact Keeps.raise
    · exact Keeps.bind (upsert _ _ _) fun _ => .pure

theorem convert (hsteps : env.Steps step) (symbol : Symbol) (args : ConvertArgs) :
    Keeps (Act.exec env) (Backed step) (convert cfg symbol args) := by
  unfold SpotSidecar.convert
  have hplan : Triple (Act.exec env) (Backed step)
      (liftM (planConversion cfg symbol args) : Acting (Except String Conversion))
      (fun planned w => Backed step w ∧
        ∀ c, planned = .ok c → c.Owned step ∧ Noted w ∧ Stands c.row w)
      (fun _ => Backed step) (Backed step) := by
    refine Triple.assume fun w hw => ?_
    refine ((asking _).and (Triple.asked (triple_planConversion_owned hsteps symbol args
      w.store))).conseq ?_ (fun _ _ hw => hw) (fun _ _ hw => hw.1) fun _ hw => hw.1
    rintro v rfl
    exact ⟨hw, rfl⟩
  refine Triple.bind hplan fun planned => ?_
  split
  · exact .pure fun _ hw => hw.1
  · next c =>
    refine Triple.weaken (R := fun w => (Backed step w ∧ Noted w ∧ Stands c.row w) ∧
      c.Owned step) ?_ fun w hw => ⟨⟨hw.1, (hw.2 c rfl).2⟩, (hw.2 c rfl).1⟩
    refine Triple.assume_eq fun hc => ?_
    have hkeep : Keeps (Act.exec env) (Stands c.row) (SpotSidecar.prepare (planDraft cfg c)) :=
      .perform fun w hw => hw.still (a := .prepareIntent (planDraft cfg c)) trivial
    unfold executeConversion
    refine Triple.bind (((insertPlan (planDraft cfg c)).and hkeep).conseq ?_ (fun _ _ hw => hw)
      (fun _ _ hw => hw.1) fun _ hw => hw.1) fun isNew => ?_
    · rintro w ⟨hw, hnoted, hstands⟩
      refine ⟨⟨hw, ?_⟩, hstands⟩
      exact ready_alone hnoted rfl hc.quantity hc.pos hc.multiple (fun h => absurd rfl h) hstands
        hc.recorded
    split
    · next hnew =>
      refine Triple.weaken (R := fun w => (Backed step w ∧ Stands c.row w) ∧
        ((planDraft cfg c).row 0).draft ∈ w.store.drafts) ?_ fun w hw =>
        ⟨⟨hw.1.1, hw.2⟩, hw.1.2 hnew⟩
      refine Triple.bind (beside (asking_stands c.row _) _) fun _ => ?_
      refine Triple.bind (beside (asking_stands c.row _) _) fun _ => ?_
      have hstands : Keeps (Act.exec env) (Stands c.row)
          (SpotSidecar.cancelProtection cfg c.row c.symbol) :=
        (Still.cancelProtection _ _).keeps fun a ha _ hw => hw.still ha
      refine Triple.bind (beside ((cancelProtection c.row c.symbol).framed hstands) _) ?_
      rintro ⟨canceled, detail⟩
      dsimp only
      split
      · unfold replaceCanceled
        refine Triple.bind (beside (freeBalance c.row _) _) fun free => ?_
        dsimp only
        split
        · refine Keeps.weaken (.bind (asking _) fun balances => ?_) fun w hw => ?_
          · split
            · exact .pure
            · refine .bind (settles (.finish _ _ _)) fun _ => ?_
              exact .bind (upsert _ _ _) fun _ => .pure
          · obtain ⟨⟨balances, hbacked, -⟩, -⟩ := hw
            exact hbacked.1
        · next hpos =>
          refine Triple.weaken (R := fun w => ∃ balances, ((Backed step w ∧
            Fixing c.row balances w) ∧ ((planDraft cfg c).row 0).draft ∈ w.store.drafts) ∧
            free = (balanceOf balances "BTC").1) ?_ fun w hw => ?_
          · refine Triple.exists_pre fun balances => Triple.assume_eq fun hfree => ?_
            refine submitReplacement c.row balances args hc (not_le.mp hpos) ?_
            rw [hfree, hc.rules]
          · obtain ⟨⟨balances, hbacked, hfree⟩, hdraft⟩ := hw
            exact ⟨balances, ⟨hbacked, hdraft⟩, hfree⟩
      · exact .pure fun _ hw => hw.1.1
    · exact .pure fun _ hw => hw.1.1

theorem asking_knows (i : Intent) (m : Asking α) :
    Triple (Act.exec env) (fun w => Backed step w ∧ w.store.Knows i) (liftM m : Acting α)
      (fun _ w => Backed step w ∧ w.store.Knows i) (fun _ => Backed step) (Backed step) :=
  (asking m).framed (keeps_knows i _)

theorem plannedRequest_side (request : Params) (requested held step : ℚ) :
    (plannedRequest request requested held step).side = request.side := by
  unfold plannedRequest
  split <;> rfl

/-- A resumed request is for what is held of the planned quantity. -/
theorem plannedRequest_quantity {request : Params} {qty : ℚ} (hqty : request.quantity = some qty)
    (hmultiple : Multiple step qty) (hstep : 0 < step) (held : ℚ) :
    (plannedRequest request (request.quantity.getD 0) held step).quantity =
    some (min held qty) := by
  unfold plannedRequest
  rw [hqty, Option.getD_some, hmultiple.floorStep_eq hstep]
  split
  · next hless =>
    rw [min_eq_left hless.le]
  · next hless =>
    rw [min_eq_right (not_lt.mp hless)]
    exact hqty

/-- A plan is resumed for no more than it stores and no more than is free. -/
theorem submitPlan (plan : Intent) (hplan : plan.operation = .replaceProtection)
    (row : TradeRow) {rules : SymbolRules} (hrules : rules.step = step) :
    Triple (Act.exec env) (fun w => Backed step w ∧ w.store.Knows plan)
      (submitPlan cfg plan plan.request row rules) (fun _ => Backed step) (fun _ => Backed step)
      (Backed step) := by
  unfold SpotSidecar.submitPlan
  refine Triple.bind (Q := fun _ w => (Backed step w ∧ w.store.Knows plan) ∧
    0 < plan.request.quantity.getD 0) ?_ fun _ => Triple.assume_eq fun hrequested => ?_
  · exact .ensure (fun hpos w hw => ⟨hw, hpos⟩) fun _ w hw => hw.1
  have hfree : Triple (Act.exec env) (fun w => Backed step w ∧ w.store.Knows plan)
      (liftM (SpotSidecar.freeBalance "BTC") : Acting ℚ)
      (fun free w => (Backed step w ∧ w.store.Knows plan) ∧ ∃ balances,
        free = (balanceOf balances "BTC").1 ∧ Informed balances w)
      (fun _ => Backed step) (Backed step) :=
    ((asking_knows plan _).and (Triple.asked (triple_freeBalance_informed "BTC"))).conseq
      (fun _ hw => ⟨hw, trivial⟩) (fun _ _ hw => hw) (fun _ _ hw => hw.1) fun _ hw => hw.1
  refine Triple.bind hfree fun free => ?_
  dsimp only
  split
  · refine Keeps.weaken (.bind (asking _) fun balances => .bind .ensure fun _ => ?_)
      fun w hw => hw.1.1
    exact .bind (settles (.finish _ _ _)) fun _ => .bind (upsert _ _ _) fun _ => .pure
  · next hpos =>
    refine Triple.weaken (R := fun w => ∃ balances, ((Backed step w ∧ w.store.Knows plan) ∧
      Informed balances w) ∧ free = (balanceOf balances "BTC").1) ?_ fun w hw => ?_
    · refine Triple.exists_pre fun balances => Triple.assume_eq fun hheld => ?_
      subst hrules hheld
      refine Triple.bind (((asking_knows plan _).and (Triple.asked
        ((Unaccounted.preflight _ _ _ _ _).keeps balances))).conseq (fun _ hw => hw)
        (fun _ _ hw => hw) (fun _ _ hw => hw.1) fun _ hw => hw.1) fun _ => ?_
      refine Triple.bind ((submitOnce _ _ _ _ _ _).weaken fun w hw => ⟨hw.1.1, ?_⟩)
        fun submitted => ?_
      · obtain ⟨⟨hbacked, hknows⟩, hinformed⟩ := hw
        intro hside
        have hsell : plan.request.side = some .sell :=
          (plannedRequest_side _ _ _ _).symm.trans hside
        obtain ⟨stamp, qty, -, hqty, hmultiple, -⟩ :=
          hbacked.plan_owned hknows.mem_drafts hplan hsell
        have hrequest := plannedRequest_quantity hqty hmultiple rules.step_pos
          (floorStep (balanceOf balances "BTC").1 rules.step)
        have hqtypos : 0 < qty := by
          have h : plan.request.quantity = some qty := hqty
          rwa [h] at hrequested
        refine ready_child hbacked hknows.mem_drafts hplan (fun _ => hsell) rfl rfl (by rintro ⟨⟩)
          hrequest (lt_min (not_le.mp hpos) hqtypos) ?_ ?_ hinformed.reads (min_le_left _ _) hside
        · rcases min_choice (floorStep (balanceOf balances "BTC").1 rules.step) qty with h | h
          · rw [h]
            exact multiple_floorStep _ _
          · rw [h]
            exact hmultiple
        · intro q hq
          obtain rfl : qty = q := Option.some.inj (hqty.symm.trans hq)
          exact min_le_right _ _
      · refine Keeps.bind (settles (.finish _ _ _)) fun _ => ?_
        exact Keeps.bind (settles (.bindRecovered _ _ _ _ _ _ _ _)) fun _ => .pure
    · obtain ⟨hbacked, balances, hheld, hinformed⟩ := hw
      exact ⟨balances, ⟨hbacked, hinformed⟩, hheld⟩

theorem resumeChild (plan : Intent) (row : TradeRow) (rules : SymbolRules) (child : Intent) :
    Keeps (Act.exec env) (Backed step) (resumeChild cfg plan row rules child) := by
  unfold SpotSidecar.resumeChild
  refine .bind (asking _) fun request => .bind (asking _) fun _ => ?_
  refine .bind (resumeExisting _ _) ?_
  rintro ⟨state, response⟩
  exact .bind (settles (.bindRecovered _ _ _ _ _ _ _ _)) fun _ => settles (.finish _ _ _)

theorem resumeAfterCancel (hsteps : env.Steps step) (plan : Intent)
    (hplan : plan.operation = .replaceProtection) (related : List Intent) :
    Triple (Act.exec env) (fun w => Backed step w ∧ w.store.Knows plan)
      (resumeAfterCancel cfg plan plan.request related) (fun _ => Backed step)
      (fun _ => Backed step) (Backed step) := by
  unfold SpotSidecar.resumeAfterCancel
  refine Triple.bind (asking_knows plan _) fun s => ?_
  split
  · exact .raise fun _ hw => hw.1
  · refine Triple.bind (asking_knows plan _) fun active => ?_
    have hrules : Triple (Act.exec env) (fun w => Backed step w ∧ w.store.Knows plan)
        (liftM (SpotSidecar.rulesOf cfg active) : Acting SymbolRules)
        (fun rules w => (Backed step w ∧ w.store.Knows plan) ∧ rules.step = step)
        (fun _ => Backed step) (Backed step) :=
      ((asking_knows plan _).and (Triple.asked (triple_rulesOf_noted hsteps active))).conseq
        (fun _ hw => ⟨hw, trivial⟩) (fun _ _ hw => ⟨hw.1, hw.2.2⟩) (fun _ _ hw => hw.1)
        fun _ hw => hw.1
    refine Triple.bind hrules fun rules => Triple.assume_eq fun hstep => ?_
    split
    · exact submitPlan plan hplan _ hstep
    · refine Keeps.weaken ?_ fun w hw => hw.1
      split
      · exact .bind (resumeChild _ _ _ _) fun _ => .pure
      · exact .bind (settles (.rebindChild _ _ _)) fun _ => .pure
      · exact .pure
      · exact .pure
      · exact .bind (settles (.finish _ _ _)) fun _ => .pure
      · exact .bind (settles (.finish _ _ _)) fun _ => .pure

theorem resumePreparedReplacement (hsteps : env.Steps step) (plan : Intent)
    (hplan : plan.operation = .replaceProtection) :
    Triple (Act.exec env) (fun w => Backed step w ∧ w.store.Knows plan)
      (resumePreparedReplacement cfg plan) (fun _ => Backed step) (fun _ => Backed step)
      (Backed step) := by
  unfold SpotSidecar.resumePreparedReplacement
  refine Triple.bind (triple_intentRequest _ fun w hw => hw.1) fun request => ?_
  refine Triple.assume_eq fun hrequest => ?_
  subst hrequest
  refine Triple.bind (asking_knows plan _) fun s => ?_
  dsimp only
  split
  · exact Keeps.weaken (.bind (settles (.finish _ _ _)) fun _ => .pure) fun w hw => hw.1
  · split
    · refine Triple.bind (asking_knows plan _) fun cancelRequest => ?_
      refine Triple.bind (asking_knows plan _) fun terminal => ?_
      split
      · exact resumeAfterCancel hsteps plan hplan _
      · exact .pure fun _ hw => hw.1
    · exact .pure fun _ hw => hw.1

/-- Every SELL of the ledger is bounded at every site. -/
theorem sites (hsteps : env.Steps step) : Sites cfg env (Backed step) where
  fold f _ hw := hw.fold f
  write id pair f _ _ hw := hw.act (.upsertTrade id pair f) trivial
  admits _ _ _ _ _ _ := trivial
  tables _ _ _ _ _ := trivial
  submit symbol id := (submit symbol id).weaken fun _ hw => hw.1
  convert := convert hsteps
  emergencyExit := emergencyExit hsteps
  placePartialProtection := placePartialProtection hsteps
  cancelEntryList row symbol operation _ := cancelEntryList row symbol operation
  resolveIntent i := (resolveIntent i).weaken fun _ hw => hw.1
  resumePreparedReplacement i hop _ := resumePreparedReplacement hsteps i hop

theorem runSteps (hsteps : env.Steps step) (e : σ) (steps : List Step) :
    Backed step (runSteps cfg env e steps) :=
  (sites hsteps).runSteps e steps (.init e) (fun _ hw => hw.note _) fun _ hw => hw.ages (.refl _)

end Backed

/-- A SELL that was posted, with the store and the history before its POST. -/
structure Sale where
  params : Params
  store : Store
  earlier : List Entry

/-- The SELL orders and lists of a history, the last one first. -/
def sales : List Entry → List Sale
  | [] => []
  | ⟨s, .posted (.place _ params) _⟩ :: es =>
    if params.side = some .sell then ⟨params, s, es⟩ :: sales es else sales es
  | _ :: es => sales es

/-- The quantity of a SELL is a positive multiple of the step, within the free balance that was read
when its intent was prepared and within what the row recorded when its plan was prepared, or, where
it has no plan, its intent. -/
def Sale.Bounded (step : ℚ) (sale : Sale) : Prop :=
  ∃ i ∈ sale.store.intents, ∃ fixing ∈ sale.store.intents, ∃ qty,
    (i.state = .submitting ∧ i.request = sale.params) ∧
    (∀ parent ∈ i.parentIntentId, fixing.intentId = parent ∧ fixing.tradeId = i.tradeId) ∧
    (i.parentIntentId = none → fixing = i) ∧
    sale.params.quantity = some qty ∧ 0 < qty ∧ Multiple step qty ∧
    FreeBefore step i.createdAt sale.earlier qty ∧
    OwnedBefore fixing.createdAt sale.earlier i.tradeId qty

theorem mem_sales {sale : Sale} {h : List Entry} (hsale : sale ∈ sales h) :
    sale.params.side = some .sell ∧ ∃ endpoint r,
      ⟨sale.store, .posted (.place endpoint sale.params) r⟩ :: sale.earlier <:+ h := by
  induction h with
  | nil => cases hsale
  | cons e es ih =>
    have hlater : sale ∈ sales es → sale.params.side = some .sell ∧ ∃ endpoint r,
        ⟨sale.store, .posted (.place endpoint sale.params) r⟩ :: sale.earlier <:+ e :: es := by
      intro hmem
      obtain ⟨hside, endpoint, r, hsuffix⟩ := ih hmem
      exact ⟨hside, endpoint, r, hsuffix.trans (List.suffix_cons _ _)⟩
    rcases e with ⟨s, item⟩
    cases item with
    | posted p r =>
      cases p with
      | place endpoint params =>
        simp only [sales] at hsale
        by_cases hside : params.side = some .sell
        · rw [if_pos hside] at hsale
          obtain rfl | hmem := List.mem_cons.mp hsale
          · exact ⟨hside, endpoint, r, List.suffix_refl _⟩
          · exact hlater hmem
        · rw [if_neg hside] at hsale
          exact hlater hsale
      | _ => exact hlater hsale
    | _ => exact hlater hsale

/-- No plan is ever marked. -/
theorem ClientIdsOwned.marked_placing {w : World σ} (h : ClientIdsOwned cfg w) {id : IntentId}
    (hid : id ∈ marks w.history) {i : Intent} (hi : w.store.intent id = some i) :
    i.draft.placing := by
  obtain ⟨hmem, hiid⟩ := Store.mem_drafts hi
  obtain ⟨d, hd, hdid, hplacing⟩ := h.marked id hid
  have hunique : (w.store.drafts.map (·.intentId)).Nodup := by
    rw [Store.drafts, List.map_map]
    exact w.store.intents_nodup
  have heq : d = i.draft := List.inj_on_of_nodup_map hunique hd hmem (hdid.trans hiid.symm)
  exact heq ▸ hplacing

/-- In every run against an exchange that never changes the step of a symbol, every SELL that is
posted is bounded. -/
theorem sales_bounded (cfg : Config) {env : Env σ} (hsteps : env.Steps step) (e : σ)
    (steps : List Step) : ∀ sale ∈ sales (runSteps cfg env e steps).history, sale.Bounded step := by
  intro sale hsale
  obtain ⟨hside, endpoint, r, hes⟩ := mem_sales hsale
  have hw := WriteAhead.runSteps cfg env e steps
  have hids := ClientIdsOwned.runSteps cfg env e steps
  have hbacked : Backed step (runSteps cfg env e steps) := Backed.runSteps hsteps e steps
  obtain ⟨before, id, hopen, -, i, hi, hsubmitting, hauth⟩ := hw.posts _ _ _ _ hes
  obtain ⟨hmem, hid⟩ := Store.intent_mem hi
  have hrequest : i.request = sale.params := hauth.2
  -- the intent stands for a request, so it is no plan
  have hplacing : i.draft.placing := by
    obtain ⟨j, hj, hdraft, -⟩ := hw.le _ (hes.subset (List.mem_cons_self ..)) id i hi
    have hmark : id ∈ marks (SpotSidecar.runSteps cfg env e steps).history :=
      (((List.suffix_cons _ _).trans hes).sublist.filterMap _).subset (openMark_mem hopen)
    exact hdraft ▸ hids.marked_placing hmark hj
  have hstamped : (i.draft, i.createdAt) ∈ sale.store.stamped := List.mem_map_of_mem hmem
  have hsell : i.request.side = some .sell := by
    rw [hrequest]
    exact hside
  obtain ⟨qty, hsells⟩ := (hbacked.past _ _ hes).sells _ hstamped hsell
  have hqty : sale.params.quantity = some qty := by
    rw [← hrequest]
    exact hsells.quantity
  obtain ⟨fixing, hfixing, hfixed, howned⟩ := hsells.owned
  replace hfixing : fixing ∈ sale.store.stamped := by
    obtain hfixing | rfl := hfixing
    · exact hfixing
    · exact hstamped
  cases hparent : i.parentIntentId with
  | none =>
    have hself : fixing = (i.draft, i.createdAt) := by
      unfold IntentDraft.FixedBy at hfixed
      rwa [show i.draft.parentIntentId = none from hparent] at hfixed
    rw [hself] at howned
    refine ⟨i, hmem, i, hmem, qty, ⟨hsubmitting, hrequest⟩, ?_, fun _ => rfl, hqty, hsells.pos,
      hsells.multiple, hsells.free hplacing, howned⟩
    simp [hparent]
  | some parent =>
    obtain ⟨j, hj, rfl⟩ := List.mem_map.mp hfixing
    unfold IntentDraft.FixedBy at hfixed
    rw [show i.draft.parentIntentId = some parent from hparent] at hfixed
    refine ⟨i, hmem, j, hj, qty, ⟨hsubmitting, hrequest⟩, ?_, ?_, hqty, hsells.pos,
      hsells.multiple, hsells.free hplacing, howned⟩
    · rw [hparent]
      rintro _ ⟨⟩
      exact hfixed
    · rw [hparent]
      rintro ⟨⟩

theorem Desk.steps : Desk.env.Steps (1 / 1000) := by
  intro symbol d info h
  cases h
  rfl

/-- A trailing stop that replaces the list of the entry. -/
theorem sales_bounded_sample :
    let h := (runSteps Desk.config Desk.env { script := [{ next := [.fill 2 1 0] }] }
      (Desk.opening ++ [Desk.whole (.convert "BTCUSDT" { mode := .trailingOnly })])).history
    (sales h).length = 1 ∧ ∀ sale ∈ sales h, sale.Bounded (1 / 1000) :=
  ⟨by decide +kernel, sales_bounded Desk.config Desk.steps _ _⟩

end SpotSidecar
