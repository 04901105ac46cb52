import SpotSidecar.Safety.ClientIds
import SpotSidecar.Safety.Exposure
import SpotSidecar.Safety.Stamps
import SpotSidecar.Safety.Stops

/-! What is known before a SELL is stored: the rows of the trades and the free balance. -/
namespace SpotSidecar
open Interaction Prog

/-- Every answer about the rules of a symbol has this step. -/
def Env.Steps {σ : Type} (env : Env σ) (step : ℚ) : Prop :=
  ∀ symbol x info, (env.call _ (.symbolInfo symbol) x).1 = .ok info → info.stepSize = step

/-- The rows of now stand in the last entry of the history. -/
def Noted {σ : Type} (w : World σ) : Prop :=
  ∃ s, storeBefore (w.store.clock + 1) w.history = some s ∧ s.trades = w.store.trades

/-- The balances that were read last, and that nothing was written since. -/
def Reads {σ : Type} (balances : Balances) (w : World σ) : Prop :=
  balancesBefore (w.store.clock + 1) w.history = some balances

/-- Calls that do not ask for the balances. -/
def Call.unaccounted {γ : Type} : Call γ → Prop
  | .account => False
  | _ => True

def Ask.unaccounted (γ : Type) : Ask γ → Prop
  | .call c => c.unaccounted
  | _ => True

section asks
variable {σ α γ : Type} {cfg : Config} {env : Env σ} {step : ℚ}

theorem before_note (w : World σ) (item : Item) :
    before (w.store.clock + 1) (⟨w.store, item⟩ :: w.history) =
      ⟨w.store, item⟩ :: before (w.store.clock + 1) w.history := by
  apply List.filter_cons_of_pos
  simp

theorem Call.item?_balances {c : Call γ} {r : Except Exc γ} {item : Item}
    (h : c.item? r = some item) (hc : c.unaccounted) : item.balances? = none := by
  cases c with
  | account => exact hc.elim
  | getOrder symbol key => cases h; rfl
  | getOrderList key => cases h; rfl
  | newClientId role => obtain ⟨_, -, rfl⟩ := Option.map_eq_some_iff.mp h; rfl
  | symbolInfo symbol => obtain ⟨_, -, rfl⟩ := Option.map_eq_some_iff.mp h; rfl
  | openOrders symbol => obtain ⟨_, -, rfl⟩ := Option.map_eq_some_iff.mp h; rfl
  | openOrderLists => obtain ⟨_, -, rfl⟩ := Option.map_eq_some_iff.mp h; rfl
  | _ => cases h

/-- What a question does to the history. -/
theorem Ask.exec_before (env : Env σ) (a : Ask γ) (w : World σ) :
    before ((a.exec env γ w).2.store.clock + 1) (a.exec env γ w).2.history =
        before (w.store.clock + 1) w.history ∨
      ∃ item, (a.unaccounted → item.balances? = none) ∧
        before ((a.exec env γ w).2.store.clock + 1) (a.exec env γ w).2.history =
          ⟨w.store, item⟩ :: before (w.store.clock + 1) w.history := by
  cases a with
  | call c =>
    simp only [Ask.exec]
    split
    · next item hitem =>
      exact .inr ⟨item, Call.item?_balances hitem, before_note w item⟩
    · exact .inl rfl
  | _ => exact .inl rfl

theorem Noted.ask {w : World σ} (h : Noted w) (a : Ask γ) : Noted (a.exec env γ w).2 := by
  have htrades := (Ask.exec_cases env a w).1
  obtain ⟨s, hs, hrows⟩ := h
  unfold Noted storeBefore
  rw [htrades]
  obtain hsame | ⟨item, -, hnew⟩ := Ask.exec_before env a w
  · rw [hsame]
    exact ⟨s, hs, hrows⟩
  · rw [hnew]
    exact ⟨w.store, rfl, rfl⟩

theorem Reads.ask {balances : Balances} {w : World σ} (h : Reads balances w) {a : Ask γ}
    (ha : a.unaccounted) : Reads balances (a.exec env γ w).2 := by
  unfold Reads balancesBefore
  obtain hsame | ⟨item, hitem, hnew⟩ := Ask.exec_before env a w
  · rw [hsame]
    exact h
  · rw [hnew, List.findSome?_cons, hitem ha]
    exact h

/-- The program asks for no balances. -/
abbrev Unaccounted (m : Asking α) : Prop := m.All Ask.unaccounted

namespace Unaccounted

theorem call {c : Call γ} (hc : c.unaccounted) : Unaccounted (call c) := .perform hc

theorem theStore : Unaccounted theStore := .perform trivial

theorem preflight (rules : SymbolRules) (endpoint : Endpoint) (params : Params)
    (ids : List (Option ℤ)) (list : Bool) :
    Unaccounted (preflight rules endpoint params ids list) := call trivial

theorem priceOf (value : Scalar) : Unaccounted (priceOf value) := by
  unfold SpotSidecar.priceOf
  split
  · exact .bind .ensure fun _ => .pure
  · exact .raise
  · exact .raise

theorem currentPrice (symbol : Symbol) : Unaccounted (currentPrice symbol) :=
  .bind (call trivial) fun _ => priceOf _

theorem bestBid (symbol : Symbol) : Unaccounted (bestBid symbol) := by
  refine .bind (call trivial) fun book => ?_
  split
  · exact priceOf _
  · exact .raise

theorem entryPriceOf (row : TradeRow) (symbol : Symbol) :
    Unaccounted (entryPriceOf row symbol) := by
  unfold SpotSidecar.entryPriceOf
  split
  · exact .pure
  · exact currentPrice symbol

theorem factoryReplacement (mode : ProtectionMode) (rules : SymbolRules) (qty entry current : ℚ)
    (stopPrice : Option ℚ) (trailingDeltaBips : Option ℤ) : Unaccounted
      (factoryReplacement cfg mode rules qty entry current stopPrice trailingDeltaBips) := by
  unfold SpotSidecar.factoryReplacement
  refine .bind .ensure fun _ => ?_
  cases mode with
  | trailingOnly => exact .bind (call trivial) fun _ => .pure
  | fixedOco =>
    exact .bind (call trivial) fun _ => .bind (call trivial) fun _ => .bind (call trivial) fun _ =>
      .bind .ensure fun _ => .pure
  | ocoTrailing =>
    exact .bind (call trivial) fun _ => .bind (call trivial) fun _ => .bind (call trivial) fun _ =>
      .pure

theorem replacementFor (args : ConvertArgs) (c : Conversion) (held : ℚ) :
    Unaccounted (replacementFor cfg args c held) := by
  unfold SpotSidecar.replacementFor
  split
  · exact .bind (currentPrice _) fun _ => factoryReplacement _ _ _ _ _ _ _
  · exact .pure

end Unaccounted

/-- What is known before a SELL is stored: what is free, and what the rows record. -/
structure Informed (balances : Balances) (w : World σ) : Prop where
  noted : Noted w
  reads : Reads balances w

/-- Questions about anything else leave what is known. -/
theorem Unaccounted.keeps {m : Asking α} (hm : Unaccounted m) (balances : Balances) :
    Keeps (Ask.exec env) (Informed balances) m :=
  All.keeps hm fun a ha _ hw => ⟨hw.noted.ask a, hw.reads.ask ha⟩

/-- After the free balance is read. -/
theorem triple_freeBalance_informed (asset : Asset) :
    Triple (Ask.exec env) (fun _ => True) (freeBalance asset)
      (fun free w => ∃ balances, free = (balanceOf balances asset).1 ∧ Informed balances w)
      (fun _ _ => True) fun _ => True := by
  unfold freeBalance accountBalances
  refine Triple.bind (Q := Informed) ?_ fun balances => .pure fun w hw => ⟨balances, rfl, hw⟩
  refine Triple.bind (Q := fun account w => ∀ balances, account = some balances →
    Informed balances w) ?_ fun account => ?_
  · refine Triple.perform (fun _ _ => trivial) (fun w account w' _ heq balances hb => ?_)
      fun _ _ _ _ _ => trivial
    subst hb
    simp only [Ask.exec] at heq
    obtain ⟨hanswer, hworld⟩ := Prod.mk.inj heq
    rw [hanswer] at hworld
    obtain rfl : ({ w.note (.gotAccount balances) with
        env := (env.call _ .account w.env).2 } : World σ) = w' := hworld
    constructor
    · refine ⟨w.store, ?_, rfl⟩
      exact congrArg (fun es => es.head?.map (·.store)) (before_note w (.gotAccount balances))
    · exact congrArg (fun es => es.findSome? (·.item.balances?))
        (before_note w (.gotAccount balances))
  · cases account with
    | none => exact .raise fun _ _ => trivial
    | some balances => exact .pure fun w hw => hw balances rfl

/-- An answer about the rules of a symbol is noted. -/
theorem noted_symbolInfo {w : World σ} {symbol : Symbol} {info : SymbolInfo}
    (h : (env.call _ (.symbolInfo symbol) w.env).1 = .ok info) :
    Noted (Ask.exec env _ (.call (.symbolInfo symbol)) w).2 := by
  have hworld : (Ask.exec env _ (.call (.symbolInfo symbol)) w).2 =
      { w.note (.gotSymbolInfo info) with env := (env.call _ (.symbolInfo symbol) w.env).2 } := by
    simp only [Ask.exec, h]
    rfl
  rw [hworld]
  refine ⟨w.store, ?_, rfl⟩
  exact congrArg (fun es => es.head?.map (·.store)) (before_note w (.gotSymbolInfo info))

/-- After the rules are read. -/
theorem triple_rulesOf_noted (hsteps : env.Steps step) (pair : Pair) :
    Triple (Ask.exec env) (fun _ => True) (rulesOf cfg pair)
      (fun rules w => Noted w ∧ rules.step = step) (fun _ _ => True) fun _ => True := by
  unfold rulesOf
  refine Triple.bind Triple.top fun _ => ?_
  refine Triple.bind (Q := fun info w => Noted w ∧ info.stepSize = step) ?_ fun info => ?_
  · refine Triple.perform (fun _ _ => trivial) (fun w info w' _ heq => ?_) fun _ _ _ _ _ => trivial
    have hanswer : (env.call _ (.symbolInfo pair.symbol) w.env).1 = .ok info :=
      congrArg Prod.fst heq
    refine ⟨?_, hsteps _ _ _ hanswer⟩
    have hnoted := noted_symbolInfo hanswer
    rw [heq] at hnoted
    exact hnoted
  · have hkeeps : ∀ {β : Type} (m : Asking β), Triple (Ask.exec env)
        (fun w => Noted w ∧ info.stepSize = step) m (fun _ w => Noted w ∧ info.stepSize = step)
        (fun _ _ => True) fun _ => True := by
      intro β m
      refine (keeps_of_exec (fun a w (hw : Noted w ∧ info.stepSize = step) =>
        ⟨hw.1.ask a, hw.2⟩) m).conseq (fun _ hw => hw) (fun _ _ hw => hw) ?_ ?_
      · exact fun _ _ _ => trivial
      · exact fun _ _ => trivial
    refine Triple.bind (hkeeps _) fun _ => ?_
    split
    · exact .pure fun _ hw => hw
    · exact .raise fun _ _ => trivial

/-- The rules that were heard so far have the step, and the rows are noted since. -/
theorem keeps_infos (hsteps : env.Steps step) (m : Asking α) :
    Keeps env.hears (fun v => ∀ info ∈ v.2.infos, info.stepSize = step ∧ Noted v.1) m := by
  refine keeps_of_exec (fun a v hv info hinfo => ?_) m
  have hold : ∀ info ∈ v.2.infos, info.stepSize = step ∧ Noted (a.exec env _ v.1).2 :=
    fun info hinfo => ⟨(hv info hinfo).1, (hv info hinfo).2.ask a⟩
  cases a with
  | call c =>
    cases c with
    | symbolInfo symbol =>
      cases hanswer : (env.call _ (.symbolInfo symbol) v.1.env).1 with
      | error e =>
        simp only [watched, Readings.asked, Ask.exec, hanswer, Readings.heard] at hinfo
        exact hold info hinfo
      | ok answer =>
        simp only [watched, Readings.asked, Ask.exec, hanswer, Readings.heard] at hinfo
        obtain rfl | hinfo := List.mem_cons.mp hinfo
        · exact ⟨hsteps _ _ _ hanswer, noted_symbolInfo hanswer⟩
        · exact hold info hinfo
    | tickerPrice symbol =>
      have hsame :
          ∀ answer (r : Readings), (r.heard (.tickerPrice symbol) answer).infos = r.infos := by
        rintro (e | price) r <;> rfl
      exact hold info (hsame _ _ ▸ hinfo)
    | account =>
      have hsame : ∀ answer (r : Readings), (r.heard .account answer).infos = r.infos := by
        rintro (e | _ | balances) r <;> rfl
      exact hold info (hsame _ _ ▸ hinfo)
    | _ => exact hold info hinfo
  | _ => exact hold info hinfo

/-- A draft without a parent whose quantity is within what the row of its trade records. -/
theorem ready_alone {d : IntentDraft} {w : World σ} {qty : ℚ} {row : TradeRow} (hnoted : Noted w)
    (hparent : d.parentIntentId = none) (hqty : d.request.quantity = some qty) (hpos : 0 < qty)
    (hmultiple : Multiple step qty) (hfree : d.operation ≠ .replaceProtection →
      FreeBefore step (w.store.clock + 1) w.history qty)
    (hrow : w.store.trade d.tradeId = some row) (hle : qty ≤ row.recorded) : Ready step d w := by
  obtain ⟨s, hs, hrows⟩ := hnoted
  refine fun _ => ⟨qty, {
    quantity := hqty
    pos := hpos
    multiple := hmultiple
    root := fun _ => hparent
    free := hfree
    owned := ?_ }⟩
  refine ⟨((d.row 0).draft, w.store.clock + 1), .inr rfl, ?_, s, row, hs, ?_, hle⟩
  · unfold IntentDraft.FixedBy
    rw [show (d.row 0).draft.parentIntentId = none from hparent]
  · rw [Store.trade, hrows]
    exact hrow

/-- What the plan of a replacement was bounded by. -/
theorem Backed.plan_owned {w : World σ} (h : Backed step w) {plan : IntentDraft}
    (hplan : plan ∈ w.store.drafts) (hop : plan.operation = .replaceProtection)
    (hside : plan.request.side = some .sell) : ∃ stamp qty, (plan, stamp) ∈ w.store.stamped ∧
      plan.request.quantity = some qty ∧ Multiple step qty ∧
      OwnedBefore stamp w.history plan.tradeId qty := by
  obtain ⟨i, hi, rfl⟩ := List.mem_map.mp hplan
  have hmem : (i.draft, i.createdAt) ∈ w.store.stamped := List.mem_map_of_mem hi
  obtain ⟨qty, hsells⟩ := h.now.sells _ hmem hside
  obtain ⟨fixing, -, hfixed, howned⟩ := hsells.owned
  have hparent : i.draft.parentIntentId = none := hsells.root hop
  unfold IntentDraft.FixedBy at hfixed
  rw [hparent] at hfixed
  obtain rfl : fixing = (i.draft, i.createdAt) := hfixed
  exact ⟨i.createdAt, qty, hmem, hsells.quantity, hsells.multiple, howned⟩

/-- A draft under a plan, for no more than the plan. -/
theorem ready_child {d plan : IntentDraft} {w : World σ} {qty : ℚ} {balances : Balances}
    (hbacked : Backed step w) (hplan : plan ∈ w.store.drafts)
    (hop : plan.operation = .replaceProtection)
    (hside : d.request.side = some .sell → plan.request.side = some .sell)
    (hparent : d.parentIntentId = some plan.intentId) (htrade : plan.tradeId = d.tradeId)
    (hchild : d.operation ≠ .replaceProtection)
    (hqty : d.request.quantity = some qty) (hpos : 0 < qty) (hmultiple : Multiple step qty)
    (hle : ∀ q, plan.request.quantity = some q → qty ≤ q) (hreads : Reads balances w)
    (hfree : qty ≤ floorStep (balanceOf balances "BTC").1 step) : Ready step d w := by
  intro hsell
  obtain ⟨stamp, q, hmem, hq, -, s, row, hs, hrow, hrecorded⟩ :=
    hbacked.plan_owned hplan hop (hside hsell)
  refine ⟨qty, {
    quantity := hqty
    pos := hpos
    multiple := hmultiple
    root := fun h => absurd h hchild
    free := fun _ => ⟨balances, hreads, hfree⟩
    owned := ?_ }⟩
  refine ⟨(plan, stamp), .inl hmem, ?_, s, row, hs, htrade ▸ hrow, (hle q hq).trans hrecorded⟩
  unfold IntentDraft.FixedBy
  rw [show (d.row 0).draft.parentIntentId = some plan.intentId from hparent]
  exact ⟨rfl, htrade⟩

end asks
end SpotSidecar
