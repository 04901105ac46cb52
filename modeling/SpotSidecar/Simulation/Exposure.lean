import SpotSidecar.Safety.Exposure
import SpotSidecar.Safety.Fills
import SpotSidecar.Simulation.Process

/-! The shapes that the durable tables have while a simulated trade is
open: one row that the events may still change, and every other row closed. -/
namespace SpotSidecar

instance (s : Store) (id : TradeId) : Decidable (s.Admits id) :=
  inferInstanceAs (Decidable ((∀ row ∈ s.activeTradeRows, row.tradeId = id) ∧
    s.unresolvedIntents = []))

namespace Simulation
variable {s s' : Store} {id : TradeId} {pair : Pair} {L L' : TradeRow → Prop}

/-- No nonterminal trade and no unresolved intent: what `verify_flat_for_switch` asks of the
tables. -/
structure Flat (s : Store) : Prop where
  trades : s.activeTradeRows = []
  intents : s.unresolvedIntents = []

/-- No intent is unresolved, by its id. -/
def Settled (s : Store) : Prop := ∀ id i, s.intent id = some i → i.state.unresolved = false

theorem settled_iff : Settled s ↔ s.unresolvedIntents = [] := by
  simp only [Store.unresolvedIntents, List.filter_eq_nil_iff, Bool.not_eq_true]
  constructor
  · intro h i hi
    exact h i.intentId i (Store.intent_of_mem hi)
  · intro h id i hi
    exact h i (Store.intent_mem hi).1

/-- Every row but one is closed, and that one satisfies `L`. -/
structure Alone (L : TradeRow → Prop) (id : TradeId) (s : Store) : Prop where
  others : ∀ id' row, s.trade id' = some row → id' ≠ id → row.lifecycle.terminal = true
  own : ∃ row, s.trade id = some row ∧ row.updatedAt ≤ s.clock ∧ L row

theorem closed_iff : s.activeTradeRows = [] ↔
    ∀ id row, s.trade id = some row → row.lifecycle.terminal = true := by
  constructor
  · intro h id row hrow
    by_contra hopen
    have hmem : row ∈ s.activeTradeRows :=
      mem_activeTradeRows.mpr ⟨(Store.trade_mem hrow).1, by simpa using hopen⟩
    rw [h] at hmem
    cases hmem
  · intro h
    rw [List.eq_nil_iff_forall_not_mem]
    intro row hrow
    obtain ⟨hmem, hopen⟩ := mem_activeTradeRows.mp hrow
    have hclosed := h row.tradeId row (Store.trade_of_mem hmem)
    rw [hopen] at hclosed
    cases hclosed

theorem Alone.active (h : Alone L id s) {row : TradeRow} (hrow : row ∈ s.activeTradeRows) :
    s.trade id = some row := by
  obtain ⟨hmem, hopen⟩ := mem_activeTradeRows.mp hrow
  have htrade := Store.trade_of_mem hmem
  by_cases hid : row.tradeId = id
  · rw [← hid]
    exact htrade
  · have hclosed := h.others _ _ htrade hid
    rw [hopen] at hclosed
    cases hclosed

theorem Alone.admits (h : Alone L id s) (hsettled : Settled s) : s.Admits id := by
  constructor
  · intro row hrow
    exact (Store.trade_mem (h.active hrow)).2
  · exact settled_iff.mp hsettled

theorem Alone.mono (h : Alone L id s) (hL : ∀ row, L row → L' row) : Alone L' id s := by
  obtain ⟨hothers, row, hrow, hclock, hown⟩ := h
  exact ⟨hothers, row, hrow, hclock, hL row hown⟩

/-- A row that is closed leaves none open. -/
theorem Alone.closed (h : Alone L id s) (hL : ∀ row, L row → row.lifecycle.terminal = true) :
    s.activeTradeRows = [] := by
  rw [closed_iff]
  intro id' row hrow
  by_cases hid : id' = id
  · obtain ⟨own, hown, -, hlaw⟩ := h.own
    rw [hid, hown] at hrow
    exact Option.some.inj hrow ▸ hL own hlaw
  · exact h.others id' row hrow hid

/-- A write that leaves the trade rows and the side file as they are. -/
structure Spares (s s' : Store) : Prop where
  trades : s'.trades = s.trades
  data : s'.data = s.data
  clock : s.clock ≤ s'.clock

theorem Alone.spared (h : Alone L id s) (hspares : Spares s s') : Alone L id s' := by
  have htrade : ∀ id', s'.trade id' = s.trade id' := fun id' => by
    unfold Store.trade
    rw [hspares.trades]
  constructor
  · intro id' row hrow
    exact h.others id' row ((htrade id').symm.trans hrow)
  · obtain ⟨row, hrow, hstamp, hown⟩ := h.own
    exact ⟨row, (htrade id).trans hrow, hstamp.trans hspares.clock, hown⟩

theorem upsertTrade_data (s : Store) (id : TradeId) (pair : Pair) (f : TradeFields) :
    (s.upsertTrade id pair f).data = s.data := by
  unfold Store.upsertTrade
  split <;> rfl

theorem recordExchangeEvent_data (s : Store) (e : Event) :
    (s.recordExchangeEvent e).2.data = s.data := by
  unfold Store.recordExchangeEvent
  dsimp only
  split <;> rfl

theorem clock_upsertTrade (s : Store) (id : TradeId) (pair : Pair) (f : TradeFields) :
    (s.upsertTrade id pair f).clock = s.clock + 1 := by
  unfold Store.upsertTrade
  split <;> rfl

theorem Alone.upsert (h : Alone L id s) {f : TradeFields}
    (hL : ∀ row now, L row → L' (row.set f now)) : Alone L' id (s.upsertTrade id pair f) := by
  constructor
  · intro id' row hrow hid
    rw [Store.upsertTrade_trade, if_neg hid] at hrow
    exact h.others id' row hrow hid
  · obtain ⟨row, hrow, -, hown⟩ := h.own
    refine ⟨row.set f (s.clock + 1), ?_, ?_, hL row _ hown⟩
    · rw [Store.upsertTrade_trade, if_pos rfl, hrow]
      rfl
    · rw [clock_upsertTrade]
      exact le_refl _

theorem recordExchangeEvent_clock (s : Store) (e : Event) :
    s.clock ≤ (s.recordExchangeEvent e).2.clock := by
  unfold Store.recordExchangeEvent
  dsimp only
  split
  · exact le_refl _
  · exact Nat.le_succ _

/-- Events reopen no row. -/
theorem applyEvent_terminal {row : TradeRow} (h : row.lifecycle.terminal = true) (e : Event)
    (key : EventKey) (now : ℕ) : (applyEvent row e key now).lifecycle.terminal = true :=
  foldEvents_terminal [⟨key, e⟩] now h

theorem recordExchangeEvent_closed (h : ∀ row, s.trade id = some row →
    row.lifecycle.terminal = true)
    {e : Event} {row : TradeRow} (hrow : (s.recordExchangeEvent e).2.trade id = some row) :
    row.lifecycle.terminal = true := by
  rw [Store.recordExchangeEvent_trade] at hrow
  split at hrow
  · exact h row hrow
  · obtain ⟨old, hold, rfl⟩ := Option.map_eq_some_iff.mp hrow
    split
    · exact applyEvent_terminal (h old hold) ..
    · exact h old hold

theorem Alone.record (h : Alone L id s) {e : Event}
    (hL : ∀ row key now, L row → L (applyEvent row e key now)) :
    Alone L id (s.recordExchangeEvent e).2 := by
  constructor
  · intro id' row hrow hid
    exact recordExchangeEvent_closed (fun old hold => h.others id' old hold hid) hrow
  · obtain ⟨row, hrow, hstamp, hown⟩ := h.own
    by_cases hknown : s.events.any (·.key = e.key) = true
    · refine ⟨row, ?_, hstamp.trans (recordExchangeEvent_clock s e), hown⟩
      rw [Store.recordExchangeEvent_trade, if_pos hknown, hrow]
    · have htrade := Store.recordExchangeEvent_trade s e id
      rw [if_neg hknown, hrow, Option.map_some] at htrade
      refine ⟨_, htrade, ?_, ?_⟩
      · have hclock : (s.recordExchangeEvent e).2.clock = s.clock + 1 := by
          simp only [Store.recordExchangeEvent, if_neg hknown]
          rfl
        rw [hclock]
        split
        · exact le_refl _
        · exact hstamp.trans (Nat.le_succ _)
      · split
        · exact hL row _ _ hown
        · exact hown

theorem Settled.congr (h : Settled s) (hintents : s'.intents = s.intents) : Settled s' := by
  intro id i hi
  unfold Store.intent at hi
  rw [hintents] at hi
  exact h id i hi

/-- Every intent but one is resolved, and that one has the state. -/
structure Busy (intentId : IntentId) (state : IntentState) (s : Store) : Prop where
  others : ∀ id i, s.intent id = some i → id ≠ intentId → i.state.unresolved = false
  own : ∃ i, s.intent intentId = some i ∧ i.state = state

theorem Busy.congr {intentId : IntentId} {state : IntentState} (h : Busy intentId state s)
    (hintents : s'.intents = s.intents) : Busy intentId state s' := by
  have hintent : ∀ id, s'.intent id = s.intent id := fun id => by
    unfold Store.intent
    rw [hintents]
  constructor
  · intro id i hi
    exact h.others id i ((hintent id).symm.trans hi)
  · rw [hintent]
    exact h.own

theorem Settled.prepare (h : Settled s) {d : IntentDraft} (hnew : s.intent d.intentId = none)
    (hclose : d.closeParentIntentId = none) :
    ∃ s', s.prepareIntent d = .ok (true, s') ∧ Spares s s' ∧ Busy d.intentId .prepared s' := by
  have hprepare : s.prepareIntent d =
      .ok (true, s.tick.insertIntent (d.row (s.clock + 1)) (Store.tick_intent hnew)) := by
    unfold Store.prepareIntent
    rw [dif_pos hnew, hclose]
  refine ⟨_, hprepare, ⟨rfl, rfl, Nat.le_succ _⟩, ?_, d.row (s.clock + 1), ?_, rfl⟩
  · intro id i hi hid
    rw [Store.insertIntent_intent] at hi
    exact h id i ((if_neg hid).symm.trans hi)
  · rw [Store.insertIntent_intent]
    exact if_pos rfl

theorem Busy.mark {intentId : IntentId} (h : Busy intentId .prepared s) :
    ∃ s', s.markIntentSubmitting intentId = .ok s' ∧ Spares s s' ∧
      Busy intentId .submitting s' := by
  obtain ⟨i, hi, hstate⟩ := h.own
  have hmark : s.markIntentSubmitting intentId = .ok (s.tick.updateIntent intentId
      (Intent.marked (s.clock + 1)) (Intent.marked_intentId _)) := by
    unfold Store.markIntentSubmitting
    rw [if_pos (Store.any_prepared.mpr ⟨i, hi, hstate⟩)]
  have hintent : ∀ id, (s.tick.updateIntent intentId (Intent.marked (s.clock + 1))
      (Intent.marked_intentId _)).intent id =
      if id = intentId then (s.intent id).map (Intent.marked (s.clock + 1)) else s.intent id :=
    fun id => Store.updateIntent_intent ..
  refine ⟨_, hmark, ⟨rfl, rfl, Nat.le_succ _⟩, ?_, i.marked (s.clock + 1), ?_, ?_⟩
  · intro id j hj hid
    rw [hintent, if_neg hid] at hj
    exact h.others id j hj hid
  · rw [hintent, if_pos rfl, hi]
    rfl
  · simp [Intent.marked, hstate]

theorem Busy.finish {intentId : IntentId} {state state' : IntentState} (h : Busy intentId state s)
    (hfinished : state'.finished = true) (hresolved : state'.unresolved = false)
    (orderId listId : Ident) (error : Option String) :
    ∃ s', s.finishIntent intentId state' orderId listId error = .ok s' ∧ Spares s s' ∧
      Settled s' := by
  obtain ⟨i, hi, -⟩ := h.own
  have hany : (s.intents.any (·.intentId = intentId)) = true := by
    obtain ⟨hmem, hid⟩ := Store.intent_mem hi
    exact List.any_eq_true.mpr ⟨i, hmem, by simpa using hid⟩
  have hfinish : s.finishIntent intentId state' orderId listId error =
      .ok (s.tick.updateIntent intentId (Intent.finish state' orderId listId error (s.clock + 1))
        (Intent.finish_intentId _ _ _ _ _)) := by
    unfold Store.finishIntent
    rw [hfinished, Bool.not_true, if_neg Bool.false_ne_true, if_pos hany]
  refine ⟨_, hfinish, ⟨rfl, rfl, Nat.le_succ _⟩, ?_⟩
  intro id j hj
  have hintent : (s.tick.updateIntent intentId (Intent.finish state' orderId listId error
      (s.clock + 1)) (Intent.finish_intentId _ _ _ _ _)).intent id =
      if id = intentId then
        (s.intent id).map (Intent.finish state' orderId listId error (s.clock + 1))
      else s.intent id := Store.updateIntent_intent ..
  rw [hintent] at hj
  split at hj
  · obtain ⟨old, -, rfl⟩ := Option.map_eq_some_iff.mp hj
    exact hresolved
  · next hid => exact h.others id j hj hid

/-- The open row of a pair is the one that was written last. -/
theorem activeTradeForPair_latest {row : TradeRow} (hrow : row ∈ s.activeTradeRows)
    (hpair : row.pair = pair)
    (hlatest : ∀ r ∈ s.activeTradeRows, r ≠ row → r.updatedAt < row.updatedAt) :
    s.activeTradeForPair pair = some row := by
  have hmem : row ∈ s.activeTradeRows.filter (·.pair = pair) :=
    List.mem_filter.mpr ⟨hrow, by simpa using hpair⟩
  obtain ⟨init, last, hsplit⟩ : ∃ init last,
      s.activeTradeRows.filter (·.pair = pair) = init ++ [last] := by
    have hne : s.activeTradeRows.filter (·.pair = pair) ≠ [] := List.ne_nil_of_mem hmem
    exact ⟨_, _, (List.dropLast_append_getLast hne).symm⟩
  have hsorted : (s.activeTradeRows.filter (·.pair = pair)).Pairwise
      (·.updatedAt ≤ ·.updatedAt) := by
    apply List.Pairwise.filter
    exact List.pairwise_insertionSort _ _
  have hlast : last ∈ s.activeTradeRows := by
    have hin : last ∈ s.activeTradeRows.filter (·.pair = pair) := by simp [hsplit]
    exact (List.mem_filter.mp hin).1
  have heq : last = row := by
    by_contra hne
    have hlt := hlatest last hlast hne
    have hin : row ∈ init := by
      rw [hsplit] at hmem
      rcases List.mem_append.mp hmem with h | h
      · exact h
      · exact absurd (List.mem_singleton.mp h).symm hne
    rw [hsplit] at hsorted
    have hle : row.updatedAt ≤ last.updatedAt :=
      (List.pairwise_append.mp hsorted).2.2 row hin last (List.mem_singleton_self last)
    omega
  rw [Store.activeTradeForPair, hsplit, heq]
  simp

end Simulation
end SpotSidecar
