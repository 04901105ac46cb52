import SpotSidecar.Safety.Ledger

/-! What the acts do to the row of one trade. -/
namespace SpotSidecar
open Interaction Prog

namespace TradeRow

/-- The numbers under which an event and a row name a common object. -/
def common (row : TradeRow) (e : Event) : List ℤ :=
  (e.orderId.column.toList.filter fun n =>
      n ∈ row.entryOrderId || n ∈ row.takeProfitOrderId || n ∈ row.stopOrderId) ++
    e.orderListId.column.toList.filter fun n => n ∈ row.orderListId

end TradeRow

theorem Ident.equals_iff {i : Ident} {column : Option ℤ} :
    i.equals column = true ↔ ∃ n, i = .int n ∧ n ∈ column := by
  rcases i with _ | _ | m | _ <;> simp [equals, Ident.column, eq_comm]

theorem mem_knownId {n : ℤ} {column : Option ℤ} : n ∈ knownId column ↔ n ∈ column ∧ n ≠ 0 := by
  simp [knownId, Option.filter_eq_some_iff]

section rules
variable {row : TradeRow} {e : Event}

theorem TradeRow.mem_common {n : ℤ} : n ∈ row.common e ↔
    (e.orderId = .int n ∧
      (n ∈ row.entryOrderId ∨ n ∈ row.takeProfitOrderId ∨ n ∈ row.stopOrderId)) ∨
    (e.orderListId = .int n ∧ n ∈ row.orderListId) := by
  have hcolumn : ∀ i : Ident, i.column = some n ↔ i = .int n := by
    rintro (_ | _ | m | _) <;> simp [Ident.column]
  simp [common, hcolumn, or_assoc]

theorem TradeRow.exists_common (p : ℤ → Prop) : (∃ n ∈ row.common e, p n) ↔
    (∃ n, (e.orderId = .int n ∧
      (n ∈ row.entryOrderId ∨ n ∈ row.takeProfitOrderId ∨ n ∈ row.stopOrderId)) ∧ p n) ∨
    ∃ n, (e.orderListId = .int n ∧ n ∈ row.orderListId) ∧ p n := by
  simp only [mem_common, or_and_right, exists_or]

/-- Live matching passes over the number -1 and no other. -/
theorem TradeRow.matchesEvent_iff : row.matchesEvent e.orderId e.orderListId e.symbol = true ↔
    e.symbol = some row.pair.symbol ∧ ∃ n ∈ row.common e, n ≠ -1 := by
  have hclause : ∀ (i : Ident) (p : ℤ → Prop), (∃ n, (i = .int n ∧ p n) ∧ n ≠ -1) ↔
      i.clause = true ∧ ∃ n, i = .int n ∧ p n := by
    rintro (_ | _ | m | _) p <;> simp [Ident.clause, and_comm]
  rw [exists_common, hclause, hclause]
  simp only [matchesEvent, Bool.and_eq_true, Bool.or_eq_true, decide_eq_true_eq, Ident.equals_iff,
    ← exists_or, ← and_or_left, or_assoc]

/-- Replay passes over the number 0 and no other. -/
theorem Store.replaySelects_iff : Store.replaySelects row e = true ↔
    e.symbol = some row.pair.symbol ∧ ∃ n ∈ row.common e, n ≠ 0 := by
  have horder : (replayOrderIds row).any (fun id => e.orderId.equals (some id)) = true ↔
      ∃ n, (e.orderId = .int n ∧
        (n ∈ row.entryOrderId ∨ n ∈ row.takeProfitOrderId ∨ n ∈ row.stopOrderId)) ∧ n ≠ 0 := by
    have hmem : ∀ n, n ∈ replayOrderIds row ↔
        (n ∈ row.entryOrderId ∨ n ∈ row.takeProfitOrderId ∨ n ∈ row.stopOrderId) ∧ n ≠ 0 := by
      intro n
      simp only [replayOrderIds, List.mem_filterMap, List.mem_cons, List.not_mem_nil, or_false,
        or_and_right, exists_or, exists_eq_left]
      exact or_congr mem_knownId (or_congr mem_knownId mem_knownId)
    rw [List.any_eq_true]
    constructor
    · rintro ⟨n, hn, heq⟩
      obtain ⟨m, hm, hmn⟩ := Ident.equals_iff.mp heq
      cases hmn
      exact ⟨n, ⟨hm, ((hmem n).mp hn).1⟩, ((hmem n).mp hn).2⟩
    · rintro ⟨n, ⟨hid, hrow⟩, hn⟩
      exact ⟨n, (hmem n).mpr ⟨hrow, hn⟩, Ident.equals_iff.mpr ⟨n, hid, rfl⟩⟩
  have hlist : ((knownId row.orderListId).isSome &&
      e.orderListId.equals (knownId row.orderListId)) = true ↔
      ∃ n, (e.orderListId = .int n ∧ n ∈ row.orderListId) ∧ n ≠ 0 := by
    rw [Bool.and_eq_true, Ident.equals_iff]
    constructor
    · rintro ⟨-, n, hid, hn⟩
      exact ⟨n, ⟨hid, (mem_knownId.mp hn).1⟩, (mem_knownId.mp hn).2⟩
    · rintro ⟨n, ⟨hid, hrow⟩, hn⟩
      have hknown := mem_knownId.mpr ⟨hrow, hn⟩
      exact ⟨Option.isSome_of_mem hknown, n, hid, hknown⟩
  rw [TradeRow.exists_common, ← horder, ← hlist]
  simp only [replaySelects, Bool.and_eq_true, Bool.or_eq_true, decide_eq_true_eq]

end rules

namespace Store

/-- A recorded event reaches the rows that match it, once. -/
theorem recordExchangeEvent_trade (s : Store) (e : Event) (id : TradeId) :
    (s.recordExchangeEvent e).2.trade id =
      if s.events.any (·.key = e.key) then s.trade id
      else (s.trade id).map fun row =>
        if row.matchesEvent e.orderId e.orderListId e.symbol then
          applyEvent row e e.key (s.clock + 1)
        else row := by
  unfold recordExchangeEvent
  dsimp only
  split
  · rfl
  · exact mapTrades_trade _ (fun row => by split <;> rfl) _

/-- Replay applies the selected events to its row. -/
theorem replayExchangeEventsForTrade_trade (s : Store) (id : TradeId) :
    (s.replayExchangeEventsForTrade id).2.trade id =
      (s.trade id).map fun row => foldEvents (s.replayed row) (s.clock + 1) row := by
  unfold replayExchangeEventsForTrade
  split
  · next h => simp [h]
  · next row h =>
    rw [updateTrade_trade, if_pos rfl]
    have htick : s.tick.trade id = s.trade id := rfl
    rw [htick, h]
    rfl

theorem replayExchangeEventsForTrade_other {s : Store} {id id' : TradeId} (h : id ≠ id') :
    (s.replayExchangeEventsForTrade id').2.trade id = s.trade id := by
  unfold replayExchangeEventsForTrade
  split
  · rfl
  · rw [updateTrade_trade, if_neg h]
    rfl

end Store

theorem map_foldEvents_nil (row : Option TradeRow) (now : ℕ) :
    row.map (foldEvents [] now) = row := by
  cases row <;> rfl

section acts
variable {σ γ : Type} {env : Env σ}

/-- Events that name an object the row records. -/
def TradeRow.Named (row : TradeRow) (events : List StoredEvent) : Prop :=
  ∀ stored ∈ events, row.common stored.event ≠ []

/-- Folding leaves the row of a trade as it was or folds events into it that name it. -/
theorem Fold.exec_trade (env : Env σ) (f : Fold γ) (w : World σ) (id : TradeId) :
    ∃ events, (f.exec env γ w).2.store.trade id =
      (w.store.trade id).map (foldEvents events (w.store.clock + 1)) ∧
      ∀ row ∈ w.store.trade id, row.Named events := by
  have hsame : ∀ s : Store, s.trade id = w.store.trade id →
      ∃ events, s.trade id = (w.store.trade id).map (foldEvents events (w.store.clock + 1)) ∧
        ∀ row ∈ w.store.trade id, row.Named events := by
    intro s hs
    refine ⟨[], ?_, fun _ _ _ h => nomatch h⟩
    rw [hs]
    exact (map_foldEvents_nil _ _).symm
  cases f with
  | ask a =>
    have htrades := (Ask.exec_cases env a w).1
    exact hsame _ (congrArg (List.find? _) htrades)
  | recordExchangeEvent e =>
    have hrow := w.store.recordExchangeEvent_trade e id
    split at hrow
    · exact hsame _ hrow
    · cases hr : w.store.trade id with
      | none => exact ⟨[], by rw [hr] at hrow; exact hrow, fun _ h => nomatch h⟩
      | some row =>
        rw [hr, Option.map_some] at hrow
        by_cases hm : row.matchesEvent e.orderId e.orderListId e.symbol = true
        · rw [if_pos hm] at hrow
          refine ⟨[⟨e.key, e⟩], hrow, ?_⟩
          rintro _ ⟨⟩ stored hs
          cases List.mem_singleton.mp hs
          obtain ⟨n, hn, -⟩ := (TradeRow.matchesEvent_iff.mp hm).2
          exact List.ne_nil_of_mem hn
        · rw [if_neg hm] at hrow
          exact ⟨[], hrow, fun _ _ _ h => nomatch h⟩
  | replayExchangeEventsForTrade id' =>
    by_cases hid : id = id'
    · subst hid
      have hrow := w.store.replayExchangeEventsForTrade_trade id
      cases hr : w.store.trade id with
      | none => exact ⟨[], by rw [hr] at hrow; exact hrow, fun _ h => nomatch h⟩
      | some row =>
        refine ⟨w.store.replayed row, by rw [hr] at hrow; exact hrow, ?_⟩
        rintro _ ⟨⟩ stored hs
        obtain ⟨n, hn, -⟩ := (Store.replaySelects_iff.mp (List.mem_filter.mp hs).2).2
        exact List.ne_nil_of_mem hn
    · exact hsame _ (w.store.replayExchangeEventsForTrade_other hid)

/-- Whether an act writes the columns of a trade. -/
def Act.upserts (id : TradeId) : Act γ → Prop
  | .upsertTrade id' _ _ => id' = id
  | _ => False

/-- An act that does not write the columns of a trade folds events into its row, if it
changes it at all. -/
theorem Act.exec_trade (env : Env σ) (a : Act γ) (w : World σ) (id : TradeId) (h : ¬a.upserts id) :
    ∃ events, (a.exec env γ w).2.store.trade id =
      (w.store.trade id).map (foldEvents events (w.store.clock + 1)) ∧
      ∀ row ∈ w.store.trade id, row.Named events := by
  have hsame : ∀ s : Store, s.trade id = w.store.trade id →
      ∃ events, s.trade id = (w.store.trade id).map (foldEvents events (w.store.clock + 1)) ∧
        ∀ row ∈ w.store.trade id, row.Named events :=
    fun s hs => ⟨[], hs.trans (map_foldEvents_nil _ _).symm, fun _ _ _ h => nomatch h⟩
  have htrades : ∀ s : Store, s.trades = w.store.trades → s.trade id = w.store.trade id :=
    fun s hs => congrArg (List.find? _) hs
  cases a with
  | fold f => exact Fold.exec_trade env f w id
  | prepareIntent d =>
    simp only [Act.exec]
    split
    · rcases Store.prepareIntent_cases ‹_› with ⟨-, rfl, -⟩ | ⟨-, -, ht, -⟩
      · exact hsame _ rfl
      · exact hsame _ (htrades _ ht)
    · exact hsame _ rfl
  | markIntentSubmitting id' =>
    simp only [Act.exec]
    split
    · exact hsame _ (htrades _ (Store.markIntentSubmitting_ok ‹_›).2.1)
    · exact hsame _ rfl
  | finishIntent id' state orderId listId error =>
    simp only [Act.exec]
    split
    · exact hsame _ (htrades _ (Store.finishIntent_ok ‹_›).2.1)
    · exact hsame _ rfl
  | upsertTrade id' pair f =>
    have hid : id ≠ id' := fun heq => h heq.symm
    refine hsame _ ?_
    change (w.store.upsertTrade id' pair f).trade id = _
    rw [Store.upsertTrade_trade, if_neg hid]
  | post p => exact hsame _ rfl

end acts
theorem Lifecycle.advance_of_terminal {old : Lifecycle} (h : old.terminal = true)
    (new : Option Lifecycle) : old.advance new = old := by
  cases new with
  | none => rfl
  | some l => simp [advance, h]

/-- Events open no closed row. -/
theorem foldEvents_terminal (events : List StoredEvent) (now : ℕ) {row : TradeRow}
    (h : row.lifecycle.terminal = true) :
    (foldEvents events now row).lifecycle.terminal = true := by
  induction events generalizing row with
  | nil => exact h
  | cons e events ih =>
    refine ih ?_
    change (row.lifecycle.advance _).terminal = true
    rw [Lifecycle.advance_of_terminal h]
    exact h

end SpotSidecar
