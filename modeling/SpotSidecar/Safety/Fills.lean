import SpotSidecar.Safety.Rows
import Mathlib.Data.List.Chain

/-! The recorded fill of a trade under the reports of its entry order. -/
namespace SpotSidecar

/-- A well-formed BUY report of one entry order. All reports tell of one fill history, so the
quote total is a function of the cumulative quantity. -/
structure EntryReport (symbol : Symbol) (orderId : ℤ) (quoteOf : ℚ → ℚ) (e : Event) : Prop where
  type : e.eventType = .executionReport
  symbol : e.symbol = some symbol
  order : e.orderId = .int orderId
  side : e.side = .buy
  cumulative : e.cumulative = .num e.executed
  quote : e.quote = .num (quoteOf e.executed)
  quote_nonneg : 0 ≤ quoteOf e.executed

/-- The reports that are recorded of those that are delivered: the first under each key. -/
def fresh (known : List EventKey) : List Event → List Event
  | [] => []
  | e :: es => if e.key ∈ known then fresh known es else e :: fresh (known ++ [e.key]) es

namespace Store

def eventKeys (s : Store) : List EventKey := s.events.map (·.key)

def recordExchangeEvents (s : Store) (es : List Event) : Store :=
  es.foldl (fun s e => (s.recordExchangeEvent e).2) s

/-- The quantity that the row of a trade records as bought. -/
def filled (s : Store) (id : TradeId) : ℚ := ((s.trade id).bind (·.filledQuantity)).getD 0

/-- At no delivery does the recorded quantity decrease. -/
def NeverDecreases (s : Store) (id : TradeId) (es : List Event) : Prop :=
  ∀ k, (s.recordExchangeEvents (es.take k)).filled id ≤
    (s.recordExchangeEvents (es.take (k + 1))).filled id

/-- The row ends with the quantity and the average of the report with the largest quantity. -/
def EndsAtLargest (s : Store) (id : TradeId) (quoteOf : ℚ → ℚ) (es : List Event) : Prop :=
  ∀ m ∈ es, (∀ e ∈ es, e.executed ≤ m.executed) →
    ∃ row, (s.recordExchangeEvents es).trade id = some row ∧
      row.filledQuantity = some m.executed ∧
      (0 < m.executed → row.averageEntryPrice = some (quoteOf m.executed / m.executed))

theorem eventKeys_recordExchangeEvent (s : Store) (e : Event) :
    (s.recordExchangeEvent e).2.eventKeys =
      if e.key ∈ s.eventKeys then s.eventKeys else s.eventKeys ++ [e.key] := by
  have hknown : s.events.any (·.key = e.key) = true ↔ e.key ∈ s.eventKeys := by
    simp [eventKeys]
  unfold recordExchangeEvent
  by_cases h : e.key ∈ s.eventKeys
  · rw [if_pos h, if_pos (hknown.mpr h)]
  · rw [if_neg h, if_neg (fun hk => h (hknown.mp hk))]
    simp [eventKeys, mapTrades]

end Store

section reports
variable {symbol : Symbol} {orderId : ℤ} {quoteOf : ℚ → ℚ} {e : Event}

theorem Event.executed_nonneg (e : Event) : 0 ≤ e.executed := by
  unfold executed Scalar.nonneg?
  split
  · split
    · assumption
    · exact le_rfl
  · exact le_rfl
  · exact le_rfl
  · exact le_rfl

theorem Event.executed_congr {e e' : Event} (h : e.key = e'.key) : e.executed = e'.executed := by
  have hcumulative : e.cumulative = e'.cumulative := congrArg EventKey.cumulative h
  unfold executed
  rw [hcumulative]

theorem EntryReport.filledQuantity (h : EntryReport symbol orderId quoteOf e) (row : TradeRow)
    (key : EventKey) (now : ℕ) : (applyEvent row e key now).filledQuantity = some e.executed := by
  have hmissing : e.cumulative.isMissing = false := by
    rw [h.cumulative]
    rfl
  simp [applyEvent, eventUpdates, h.type, h.side, hmissing]

theorem EntryReport.averageEntryPrice (h : EntryReport symbol orderId quoteOf e) (row : TradeRow)
    (key : EventKey) (now : ℕ) (hpos : 0 < e.executed) :
    (applyEvent row e key now).averageEntryPrice = some (quoteOf e.executed / e.executed) := by
  have hmissing : e.quote.isMissing = false := by
    rw [h.quote]
    rfl
  have hquote : e.quote.nonneg? = some (quoteOf e.executed) := by
    rw [h.quote]
    exact if_pos h.quote_nonneg
  simp [applyEvent, eventUpdates, h.type, h.side, hmissing, hquote, hpos]

/-- A row of the entry order matches its reports. -/
structure TradeRow.Enters (row : TradeRow) (symbol : Symbol) (orderId : ℤ) : Prop where
  symbol : row.pair.symbol = symbol
  order : row.entryOrderId = some orderId
  standalone : orderId ≠ -1

theorem TradeRow.Enters.matches {row : TradeRow} (h : row.Enters symbol orderId)
    (he : EntryReport symbol orderId quoteOf e) :
    row.matchesEvent e.orderId e.orderListId e.symbol = true := by
  rw [TradeRow.matchesEvent_iff]
  constructor
  · rw [he.symbol, h.symbol]
  · refine ⟨orderId, TradeRow.mem_common.mpr (.inl ⟨he.order, .inl ?_⟩), h.standalone⟩
    rw [h.order]
    rfl

theorem TradeRow.Enters.applied {row : TradeRow} (h : row.Enters symbol orderId) (e : Event)
    (key : EventKey) (now : ℕ) : (applyEvent row e key now).Enters symbol orderId :=
  ⟨h.symbol, h.order, h.standalone⟩

/-- What one delivery does to the row: nothing if the report is known. -/
theorem trade_recordExchangeEvent {s : Store} {id : TradeId} {row : TradeRow}
    (hrow : s.trade id = some row) (hentry : row.Enters symbol orderId)
    (he : EntryReport symbol orderId quoteOf e) :
    (s.recordExchangeEvent e).2.trade id =
      some (if e.key ∈ s.eventKeys then row else applyEvent row e e.key (s.clock + 1)) := by
  have hknown : s.events.any (·.key = e.key) = true ↔ e.key ∈ s.eventKeys := by
    simp [Store.eventKeys]
  have hmatch := hentry.matches he
  rw [s.recordExchangeEvent_trade e id, hrow]
  by_cases h : e.key ∈ s.eventKeys
  · rw [if_pos (hknown.mpr h), if_pos h]
  · rw [if_neg (fun hk => h (hknown.mp hk)), if_neg h, Option.map_some, if_pos hmatch]

end reports

section runs
variable {symbol : Symbol} {orderId : ℤ} {quoteOf : ℚ → ℚ} {s : Store} {id : TradeId}
  {row : TradeRow} {es : List Event}

theorem filled_of_trade (hrow : s.trade id = some row) :
    s.filled id = row.filledQuantity.getD 0 := by
  rw [Store.filled, hrow]
  rfl

/-- One delivery at a time. -/
theorem neverDecreases_cons {e : Event} : s.NeverDecreases id (e :: es) ↔
    s.filled id ≤ (s.recordExchangeEvent e).2.filled id ∧
      (s.recordExchangeEvent e).2.NeverDecreases id es := by
  constructor
  · intro h
    exact ⟨h 0, fun k => h (k + 1)⟩
  · intro h k
    cases k with
    | zero => exact h.1
    | succ k => exact h.2 k

/-- The recorded quantity never decreases exactly when the recorded reports come in the order of
their quantities. -/
theorem neverDecreases_iff (hrow : s.trade id = some row) (hentry : row.Enters symbol orderId)
    (hes : ∀ e ∈ es, EntryReport symbol orderId quoteOf e) :
    s.NeverDecreases id es ↔
      (s.filled id :: (fresh s.eventKeys es).map (·.executed)).IsChain (· ≤ ·) := by
  induction es generalizing s row with
  | nil =>
    constructor
    · intro _
      exact List.isChain_singleton _
    · intro _ k
      simp [Store.recordExchangeEvents]
  | cons e es ih =>
    have he := hes e List.mem_cons_self
    have hstep := trade_recordExchangeEvent hrow hentry he
    have hkeys := s.eventKeys_recordExchangeEvent e
    have hrest : ∀ e ∈ es, EntryReport symbol orderId quoteOf e :=
      fun x hx => hes x (List.mem_cons_of_mem _ hx)
    rw [neverDecreases_cons]
    by_cases hknown : e.key ∈ s.eventKeys
    · rw [if_pos hknown] at hstep hkeys
      have hfilled : (s.recordExchangeEvent e).2.filled id = s.filled id := by
        rw [filled_of_trade hstep, filled_of_trade hrow]
      rw [ih hstep hentry hrest, hkeys, hfilled, fresh, if_pos hknown]
      exact and_iff_right le_rfl
    · rw [if_neg hknown] at hstep hkeys
      have hfilled : (s.recordExchangeEvent e).2.filled id = e.executed := by
        rw [filled_of_trade hstep, he.filledQuantity]
        rfl
      rw [ih hstep (hentry.applied _ _ _) hrest, hkeys, hfilled, fresh, if_neg hknown,
        List.map_cons, List.isChain_cons_cons]

/-- The row records what the report tells. -/
structure TradeRow.Shows (row : TradeRow) (quoteOf : ℚ → ℚ) (e : Event) : Prop where
  quantity : row.filledQuantity = some e.executed
  average : 0 < e.executed → row.averageEntryPrice = some (quoteOf e.executed / e.executed)

/-- The row ends as the last report that was recorded has it. -/
theorem shows_recordExchangeEvents (hrow : s.trade id = some row)
    (hentry : row.Enters symbol orderId) (hes : ∀ e ∈ es, EntryReport symbol orderId quoteOf e) :
    ∃ row', (s.recordExchangeEvents es).trade id = some row' ∧
      (fresh s.eventKeys es = [] ∧ row' = row ∨
        ∃ last ∈ (fresh s.eventKeys es).getLast?, row'.Shows quoteOf last) := by
  induction es generalizing s row with
  | nil => exact ⟨row, hrow, .inl ⟨rfl, rfl⟩⟩
  | cons e es ih =>
    have he := hes e List.mem_cons_self
    have hstep := trade_recordExchangeEvent hrow hentry he
    have hkeys := s.eventKeys_recordExchangeEvent e
    have hrest : ∀ e ∈ es, EntryReport symbol orderId quoteOf e :=
      fun x hx => hes x (List.mem_cons_of_mem _ hx)
    by_cases hknown : e.key ∈ s.eventKeys
    · rw [if_pos hknown] at hstep hkeys
      have hrun := ih hstep hentry hrest
      rw [hkeys] at hrun
      rw [fresh, if_pos hknown]
      exact hrun
    · rw [if_neg hknown] at hstep hkeys
      obtain ⟨row', hrow', hrun⟩ := ih hstep (hentry.applied _ _ _) hrest
      rw [hkeys] at hrun
      rw [fresh, if_neg hknown]
      refine ⟨row', hrow', .inr ?_⟩
      rcases hrun with ⟨hnil, hsame⟩ | ⟨last, hlast, hshows⟩
      · rw [hnil, hsame]
        exact ⟨e, rfl, he.filledQuantity _ _ _, he.averageEntryPrice _ _ _⟩
      · refine ⟨last, ?_, hshows⟩
        rw [Option.mem_def] at hlast ⊢
        rw [List.getLast?_cons, hlast]
        rfl

theorem fresh_subset (known : List EventKey) (es : List Event) : fresh known es ⊆ es := by
  induction es generalizing known with
  | nil => exact List.Subset.refl _
  | cons e es ih =>
    unfold fresh
    split
    · exact List.subset_cons_of_subset _ (ih _)
    · exact List.cons_subset_cons _ (ih _)

/-- Every report is known or has the key of one that is recorded. -/
theorem exists_fresh (known : List EventKey) {e : Event} (h : e ∈ es) (hnew : e.key ∉ known) :
    ∃ f ∈ fresh known es, f.key = e.key := by
  induction es generalizing known with
  | nil => simp at h
  | cons x es ih =>
    unfold fresh
    rcases List.mem_cons.mp h with rfl | h
    · rw [if_neg hnew]
      exact ⟨e, List.mem_cons_self, rfl⟩
    · by_cases hx : x.key ∈ known
      · rw [if_pos hx]
        exact ih known h hnew
      · rw [if_neg hx]
        by_cases heq : x.key = e.key
        · exact ⟨x, List.mem_cons_self, heq⟩
        · have hnew' : e.key ∉ known ++ [x.key] := by
            simp [hnew, Ne.symm heq]
          obtain ⟨f, hf, hkey⟩ := ih (known ++ [x.key]) h hnew'
          exact ⟨f, List.mem_cons_of_mem _ hf, hkey⟩

/-- When the recorded reports come in the order of their quantities, the last is the largest. -/
theorem endsAtLargest_of_isChain (hrow : s.trade id = some row)
    (hentry : row.Enters symbol orderId) (hes : ∀ e ∈ es, EntryReport symbol orderId quoteOf e)
    (hnew : ∀ e ∈ es, e.key ∉ s.eventKeys)
    (hchain : ((fresh s.eventKeys es).map (·.executed)).IsChain (· ≤ ·)) :
    s.EndsAtLargest id quoteOf es := by
  intro m hm hmax
  obtain ⟨f, hf, hkey⟩ := exists_fresh s.eventKeys hm (hnew m hm)
  obtain ⟨row', hrow', hrun⟩ := shows_recordExchangeEvents hrow hentry hes
  rcases hrun with ⟨hnil, -⟩ | ⟨last, hlast, hshows⟩
  · rw [hnil] at hf
    simp at hf
  · have hmem : last ∈ es := fresh_subset _ _ (List.mem_of_mem_getLast? hlast)
    have hle : f.executed ≤ last.executed := by
      obtain ⟨init, hinit⟩ := List.getLast?_eq_some_iff.mp hlast
      rw [hinit] at hf hchain
      rcases List.mem_append.mp hf with hf | hf
      · rw [List.isChain_iff_pairwise, List.map_append, List.pairwise_append] at hchain
        exact hchain.2.2 _ (List.mem_map_of_mem hf) _ (List.mem_map_of_mem List.mem_cons_self)
      · rw [List.mem_singleton.mp hf]
    have heq : last.executed = m.executed := by
      have hupper := hmax last hmem
      have hsame := Event.executed_congr hkey
      linarith
    refine ⟨row', hrow', ?_, ?_⟩
    · rw [hshows.quantity, heq]
    · rw [← heq]
      exact hshows.average

end runs

/-- Over all deliveries of the reports of one entry order, repeats included: the row never records
less than before and ends with the largest report, exactly when the reports that are not repeats
come in the order of their quantities. -/
theorem fill_order_iff {symbol : Symbol} {orderId : ℤ} {quoteOf : ℚ → ℚ} {s : Store} {id : TradeId}
    {row : TradeRow} {es : List Event} (hrow : s.trade id = some row)
    (hentry : row.Enters symbol orderId) (hbought : row.filledQuantity.getD 0 = 0)
    (hes : ∀ e ∈ es, EntryReport symbol orderId quoteOf e)
    (hnew : ∀ e ∈ es, e.key ∉ s.eventKeys) :
    s.NeverDecreases id es ∧ s.EndsAtLargest id quoteOf es ↔
      ((fresh s.eventKeys es).map (·.executed)).IsChain (· ≤ ·) := by
  have hzero : s.filled id = 0 := by
    rw [filled_of_trade hrow, hbought]
  have hiff : s.NeverDecreases id es ↔
      ((fresh s.eventKeys es).map (·.executed)).IsChain (· ≤ ·) := by
    rw [neverDecreases_iff hrow hentry hes, hzero]
    cases hfresh : fresh s.eventKeys es with
    | nil => simp
    | cons e rest =>
      rw [List.map_cons, List.isChain_cons_cons]
      exact and_iff_right e.executed_nonneg
  rw [hiff, and_iff_left_iff_imp]
  exact endsAtLargest_of_isChain hrow hentry hes hnew

namespace Fills

/-- A store with a trade whose entry order has the id 7. -/
def entered : Store :=
  ({} : Store).upsertTrade "t1" ⟨"BTC", "USDT"⟩
    { lifecycle := some .entrySubmitted, entryOrderId := some (some 7) }

/-- A report of the entry order: so much is bought, at a price of 100. -/
def report (status : OrderStatus) (cumulative : Scalar) (time : ℤ) : Event where
  eventType := .executionReport
  symbol := some "BTCUSDT"
  orderId := .int 7
  eventTime := some time
  side := .buy
  status := status
  orderType := .limit
  cumulative := cumulative
  quote := match cumulative with
    | .num q => .num (q * 100)
    | _ => .absent

theorem entryReport_report (status : OrderStatus) {q : ℚ} (hq : 0 ≤ q) (time : ℤ) :
    EntryReport "BTCUSDT" 7 (· * 100) (report status (.num q) time) := by
  have hexecuted : (report status (.num q) time).executed = q := by
    simp [report, Event.executed, Scalar.nonneg?, hq]
  constructor <;> try rfl
  · rw [hexecuted]
    rfl
  · rw [hexecuted]
    rfl
  · rw [hexecuted]
    positivity

end Fills

theorem fill_order_iff_in_order :
    let es := [Fills.report .partiallyFilled (.num 1) 1, Fills.report .filled (.num 2) 2]
    Fills.entered.NeverDecreases "t1" es ∧ Fills.entered.EndsAtLargest "t1" (· * 100) es ↔
      ((fresh Fills.entered.eventKeys es).map (·.executed)).IsChain (· ≤ ·) := by
  refine fill_order_iff rfl ⟨rfl, rfl, by decide⟩ rfl (fun e he => ?_) fun e _ => List.not_mem_nil
  rcases List.mem_cons.mp he with rfl | he
  · exact Fills.entryReport_report _ (by norm_num) _
  · rw [List.mem_singleton.mp he]
    exact Fills.entryReport_report _ (by norm_num) _

/-- The report of the whole fill overtakes the report of its first half. -/
theorem fill_order_overtaken :
    let es := [Fills.report .filled (.num 2) 2, Fills.report .partiallyFilled (.num 1) 1]
    ¬(Fills.entered.NeverDecreases "t1" es ∧ Fills.entered.EndsAtLargest "t1" (· * 100) es) := by
  rintro es ⟨hnever, -⟩
  have hdecreases : ¬(Fills.entered.recordExchangeEvents (es.take 1)).filled "t1" ≤
      (Fills.entered.recordExchangeEvents (es.take 2)).filled "t1" := by
    decide +kernel
  exact hdecreases (hnever 1)

section malformed

theorem applyEvent_lifecycle (row : TradeRow) (e : Event) (key : EventKey) (now : ℕ) :
    (applyEvent row e key now).lifecycle =
      if e.eventType = .executionReport then row.lifecycle.advance e.proposes
        else row.lifecycle := by
  unfold applyEvent eventUpdates
  cases e.eventType <;> rfl

theorem Lifecycle.advance_eq_or (old : Lifecycle) (new : Option Lifecycle) :
    old.advance new = old ∨ new = some (old.advance new) := by
  unfold advance
  cases new with
  | none => exact .inl rfl
  | some l =>
    dsimp only
    split
    · exact .inr rfl
    · exact .inl rfl

end malformed
end SpotSidecar
