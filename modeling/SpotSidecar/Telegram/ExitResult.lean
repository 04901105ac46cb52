import SpotSidecar.Adapter.Requests
import SpotSidecar.Collections.Largest

/-! The gross result of an exit, read from the stored events of its orders. -/
namespace SpotSidecar.Telegram
open Largest

/-- What one order has sold so far, by one of its reports. -/
structure Fill where
  orderId : Ident
  qty : ℚ
  proceeds : ℚ
  stamp : ℚ
  deriving DecidableEq, Repr

structure ExitResult where
  pnl : ℚ
  exitQty : ℚ
  exitQuote : ℚ
  quoteAsset : Asset
  closed : ℚ
  feeBasis : String := "gross; fees excluded"
  deriving DecidableEq, Repr

/-- The panel's `dec`: a finite decimal, or nothing. -/
def dec : Scalar → Option ℚ
  | .num q => some q
  | _ => none

/-- A time above 10^10 is in milliseconds. -/
def stampOf (eventTime : Option ℤ) : ℚ :=
  let stamp : ℚ := eventTime.getD 0
  if 10000000000 < stamp then stamp / 1000 else stamp

/-- The fill that an event tells of, where the loop does not pass it over. -/
def fill? (e : Event) : Option Fill :=
  if e.side ≠ .sell then none
  else match dec e.cumulative, dec e.quote with
    | some qty, some proceeds =>
      if qty ≤ 0 ∨ proceeds < 0 then none
      else some {
        orderId := e.orderId
        qty := qty
        proceeds := proceeds
        stamp := stampOf e.eventTime }
    | _, _ => none

/-- A recorded order id that is not in `(None, "", 0, "0", -1, "-1")`. -/
def recordedId (id : Option ℤ) : Option ℤ := id.filter fun n => n ≠ 0 && n ≠ -1

/-- The orders of the trade's confirmed emergency exits. -/
def emergencyOrders (s : Store) (tradeId : TradeId) : Except Exc (List ℤ) :=
  let confirmed := s.intents.filter fun i =>
    i.tradeId = tradeId && i.operation = .emergencyExit && i.state = .confirmed
  ((confirmed.map (·.exchangeOrderId)).filter (·.truthy)).mapM (·.toInt)

/-- The `identifiers` of `exit_result`. -/
def exitOrders (s : Store) (trade : TradeRow) : Except Exc (Finset ℤ) := do
  let emergency ← emergencyOrders s trade.tradeId
  return ([trade.takeProfitOrderId, trade.stopOrderId].filterMap recordedId ++ emergency).toFinset

/-- The stored events of the orders, in the order they were recorded. -/
def exitEvents (s : Store) (orders : Finset ℤ) : List Event :=
  (s.events.map (·.event)).filter fun e => decide (∃ id ∈ orders, e.orderId = .int id)

/-- The loop over the events: an order's entry is replaced by one with no smaller quantity. -/
def fillsOf (events : List Event) : List Fill :=
  events.foldl (fun fills e =>
    match fill? e with
    | none => fills
    | some fill => keep Fill.orderId Fill.qty fills fill) []

def exitResult (s : Store) (trade : TradeRow) : Except Exc (Option ExitResult) := do
  let orders ← exitOrders s trade
  if orders = ∅ then return none
  else
    let fills := fillsOf (exitEvents s orders)
    match fills, trade.averageEntryPrice, trade.filledQuantity with
    | first :: rest, some entry, some expected =>
      let qty := (fills.map (·.qty)).sum
      let proceeds := (fills.map (·.proceeds)).sum
      if expected < qty then return none
      else return some {
        pnl := proceeds - entry * qty
        exitQty := qty
        exitQuote := proceeds
        quoteAsset := trade.pair.quote
        closed := (rest.map (·.stamp)).foldl max first.stamp }
    | _, _, _ => return none

theorem fill?_eq_some {e : Event} {fill : Fill} (h : fill? e = some fill) :
    e.side = .sell ∧ fill.orderId = e.orderId ∧ e.cumulative = .num fill.qty ∧
      e.quote = .num fill.proceeds ∧ 0 < fill.qty := by
  unfold fill? at h
  split at h
  · cases h
  · next hside =>
    have hside : e.side = .sell := by simpa using hside
    cases hqty : e.cumulative with
    | num qty =>
      cases hproceeds : e.quote with
      | num proceeds =>
        rw [hqty, hproceeds] at h
        simp only [dec] at h
        split at h
        · cases h
        · next hpos =>
          cases h
          have : 0 < qty := by
            by_contra hle
            exact hpos (.inl (not_lt.mp hle))
          exact ⟨hside, rfl, rfl, rfl, this⟩
      | _ => simp [hqty, hproceeds, dec] at h
    | _ => simp [hqty, dec] at h

theorem fill?_of_sell {e : Event} {qty proceeds : ℚ} (hside : e.side = .sell)
    (hqty : e.cumulative = .num qty) (hproceeds : e.quote = .num proceeds) (hpos : 0 < qty)
    (hnonneg : 0 ≤ proceeds) :
    ∃ fill, fill? e = some fill ∧ fill.orderId = e.orderId ∧ fill.qty = qty ∧
      fill.proceeds = proceeds := by
  refine ⟨⟨e.orderId, qty, proceeds, stampOf e.eventTime⟩, ?_, rfl, rfl, rfl⟩
  have hsound : ¬(qty ≤ 0 ∨ proceeds < 0) := by
    rintro (hle | hlt) <;> linarith
  simp [fill?, hside, hqty, hproceeds, dec, hsound]

theorem fillsOf_eq (events : List Event) :
    fillsOf events = largest Fill.orderId Fill.qty (events.filterMap fill?) := by
  unfold fillsOf largest
  rw [List.foldl_filterMap]
  congr 1
  funext fills e
  cases fill? e <;> rfl

theorem exitResult_eq_some {s : Store} {trade : TradeRow} {result : ExitResult}
    (h : exitResult s trade = .ok (some result)) :
    ∃ orders entry, exitOrders s trade = .ok orders ∧ trade.averageEntryPrice = some entry ∧
      result.pnl = ((fillsOf (exitEvents s orders)).map (·.proceeds)).sum -
        entry * ((fillsOf (exitEvents s orders)).map (·.qty)).sum := by
  unfold exitResult at h
  obtain ⟨orders, horders, h⟩ := except_bind_eq_ok.mp h
  split at h
  · cases h
  · dsimp only at h
    split at h
    · next hfills hentry hexpected =>
      split at h
      · cases h
      · cases h
        rw [← hfills] at *
        exact ⟨orders, _, horders, hentry, rfl⟩
    · cases h

/-! ### Reports of one history -/

/-- The SELL reports are true: each order has one history of fills, so that its quote total is a
function of its cumulative quantity. -/
structure SellsTold (quoteOf : Ident → ℚ → ℚ) (events : List Event) : Prop where
  unsold : ∀ id, quoteOf id 0 = 0
  told : ∀ e ∈ events, e.side = .sell → ∃ qty, 0 ≤ qty ∧ 0 ≤ quoteOf e.orderId qty ∧
    e.cumulative = .num qty ∧ e.quote = .num (quoteOf e.orderId qty)

/-- What an order has sold in the end: what its largest report says, and nothing where there is no
report. -/
def FinalFill (events : List Event) (id : ℤ) (qty proceeds : ℚ) : Prop :=
  ((∀ e ∈ events, e.orderId = .int id → e.side ≠ .sell) ∧ qty = 0 ∧ proceeds = 0) ∨
    ∃ e ∈ events, e.orderId = .int id ∧ e.side = .sell ∧ e.cumulative = .num qty ∧
      e.quote = .num proceeds ∧ ∀ other ∈ events, other.orderId = .int id → other.side = .sell →
        ∀ q, other.cumulative = .num q → q ≤ qty

/-- The REST form of a report carries the same totals. -/
theorem restEvent_totals {order : Report} {listId : Ident} {e : Event} {qty proceeds : Scalar}
    (h : restEvent order listId = .ok (some e)) (hqty : order.executedQty = qty)
    (hproceeds : order.cummulativeQuoteQty = proceeds) (hseen : qty ≠ .absent)
    (hquoted : proceeds ≠ .absent) :
    e.side = order.side ∧ .ok e.orderId = order.orderId.toInt.map Ident.int ∧
      e.cumulative = qty ∧ e.quote = proceeds := by
  have hdefault : ∀ {s : Scalar} (t : Scalar), s ≠ .absent → s.getD t = s := by
    intro s t hs
    cases s with
    | absent => exact absurd rfl hs
    | _ => rfl
  unfold restEvent at h
  split at h
  · cases h
  · obtain ⟨id, hid, h⟩ := except_bind_eq_ok.mp h
    cases h
    subst hqty hproceeds
    rw [hid]
    exact ⟨rfl, rfl, hdefault _ hseen, hdefault _ hquoted⟩

section told
variable {quoteOf : Ident → ℚ → ℚ} {events : List Event}

theorem SellsTold.determined (h : SellsTold quoteOf events) :
    Determined Fill.orderId Fill.qty Fill.proceeds (events.filterMap fill?) := by
  have hquote : ∀ a ∈ events.filterMap fill?, a.proceeds = quoteOf a.orderId a.qty := by
    intro a ha
    obtain ⟨e, he, hfill⟩ := List.mem_filterMap.mp ha
    obtain ⟨hside, hid, hqty, hproceeds, -⟩ := fill?_eq_some hfill
    obtain ⟨qty, -, -, hqty', hproceeds'⟩ := h.told e he hside
    obtain rfl : qty = a.qty := Scalar.num.inj (hqty'.symm.trans hqty)
    rw [hid]
    exact Scalar.num.inj (hproceeds.symm.trans hproceeds')
  intro a ha b hb hid hqty
  rw [hquote a ha, hquote b hb, hid, hqty]

/-- The largest report of an order is its largest fill. -/
theorem SellsTold.final (h : SellsTold quoteOf events) {id : ℤ} {qty proceeds : ℚ}
    (hfinal : FinalFill events id qty proceeds) :
    Final Fill.orderId Fill.qty Fill.qty (events.filterMap fill?) (.int id) qty ∧
      Final Fill.orderId Fill.qty Fill.proceeds (events.filterMap fill?) (.int id) proceeds := by
  have hnone : (∀ a ∈ events.filterMap fill?, a.orderId ≠ .int id) → qty = 0 → proceeds = 0 →
      Final Fill.orderId Fill.qty Fill.qty (events.filterMap fill?) (.int id) qty ∧
        Final Fill.orderId Fill.qty Fill.proceeds (events.filterMap fill?) (.int id) proceeds :=
    fun hno hqty hproceeds => ⟨.inl ⟨hno, hqty⟩, .inl ⟨hno, hproceeds⟩⟩
  obtain ⟨hno, hqty, hproceeds⟩ | ⟨e, he, hid, hside, hqty, hproceeds, hmax⟩ := hfinal
  · refine hnone ?_ hqty hproceeds
    intro a ha hkey
    obtain ⟨e, he, hfill⟩ := List.mem_filterMap.mp ha
    obtain ⟨hside, hid, -⟩ := fill?_eq_some hfill
    exact hno e he (hid.symm.trans hkey) hside
  · have hle : ∀ a ∈ events.filterMap fill?, a.orderId = .int id → a.qty ≤ qty := by
      intro a ha hkey
      obtain ⟨other, hother, hfill⟩ := List.mem_filterMap.mp ha
      obtain ⟨hsell, hotherId, hotherQty, -⟩ := fill?_eq_some hfill
      exact hmax other hother (hotherId.symm.trans hkey) hsell _ hotherQty
    obtain ⟨q, hnonneg, hquote, hq, hp⟩ := h.told e he hside
    rw [hqty] at hq
    rw [hproceeds] at hp
    cases hq
    cases hp
    obtain rfl | hpos := hnonneg.eq_or_lt'
    · apply hnone
      · intro a ha hkey
        obtain ⟨other, hother, hfill⟩ := List.mem_filterMap.mp ha
        obtain ⟨-, -, -, -, hpos⟩ := fill?_eq_some hfill
        have := hle a ha hkey
        linarith
      · rfl
      · exact h.unsold e.orderId
    · obtain ⟨fill, hfill, hfillId, hfillQty, hfillProceeds⟩ :=
        fill?_of_sell hside hqty hproceeds hpos hquote
      have hmem : fill ∈ events.filterMap fill? := List.mem_filterMap.mpr ⟨e, he, hfill⟩
      have hlargest : ∀ a ∈ events.filterMap fill?, a.orderId = .int id → a.qty ≤ fill.qty := by
        rw [hfillQty]
        exact hle
      have hkey : fill.orderId = .int id := hfillId.trans hid
      exact ⟨.inr ⟨fill, hmem, hkey, hfillQty.symm, hlargest⟩,
        .inr ⟨fill, hmem, hkey, hfillProceeds.symm, hlargest⟩⟩

/-- What an order has sold and for how much, by the identifier in its reports. -/
def totalsOf (final : ℤ → ℚ × ℚ) : Ident → ℚ × ℚ
  | .int id => final id
  | _ => (0, 0)

/-- The sums over the fills are the sums of what the orders have sold in the end. -/
theorem SellsTold.sums (h : SellsTold quoteOf events) {orders : Finset ℤ}
    (hevents : ∀ e ∈ events, ∃ id ∈ orders, e.orderId = .int id) {final : ℤ → ℚ × ℚ}
    (hfinal : ∀ id ∈ orders, FinalFill events id (final id).1 (final id).2) :
    ((fillsOf events).map (·.qty)).sum = ∑ id ∈ orders, (final id).1 ∧
      ((fillsOf events).map (·.proceeds)).sum = ∑ id ∈ orders, (final id).2 := by
  let ident : ℤ ↪ Ident := ⟨Ident.int, fun _ _ hsame => Ident.int.inj hsame⟩
  have hkeys : ∀ a ∈ events.filterMap fill?, a.orderId ∈ orders.map ident := by
    intro a ha
    obtain ⟨e, he, hfill⟩ := List.mem_filterMap.mp ha
    obtain ⟨-, hid, -⟩ := fill?_eq_some hfill
    obtain ⟨id, hmem, heq⟩ := hevents e he
    exact Finset.mem_map.mpr ⟨id, hmem, (hid.trans heq).symm⟩
  have htotals : ∀ k ∈ orders.map ident,
      Final Fill.orderId Fill.qty Fill.qty (events.filterMap fill?) k (totalsOf final k).1 ∧
        Final Fill.orderId Fill.qty Fill.proceeds (events.filterMap fill?) k
          (totalsOf final k).2 := by
    intro k hk
    obtain ⟨id, hmem, rfl⟩ := Finset.mem_map.mp hk
    exact h.final (hfinal id hmem)
  have hlargest : Of Fill.orderId Fill.qty (events.filterMap fill?)
      (largest Fill.orderId Fill.qty (events.filterMap fill?)) := of_largest _
  have hqty : Determined Fill.orderId Fill.qty Fill.qty (events.filterMap fill?) :=
    fun _ _ _ _ _ hrank => hrank
  rw [fillsOf_eq]
  constructor
  · rw [hlargest.sum hqty hkeys fun k hk => (htotals k hk).1, Finset.sum_map]
    rfl
  · rw [hlargest.sum h.determined hkeys fun k hk => (htotals k hk).2, Finset.sum_map]
    rfl

/-- The order and the number of the reports do not matter to the sums. -/
theorem SellsTold.sums_congr (h : SellsTold quoteOf events) {events' : List Event}
    (hmem : ∀ e, e ∈ events' ↔ e ∈ events) :
    ((fillsOf events').map (·.qty)).sum = ((fillsOf events).map (·.qty)).sum ∧
      ((fillsOf events').map (·.proceeds)).sum = ((fillsOf events).map (·.proceeds)).sum ∧
      (fillsOf events' = [] ↔ fillsOf events = []) := by
  have hfills : ∀ a, a ∈ events.filterMap fill? ↔ a ∈ events'.filterMap fill? := by
    intro a
    simp only [List.mem_filterMap, hmem]
  have hlargest : Of Fill.orderId Fill.qty (events.filterMap fill?)
      (largest Fill.orderId Fill.qty (events.filterMap fill?)) := of_largest _
  have hlargest' : Of Fill.orderId Fill.qty (events'.filterMap fill?)
      (largest Fill.orderId Fill.qty (events'.filterMap fill?)) := of_largest _
  have hperm := hlargest.perm hlargest' hfills h.determined
  rw [fillsOf_eq, fillsOf_eq]
  refine ⟨?_, ?_, ?_⟩
  · have := (hperm.map fun t => t.2.1).sum_eq
    simpa [List.map_map, Function.comp_def] using this.symm
  · have := (hperm.map fun t => t.2.2).sum_eq
    simpa [List.map_map, Function.comp_def] using this.symm
  · have := hperm.length_eq
    simp only [List.length_map] at this
    rw [← List.length_eq_zero_iff, ← List.length_eq_zero_iff, this]

end told

theorem mem_exitEvents {s : Store} {orders : Finset ℤ} {e : Event} (h : e ∈ exitEvents s orders) :
    ∃ id ∈ orders, e.orderId = .int id := by
  simpa using (List.mem_filter.mp h).2

/-- Another store with the same reports of the orders, in another order or more often, gives the
same gross result. -/
theorem exitResult_congr {s s' : Store} {trade : TradeRow} {result : ExitResult}
    {orders : Finset ℤ} {quoteOf : Ident → ℚ → ℚ} (horders : exitOrders s trade = .ok orders)
    (horders' : exitOrders s' trade = .ok orders)
    (htold : SellsTold quoteOf (exitEvents s orders))
    (hmem : ∀ e, e ∈ exitEvents s' orders ↔ e ∈ exitEvents s orders)
    (hresult : exitResult s trade = .ok (some result)) :
    ∃ result', exitResult s' trade = .ok (some result') ∧ result'.pnl = result.pnl := by
  obtain ⟨hqty, hproceeds, hnil⟩ := htold.sums_congr hmem
  unfold exitResult at hresult ⊢
  rw [horders] at hresult
  rw [horders']
  dsimp only [Bind.bind, Except.bind] at hresult ⊢
  split at hresult
  · cases hresult
  · next hsome =>
    rw [if_neg hsome]
    split at hresult
    · next first rest entry expected hfills hentry hexpected =>
      cases hfills' : fillsOf (exitEvents s' orders) with
      | nil =>
        rw [hnil.mp hfills'] at hfills
        cases hfills
      | cons first' rest' =>
        rw [hfills, hfills'] at hqty hproceeds
        rw [hfills] at hresult
        rw [hentry, hexpected]
        dsimp only at hresult ⊢
        rw [hqty, hproceeds]
        split at hresult
        · cases hresult
        · next hsold =>
          cases hresult
          rw [if_neg hsold]
          exact ⟨_, rfl, rfl⟩
    · cases hresult

/-- Whenever `exit_result` returns a value on true reports, its gross profit is what the orders have
sold for in the end, less what that much was bought for; and it stays so in whatever order the
reports are stored, and however often. -/
theorem gross_of_fills (s : Store) (trade : TradeRow) (orders : Finset ℤ)
    (quoteOf : Ident → ℚ → ℚ) (result : ExitResult) (final : ℤ → ℚ × ℚ)
    (horders : exitOrders s trade = .ok orders)
    (htold : SellsTold quoteOf (exitEvents s orders))
    (hfinal : ∀ id ∈ orders, FinalFill (exitEvents s orders) id (final id).1 (final id).2)
    (hresult : exitResult s trade = .ok (some result)) :
    (∃ entry, trade.averageEntryPrice = some entry ∧
        result.pnl = ∑ id ∈ orders, (final id).2 - entry * ∑ id ∈ orders, (final id).1) ∧
      ∀ s' : Store, exitOrders s' trade = .ok orders →
        (∀ e, e ∈ exitEvents s' orders ↔ e ∈ exitEvents s orders) →
        ∃ result', exitResult s' trade = .ok (some result') ∧ result'.pnl = result.pnl := by
  constructor
  · obtain ⟨orders', entry, horders', hentry, hpnl⟩ := exitResult_eq_some hresult
    rw [horders] at horders'
    cases horders'
    obtain ⟨hqty, hproceeds⟩ := htold.sums (fun e he => mem_exitEvents he) hfinal
    refine ⟨entry, hentry, ?_⟩
    rw [hpnl, hqty, hproceeds]
  · intro s' horders' hmem
    exact exitResult_congr horders horders' htold hmem hresult

/-- A stop that filled in part, reported twice by the stream and once by REST, and the emergency
exit of the rest. -/
def stoppedEvents : List Event :=
  let stream (id : ℤ) (qty quote : ℚ) : Event := {
    eventType := .executionReport
    orderId := .int id
    eventTime := some 1788700000000
    side := .sell
    cumulative := .num qty
    quote := .num quote }
  let rest := (restEvent {
    orderId := .int 9
    side := .sell
    status := .canceled
    executedQty := .num 0.4
    cummulativeQuoteQty := .num 44
    updateTime := 1788700000001 } .absent).toOption.join
  [stream 9 0.4 44, stream 9 0.2 22, stream 10 0.6 66] ++ rest.toList

def stoppedStore : Store where
  intents := [{
    intentId := 0
    operation := .emergencyExit
    tradeId := "pnl"
    symbol := "BTCUSDC"
    endpoint := .order
    request := { symbol := "BTCUSDC" }
    requestSha256 := 0
    state := .confirmed
    exchangeOrderId := .int 10 }]
  intents_nodup := by decide
  events := stoppedEvents.map fun e => ⟨e.key, e⟩

def stoppedTrade : TradeRow where
  tradeId := "pnl"
  pair := ⟨"BTC", "USDC"⟩
  takeProfitOrderId := some 8
  stopOrderId := some 9
  averageEntryPrice := some 100
  filledQuantity := some 1

def stoppedResult : ExitResult where
  pnl := 10
  exitQty := 1
  exitQuote := 110
  quoteAsset := "USDC"
  closed := 1788700000001 / 1000

def stoppedFinal : ℤ → ℚ × ℚ
  | 9 => (0.4, 44)
  | 10 => (0.6, 66)
  | _ => (0, 0)

theorem gross_of_fills_stopped :
    exitResult stoppedStore stoppedTrade = .ok (some stoppedResult) ∧
      ∃ entry, stoppedTrade.averageEntryPrice = some entry ∧
        stoppedResult.pnl = ∑ id ∈ {8, 9, 10}, (stoppedFinal id).2 -
          entry * ∑ id ∈ {8, 9, 10}, (stoppedFinal id).1 := by
  have hresult : exitResult stoppedStore stoppedTrade = .ok (some stoppedResult) := by
    decide +kernel
  have hevents : exitEvents stoppedStore {8, 9, 10} = stoppedEvents := by decide +kernel
  have htold : SellsTold (fun _ qty => 110 * qty) (exitEvents stoppedStore {8, 9, 10}) := by
    rw [hevents]
    constructor
    · intro id
      exact mul_zero 110
    · intro e he _
      have hnum : ∀ e ∈ stoppedEvents, e.cumulative = .num 0.4 ∧ e.quote = .num 44 ∨
          e.cumulative = .num 0.2 ∧ e.quote = .num 22 ∨
            e.cumulative = .num 0.6 ∧ e.quote = .num 66 := by decide +kernel
      obtain ⟨hqty, hquote⟩ | ⟨hqty, hquote⟩ | ⟨hqty, hquote⟩ := hnum e he
      all_goals
        refine ⟨_, ?_, ?_, hqty, hquote.trans ?_⟩
        all_goals norm_num
  have hfinal : ∀ id ∈ ({8, 9, 10} : Finset ℤ),
      FinalFill (exitEvents stoppedStore {8, 9, 10}) id (stoppedFinal id).1
        (stoppedFinal id).2 := by
    rw [hevents]
    have hlargest : ∀ other ∈ stoppedEvents,
        other.orderId = .int 9 ∧ (other.cumulative = .num 0.4 ∨ other.cumulative = .num 0.2) ∨
          other.orderId = .int 10 ∧ other.cumulative = .num 0.6 := by decide +kernel
    have hnine : ∃ e ∈ stoppedEvents, e.orderId = .int 9 ∧ e.side = .sell ∧
        e.cumulative = .num 0.4 ∧ e.quote = .num 44 := by decide +kernel
    have hten : ∃ e ∈ stoppedEvents, e.orderId = .int 10 ∧ e.side = .sell ∧
        e.cumulative = .num 0.6 ∧ e.quote = .num 66 := by decide +kernel
    intro id hid
    obtain rfl | rfl | rfl : id = 8 ∨ id = 9 ∨ id = 10 := by simpa using hid
    · refine .inl ⟨?_, rfl, rfl⟩
      intro e he height
      obtain ⟨hother, -⟩ | ⟨hother, -⟩ := hlargest e he <;> simp [hother] at height
    · obtain ⟨e, he, hside, hsell, hqty, hquote⟩ := hnine
      refine .inr ⟨e, he, hside, hsell, hqty, hquote, ?_⟩
      intro other hother hid _ q hq
      obtain ⟨-, hnum | hnum⟩ | ⟨hten, -⟩ := hlargest other hother
      · exact (Scalar.num.inj (hq.symm.trans hnum)).le
      · rw [Scalar.num.inj (hq.symm.trans hnum)]
        norm_num [stoppedFinal]
      · simp [hten] at hid
    · obtain ⟨e, he, hside, hsell, hqty, hquote⟩ := hten
      refine .inr ⟨e, he, hside, hsell, hqty, hquote, ?_⟩
      intro other hother hid _ q hq
      obtain ⟨hnine, -⟩ | ⟨-, hnum⟩ := hlargest other hother
      · simp [hnine] at hid
      · exact (Scalar.num.inj (hq.symm.trans hnum)).le
  exact ⟨hresult, (gross_of_fills stoppedStore stoppedTrade {8, 9, 10} (fun _ qty => 110 * qty)
    stoppedResult stoppedFinal (by decide +kernel) htold hfinal hresult).1⟩

end SpotSidecar.Telegram
