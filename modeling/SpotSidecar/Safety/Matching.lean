import SpotSidecar.Exchange.Desk
import SpotSidecar.Safety.Rows

/-! Which stored events belong to a trade: the rule of live matching beside the rule of replay. -/
namespace SpotSidecar

namespace TradeRow

/-- Everything the event and the row have in common is this one number. -/
def sharesOnly (row : TradeRow) (e : Event) (n : ℤ) : Prop :=
  row.common e ≠ [] ∧ ∀ m ∈ row.common e, m = n

end TradeRow

/-- The stored events that live matching would have given to the row. -/
def Store.matched (s : Store) (row : TradeRow) : List StoredEvent :=
  s.events.filter fun stored =>
    row.matchesEvent stored.event.orderId stored.event.orderListId stored.event.symbol

section rules
variable {row : TradeRow} {e : Event}

/-- On an event of its symbol the two rules agree unless all that the row shares with it is a
number that one of them passes over. -/
theorem TradeRow.rules_agree_iff :
    Store.replaySelects row e = row.matchesEvent e.orderId e.orderListId e.symbol ↔
      (e.symbol = some row.pair.symbol → ¬row.sharesOnly e (-1) ∧ ¬row.sharesOnly e 0) := by
  rw [Bool.eq_iff_iff, Store.replaySelects_iff, TradeRow.matchesEvent_iff, and_congr_right_iff]
  refine imp_congr_right fun _ => ?_
  have hsome : ∀ k, (∃ n ∈ row.common e, n ≠ k) ↔ ¬∀ n ∈ row.common e, n = k := by
    intro k
    simp
  rw [hsome, hsome, not_iff_not]
  unfold sharesOnly
  constructor
  · intro h
    constructor
    · rintro ⟨hne, hall⟩
      obtain ⟨n, hn⟩ := List.exists_mem_of_ne_nil _ hne
      have hn1 := hall n hn
      have hn0 := h.mpr hall n hn
      omega
    · rintro ⟨hne, hall⟩
      obtain ⟨n, hn⟩ := List.exists_mem_of_ne_nil _ hne
      have hn1 := h.mp hall n hn
      have hn0 := hall n hn
      omega
  · rintro ⟨hm, h0⟩
    by_cases hnil : row.common e = []
    · simp [hnil]
    · constructor
      · exact fun hall => absurd ⟨hnil, hall⟩ h0
      · exact fun hall => absurd ⟨hnil, hall⟩ hm

end rules

theorem filter_eq_filter_iff {α : Type} {p q : α → Bool} {l : List α} :
    l.filter p = l.filter q ↔ ∀ x ∈ l, p x = q x := by
  refine ⟨fun h x hx => ?_, List.filter_congr⟩
  have hmem : x ∈ l.filter p ↔ x ∈ l.filter q := by rw [h]
  rw [List.mem_filter, List.mem_filter, and_iff_right hx, and_iff_right hx] at hmem
  exact Bool.eq_iff_iff.mpr hmem

/-- Whatever was recorded before the ids of a row became known: replay applies to it the events
that live matching would have applied, exactly when with every event of its symbol the row
shares nothing or more than a sentinel. -/
theorem replay_applies_matched_iff (s : Store) (id : TradeId) :
    (s.replayExchangeEventsForTrade id).2.trade id =
      (s.trade id).map (fun row => foldEvents (s.replayed row) (s.clock + 1) row) ∧
    ∀ row, s.replayed row = s.matched row ↔
      ∀ stored ∈ s.events, stored.event.symbol = some row.pair.symbol →
        ¬row.sharesOnly stored.event (-1) ∧ ¬row.sharesOnly stored.event 0 := by
  refine ⟨s.replayExchangeEventsForTrade_trade id, fun row => ?_⟩
  unfold Store.replayed Store.matched
  rw [filter_eq_filter_iff]
  exact forall₂_congr fun _ _ => TradeRow.rules_agree_iff

/-- The owner of the account sells with an order of his own; like every standalone order it has
the list id -1. -/
def ownersSell : Event where
  eventType := .executionReport
  symbol := some "BTCUSDT"
  orderId := .int 900
  orderListId := .int (-1)
  side := .sell
  status := .filled
  orderType := .limit
  cumulative := .num 1
  originalQty := .num 1
  rawEventId := some (.number 7)

/-- The protection of a trade is converted to a standalone trailing stop after the owner has
sold: replay gives the owner's order to the trade, which live matching would not have done,
while the stop of the trade is open. -/
theorem replay_applies_foreign_event :
    let w := runSteps Desk.config Desk.env { script := [{ next := [.fill 2 1 0] }] }
      (Desk.opening ++ [Desk.whole (.orderUpdate ownersSell),
        Desk.whole (.convert "BTCUSDT" { mode := .trailingOnly })])
    ∃ row ∈ w.store.trade "t1",
      ownersSell ∈ (w.store.replayed row).map (·.event) ∧
      ownersSell ∉ (w.store.matched row).map (·.event) ∧
      w.env.orders.any (fun o => row.stopOrderId = some o.id && o.live) = true := by
  decide +kernel

end SpotSidecar
