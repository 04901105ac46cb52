import Mathlib.Data.List.Induction
import SpotSidecar.Safety.Ledger

/-! Replaying recorded events over a row that has already taken them. -/
namespace SpotSidecar

/-- The lifecycles that events propose. -/
def Lifecycle.proposable : Lifecycle → Bool
  | .entryPartiallyFilled | .entryFilled | .entryRejected | .protectionActive | .exitFilled => true
  | _ => false

/-- A proposal that changes nothing any more. -/
def Lifecycle.Absorbs (old : Lifecycle) (new : Option Lifecycle) : Prop := old.advance new = old

instance (old : Lifecycle) (new : Option Lifecycle) : Decidable (old.Absorbs new) :=
  inferInstanceAs (Decidable (old.advance new = old))

namespace Lifecycle

theorem advance_rank {old : Lifecycle} (new : Option Lifecycle) (h : old ≠ .reconciled) :
    old.stateRank ≤ (old.advance new).stateRank := by
  cases new with
  | none => exact le_rfl
  | some new =>
    by_cases hguard : (!old.terminal &&
        (old = .reconciled || decide (old.stateRank ≤ new.stateRank))) = true
    · have hrank : old.stateRank ≤ new.stateRank := by
        simpa [h] using (Bool.and_eq_true_iff.mp hguard).2
      rw [advance, if_pos hguard]
      exact hrank
    · rw [advance, if_neg hguard]

theorem absorbs_advance (old : Lifecycle) {new : Lifecycle} (hnew : new.proposable = true) :
    (old.advance (some new)).Absorbs (some new) := by
  cases new <;> simp only [proposable, Bool.false_eq_true] at hnew <;> cases old <;> decide

/-- What is absorbed stays absorbed. -/
theorem Absorbs.advance {old new new' : Lifecycle} (hnew : new.proposable = true)
    (hnew' : new'.proposable = true) (h : old.Absorbs (some new)) :
    (old.advance (some new')).Absorbs (some new) := by
  cases new <;> simp only [proposable, Bool.false_eq_true] at hnew <;>
    cases new' <;> simp only [proposable, Bool.false_eq_true] at hnew' <;>
      cases old <;> revert h <;> decide

/-- Taking the proposals in their order. -/
def advanceAll (old : Lifecycle) (proposals : List (Option Lifecycle)) : Lifecycle :=
  proposals.foldl advance old

variable {proposals : List (Option Lifecycle)}

theorem advanceAll_absorbs (old : Lifecycle)
    (h : ∀ p ∈ proposals, ∀ l, p = some l → l.proposable = true) :
    ∀ p ∈ proposals, (old.advanceAll proposals).Absorbs p := by
  induction proposals using List.reverseRecOn with
  | nil =>
    intro p hp
    cases hp
  | append_singleton init last ih =>
    have hinit : ∀ p ∈ init, ∀ l, p = some l → l.proposable = true :=
      fun p hp => h p (List.mem_append_left _ hp)
    have hlast := h last (List.mem_append_right _ (List.mem_singleton_self last))
    have hsplit : old.advanceAll (init ++ [last]) = (old.advanceAll init).advance last := by
      rw [advanceAll, List.foldl_append]
      rfl
    intro p hp
    rw [hsplit]
    cases last with
    | none =>
      rcases List.mem_append.mp hp with hp | hp
      · exact ih hinit p hp
      · rw [List.mem_singleton.mp hp]
        rfl
    | some new =>
      rcases List.mem_append.mp hp with hp | hp
      · cases p with
        | none => rfl
        | some l => exact (ih hinit _ hp).advance (hinit _ hp l rfl) (hlast new rfl)
      · rw [List.mem_singleton.mp hp]
        exact absorbs_advance _ (hlast new rfl)

theorem advanceAll_eq_self {old : Lifecycle} (h : ∀ p ∈ proposals, old.Absorbs p) :
    old.advanceAll proposals = old := by
  induction proposals with
  | nil => rfl
  | cons p proposals ih =>
    have hp : old.advance p = old := h p List.mem_cons_self
    rw [advanceAll, List.foldl_cons, hp]
    exact ih fun q hq => h q (List.mem_cons_of_mem p hq)

theorem advanceAll_twice (old : Lifecycle)
    (h : ∀ p ∈ proposals, ∀ l, p = some l → l.proposable = true) :
    (old.advanceAll proposals).advanceAll proposals = old.advanceAll proposals :=
  advanceAll_eq_self (advanceAll_absorbs old h)

end Lifecycle

namespace Event

/-- The lifecycle an event proposes, whatever the row is. -/
def proposal (e : Event) : Option Lifecycle :=
  match e.eventType with
  | .executionReport => e.proposes
  | _ => none

theorem eventUpdates_lifecycle (row : TradeRow) (e : Event) :
    (eventUpdates row e).lifecycle = e.proposal := by
  unfold eventUpdates proposal
  cases e.eventType <;> rfl

theorem proposal_proposable {e : Event} {l : Lifecycle} (h : e.proposal = some l) :
    l.proposable = true := by
  unfold proposal at h
  split at h
  · unfold proposes at h
    split at h
    · split_ifs at h <;> cases h <;> rfl
    · split_ifs at h <;> cases h <;> rfl
    · cases h
  · cases h

end Event

section twice
variable {es : List StoredEvent} {now now' : ℕ} {row : TradeRow}

theorem foldEvents_concat (e : StoredEvent) :
    foldEvents (es ++ [e]) now row = applyEvent (foldEvents es now row) e.event e.key now := by
  rw [foldEvents, List.foldl_append]
  rfl

theorem foldEvents_lifecycle (es : List StoredEvent) (now : ℕ) (row : TradeRow) :
    (foldEvents es now row).lifecycle =
      row.lifecycle.advanceAll (es.map (·.event.proposal)) := by
  induction es generalizing row with
  | nil => rfl
  | cons e es ih =>
    have hhead : (applyEvent row e.event e.key now).lifecycle =
        row.lifecycle.advance e.event.proposal := by
      rw [← Event.eventUpdates_lifecycle row]
      rfl
    calc (foldEvents (e :: es) now row).lifecycle
        = (applyEvent row e.event e.key now).lifecycle.advanceAll (es.map (·.event.proposal)) :=
          ih _
      _ = row.lifecycle.advanceAll ((e :: es).map (·.event.proposal)) := by
          rw [hhead]
          rfl

theorem foldEvents_lifecycle_twice :
    (foldEvents es now' (foldEvents es now row)).lifecycle = (foldEvents es now row).lifecycle := by
  rw [foldEvents_lifecycle, foldEvents_lifecycle]
  apply Lifecycle.advanceAll_twice
  intro p hp l hl
  obtain ⟨e, -, rfl⟩ := List.mem_map.mp hp
  exact Event.proposal_proposable hl

/-- A column that takes the last value it is given keeps it when the events come again. -/
theorem foldEvents_column_twice {β : Type} {column : TradeRow → Option β}
    (value : StoredEvent → Option β)
    (h : ∀ row e now, column (applyEvent row e.event e.key now) = (value e).or (column row)) :
    column (foldEvents es now' (foldEvents es now row)) = column (foldEvents es now row) := by
  have hlast : ∀ now row, column (foldEvents es now row) =
      (es.foldl (fun acc e => (value e).or acc) none).or (column row) := by
    intro now row
    induction es using List.reverseRecOn with
    | nil => rfl
    | append_singleton es e ih =>
      rw [foldEvents_concat, h, ih, ← Option.or_assoc, List.foldl_append]
      rfl
  rw [hlast, hlast, ← Option.or_assoc, Option.or_self]

/-- Only the status depends on the row, and on nothing but its lifecycle. -/
theorem eventUpdates_congr (row row' : TradeRow) (e : Event) :
    eventUpdates row e = { eventUpdates row' e with
      reconciliationStatus := (eventUpdates row e).reconciliationStatus } := by
  unfold eventUpdates
  cases e.eventType <;> rfl

theorem eventUpdates_status {row row' : TradeRow} {e : Event}
    (h : e.eventType = .listStatus → row.lifecycle = row'.lifecycle) :
    (eventUpdates row e).reconciliationStatus = (eventUpdates row' e).reconciliationStatus := by
  unfold eventUpdates
  cases htype : e.eventType with
  | executionReport => rfl
  | listStatus =>
    show e.listUpdateStatus row.lifecycle = e.listUpdateStatus row'.lifecycle
    rw [h htype]
  | other text => rfl

/-- The status is that of the last event, which finds the lifecycle it found before: a list status
proposes none, so that the row it comes to has already taken all that the others propose. -/
theorem foldEvents_status_twice :
    (foldEvents es now' (foldEvents es now row)).reconciliationStatus =
      (foldEvents es now row).reconciliationStatus := by
  induction es using List.reverseRecOn with
  | nil => rfl
  | append_singleton es e _ =>
    have hfirst : foldEvents (es ++ [e]) now row =
        applyEvent (foldEvents es now row) e.event e.key now := foldEvents_concat e
    rw [foldEvents_concat e, hfirst]
    apply congrArg some
    apply eventUpdates_status
    intro hlist
    have hsame : (applyEvent (foldEvents es now row) e.event e.key now).lifecycle =
        (foldEvents es now row).lifecycle := by
      have hnone : (eventUpdates (foldEvents es now row) e.event).lifecycle = none := by
        rw [Event.eventUpdates_lifecycle, Event.proposal, hlist]
      show (foldEvents es now row).lifecycle.advance _ = _
      rw [hnone]
      rfl
    rw [foldEvents_lifecycle, hsame, ← foldEvents_lifecycle es now' (foldEvents es now row)]
    exact foldEvents_lifecycle_twice

/-- The columns that events never set. -/
theorem foldEvents_frame (es : List StoredEvent) (now : ℕ) (row : TradeRow) :
    foldEvents es now row = { row with
      lifecycle := (foldEvents es now row).lifecycle
      filledQuantity := (foldEvents es now row).filledQuantity
      averageEntryPrice := (foldEvents es now row).averageEntryPrice
      protectedQuantity := (foldEvents es now row).protectedQuantity
      commissionAsset := (foldEvents es now row).commissionAsset
      lastExchangeEventId := (foldEvents es now row).lastExchangeEventId
      lastEventTime := (foldEvents es now row).lastEventTime
      reconciliationStatus := (foldEvents es now row).reconciliationStatus
      updatedAt := (foldEvents es now row).updatedAt } := by
  induction es generalizing row with
  | nil => rfl
  | cons e es ih =>
    rw [show foldEvents (e :: es) now row =
      foldEvents es now (applyEvent row e.event e.key now) from rfl, ih]
    rfl

/-- The row without the two times that a replay takes from the clock. -/
def TradeRow.untimed (row : TradeRow) : TradeRow :=
  { row with lastEventTime := none, updatedAt := 0 }

/-- What an event leaves in `last_exchange_event_id`. -/
def StoredEvent.ref (e : StoredEvent) : EventRef :=
  match e.event.rawEventId with
  | some r => .raw r
  | none => .key e.key

theorem foldEvents_twice (es : List StoredEvent) (now now' : ℕ) (row : TradeRow) :
    (foldEvents es now' (foldEvents es now row)).untimed = (foldEvents es now row).untimed := by
  have hlifecycle : (foldEvents es now' (foldEvents es now row)).lifecycle =
      (foldEvents es now row).lifecycle := foldEvents_lifecycle_twice
  have hstatus : (foldEvents es now' (foldEvents es now row)).reconciliationStatus =
      (foldEvents es now row).reconciliationStatus := foldEvents_status_twice
  have hfilled : (foldEvents es now' (foldEvents es now row)).filledQuantity =
      (foldEvents es now row).filledQuantity :=
    foldEvents_column_twice (fun e => (eventUpdates row e.event).filledQuantity)
      fun row' e _ => by rw [eventUpdates_congr row row' e.event]; rfl
  have hprotected : (foldEvents es now' (foldEvents es now row)).protectedQuantity =
      (foldEvents es now row).protectedQuantity :=
    foldEvents_column_twice (fun e => (eventUpdates row e.event).protectedQuantity)
      fun row' e _ => by rw [eventUpdates_congr row row' e.event]; rfl
  have haverage : (foldEvents es now' (foldEvents es now row)).averageEntryPrice =
      (foldEvents es now row).averageEntryPrice :=
    foldEvents_column_twice (fun e => (eventUpdates row e.event).averageEntryPrice)
      fun row' e _ => by rw [eventUpdates_congr row row' e.event]; rfl
  have hcommission : (foldEvents es now' (foldEvents es now row)).commissionAsset =
      (foldEvents es now row).commissionAsset :=
    foldEvents_column_twice (fun e => (eventUpdates row e.event).commissionAsset)
      fun row' e _ => by rw [eventUpdates_congr row row' e.event]; rfl
  have hid : (foldEvents es now' (foldEvents es now row)).lastExchangeEventId =
      (foldEvents es now row).lastExchangeEventId :=
    foldEvents_column_twice (fun e => some e.ref) fun _ _ _ => rfl
  rw [foldEvents_frame es now' (foldEvents es now row), TradeRow.untimed, TradeRow.untimed,
    hlifecycle, hstatus, hfilled, hprotected, haverage, hcommission, hid]

/-- The events that a replay selects are chosen by columns that no event sets. -/
theorem replayed_foldEvents (s : Store) (selected : List StoredEvent) :
    s.replayed (foldEvents selected now row) = s.replayed row := by
  have hselects : ∀ e, Store.replaySelects (foldEvents selected now row) e =
      Store.replaySelects row e := by
    intro e
    rw [foldEvents_frame]
    rfl
  unfold Store.replayed
  simp only [hselects]

end twice

namespace Store

theorem replay_events (s : Store) (id : TradeId) :
    (s.replayExchangeEventsForTrade id).2.events = s.events := by
  unfold replayExchangeEventsForTrade
  split <;> rfl

theorem replay_trade {s : Store} {id : TradeId} {row : TradeRow} (h : s.trade id = some row) :
    s.replayExchangeEventsForTrade id = ((s.replayed row).length,
        s.tick.updateTrade id (foldEvents (s.replayed row) (s.clock + 1))
          (foldEvents_tradeId (s.replayed row) _)) ∧
      (s.replayExchangeEventsForTrade id).2.trade id =
        some (foldEvents (s.replayed row) (s.clock + 1) row) := by
  have hreplay : s.replayExchangeEventsForTrade id = ((s.replayed row).length,
      s.tick.updateTrade id (foldEvents (s.replayed row) (s.clock + 1))
        (foldEvents_tradeId (s.replayed row) _)) := by
    unfold replayExchangeEventsForTrade
    rw [h]
  constructor
  · exact hreplay
  · have hrow : s.tick.trade id = some row := h
    rw [hreplay, updateTrade_trade, if_pos rfl, hrow]
    rfl

/-- A second replay gives the row of the first, the two times taken from the clock apart, and no
event lowers the rank of a row that is not RECONCILED. -/
theorem replay_idempotent (s : Store) (id : TradeId) :
    (((s.replayExchangeEventsForTrade id).2.replayExchangeEventsForTrade id).2.trade id).map
        TradeRow.untimed =
      ((s.replayExchangeEventsForTrade id).2.trade id).map TradeRow.untimed ∧
    ∀ (row : TradeRow) (e : Event) (key : EventKey) (now : ℕ), row.lifecycle ≠ .reconciled →
      row.lifecycle.stateRank ≤ (applyEvent row e key now).lifecycle.stateRank := by
  constructor
  · cases hrow : s.trade id with
    | none =>
      have hsame : s.replayExchangeEventsForTrade id = (0, s) := by
        unfold replayExchangeEventsForTrade
        rw [hrow]
      rw [hsame, hsame]
    | some row =>
      obtain ⟨-, hfirst⟩ := replay_trade hrow
      obtain ⟨-, hsecond⟩ := replay_trade hfirst
      have hselected : (s.replayExchangeEventsForTrade id).2.replayed
          (foldEvents (s.replayed row) (s.clock + 1) row) = s.replayed row := by
        rw [replayed_foldEvents, replayed, replay_events]
        rfl
      rw [hsecond, hfirst, hselected, Option.map_some, Option.map_some, foldEvents_twice]
  · intro row e key now hrow
    exact Lifecycle.advance_rank _ hrow

end Store
end SpotSidecar
