import SpotSidecar.Safety.Gate
import SpotSidecar.Safety.Orphans

/-! A protection of a filled entry that recovery finds again, however often it is asked to protect
the fill. -/
namespace SpotSidecar
open Interaction Prog
variable {σ α β γ : Type} {cfg : Config} {env : Env σ}

/-- Lifecycles from PROTECTION_ACTIVE on in which a row is open. -/
def Lifecycle.kept (l : Lifecycle) : Prop := l.terminal = false ∧ 5 ≤ l.stateRank

/-- Reports that close no row. -/
def Event.harmless (e : Event) : Prop := ∀ l, e.proposes = some l → l.terminal = false

theorem Lifecycle.kept_advance {old : Lifecycle} (h : old.kept) {new : Option Lifecycle}
    (hnew : ∀ l, new = some l → l.terminal = false) : (old.advance new).kept := by
  cases new with
  | none => exact h
  | some l =>
    unfold Lifecycle.advance
    dsimp only
    split
    · next htaken =>
      refine ⟨hnew l rfl, h.2.trans ?_⟩
      have hrank : old = .reconciled ∨ old.stateRank ≤ l.stateRank := by
        simpa using (Bool.and_eq_true_iff.mp htaken).2
      rcases hrank with rfl | hrank
      · exact absurd h.2 (by decide)
      · exact hrank
    · exact h

theorem kept_applyEvent {row : TradeRow} {e : Event} (h : row.lifecycle.kept) (he : e.harmless)
    (key : EventKey) (now : ℕ) : (applyEvent row e key now).lifecycle.kept := by
  refine Lifecycle.kept_advance h fun l hl => ?_
  unfold eventUpdates at hl
  dsimp only at hl
  split at hl
  · exact he l hl
  · cases hl
  · cases hl

theorem kept_foldEvents {events : List StoredEvent} (he : ∀ stored ∈ events, stored.event.harmless)
    (now : ℕ) {row : TradeRow} (h : row.lifecycle.kept) :
    (foldEvents events now row).lifecycle.kept := by
  induction events generalizing row with
  | nil => exact h
  | cons e events ih =>
    refine ih (fun stored hs => he stored (List.mem_cons_of_mem _ hs)) ?_
    exact kept_applyEvent h (he e List.mem_cons_self) _ _

/-- None of these rows has an earlier lifecycle. -/
theorem filter_kept {rows : List TradeRow} (hrows : ∀ row ∈ rows, row.lifecycle.kept)
    {l : Lifecycle} (hl : l.stateRank < 5) : rows.filter (·.lifecycle = l) = [] := by
  refine List.filter_eq_nil_iff.mpr fun row hrow hsame => ?_
  have heq : row.lifecycle = l := by simpa using hsame
  have hrank := (hrows row hrow).2
  rw [heq] at hrank
  omega

/-- A trade with what its row records of its entry and of its protection. -/
structure Holding where
  id : TradeId
  pair : Pair
  entry : ℤ
  list : Option ℤ
  takeProfit : Option ℤ
  stop : Option ℤ
  mode : Option ProtectionMode
  base : pair.base = "BTC"
  entry_ne : entry ≠ 0

namespace Holding
variable {h : Holding} {s s' : Store} {w : World σ}

/-- The row records these. -/
structure Of (h : Holding) (row : TradeRow) : Prop where
  pair : row.pair = h.pair
  entry : row.entryOrderId = some h.entry
  list : row.orderListId = h.list
  takeProfit : row.takeProfitOrderId = h.takeProfit
  stop : row.stopOrderId = h.stop
  mode : row.protectionMode = h.mode

/-- The event names an object of the trade. -/
def names (h : Holding) (e : Event) : Prop := ∀ row, h.Of row → row.common e ≠ []

/-- An unresolved intent that recovery settles without a request and without the trade rows: it
never reached its request, or it is a cancel. -/
def Settling (i : Intent) : Prop :=
  if i.state = .prepared then
    i.operation ≠ .entry ∧ i.operation ≠ .replaceProtection ∧
      ¬(i.operation = .protection ∧ i.parentIntentId.isSome = true)
  else (i.endpoint = .deleteOrderList ∨ i.endpoint = .deleteOrder) ∧ i.operation ≠ .emergencyExit

/-- The trade is the only open one, its protection is recorded, and nothing is half done that
recovery would complete by a request. -/
structure Secured (h : Holding) (s : Store) : Prop where
  symbols : ∀ q ∈ s.data.symbolPairs, q.2.symbol = q.1
  symbol : s.data.symbolPairs.lookup h.pair.symbol = some h.pair
  rows : ∀ k row, s.trade k = some row → row.lifecycle.terminal = false → k = h.id
  row : ∃ row, s.trade h.id = some row ∧ h.Of row ∧ row.lifecycle.kept
  ledger : ∀ k i, s.intent k = some i → i.state.unresolved = true → Settling i
  exits : ∀ k i, s.intent k = some i → i.tradeId = h.id → i.operation = .emergencyExit →
    i.state ≠ .confirmed
  events : ∀ stored ∈ s.events, h.names stored.event → stored.event.harmless

theorem Of.fold {row : TradeRow} (hrow : h.Of row) (events : List StoredEvent) (now : ℕ) :
    h.Of (foldEvents events now row) := by
  induction events generalizing row with
  | nil => exact hrow
  | cons e events ih =>
    exact ih ⟨hrow.pair, hrow.entry, hrow.list, hrow.takeProfit, hrow.stop, hrow.mode⟩

theorem Of.common_eq {row row' : TradeRow} (hrow : h.Of row) (hrow' : h.Of row') (e : Event) :
    row.common e = row'.common e := by
  unfold TradeRow.common
  rw [hrow.entry, hrow.takeProfit, hrow.stop, hrow.list, hrow'.entry, hrow'.takeProfit, hrow'.stop,
    hrow'.list]

theorem Of.names {row : TradeRow} (hrow : h.Of row) {e : Event} (he : row.common e ≠ []) :
    h.names e := by
  intro row' hrow'
  rwa [hrow'.common_eq hrow]

/-- What the ledger and the rows say does not depend on the flags. -/
theorem Secured.of_tables (hs : h.Secured s) (htrades : s'.trades = s.trades)
    (hintents : s'.intents = s.intents) (hevents : s'.events = s.events)
    (hsymbols : s'.data.symbolPairs = s.data.symbolPairs) : h.Secured s' := by
  have htrade : ∀ k, s'.trade k = s.trade k := fun k => congrArg (List.find? _) htrades
  have hintent : ∀ k, s'.intent k = s.intent k := fun k => congrArg (List.find? _) hintents
  refine ⟨?_, ?_, ?_, ?_, ?_, ?_, ?_⟩
  · rw [hsymbols]
    exact hs.symbols
  · rw [hsymbols]
    exact hs.symbol
  · intro k row hrow
    rw [htrade] at hrow
    exact hs.rows k row hrow
  · rw [htrade]
    exact hs.row
  · intro k i hi
    rw [hintent] at hi
    exact hs.ledger k i hi
  · intro k i hi
    rw [hintent] at hi
    exact hs.exits k i hi
  · rw [hevents]
    exact hs.events

/-- Registering the pair again. -/
theorem Secured.register (hs : h.Secured s) {symbol : Symbol}
    (hregister : s.registerSymbolPair symbol h.pair = .ok s') :
    h.Secured { s with data := s'.data } := by
  unfold Store.registerSymbolPair at hregister
  split at hregister
  · cases hregister
  · next hconsistent =>
    rw [not_or, not_not] at hconsistent
    cases hregister
    refine ⟨fun q hq => ?_, ?_, hs.rows, hs.row, hs.ledger, hs.exits, hs.events⟩
    · rcases List.mem_cons.mp hq with rfl | hold
      · exact hconsistent.2
      · exact hs.symbols q (List.mem_of_mem_filter hold)
    · rw [hconsistent.2]
      exact List.lookup_cons_self

/-- Rows may change that leave closed rows closed and this one as it is recorded. -/
theorem Secured.of_rows (hs : h.Secured s) {f : TradeId → TradeRow → TradeRow}
    (htrade : ∀ k, s'.trade k = (s.trade k).map (f k))
    (hclosed : ∀ k row, row.lifecycle.terminal = true → (f k row).lifecycle.terminal = true)
    (hrow : ∀ row, s.trade h.id = some row → h.Of row → row.lifecycle.kept →
      h.Of (f h.id row) ∧ (f h.id row).lifecycle.kept)
    (hintents : s'.intents = s.intents)
    (hevents : ∀ stored ∈ s'.events, h.names stored.event → stored.event.harmless)
    (hsymbols : s'.data.symbolPairs = s.data.symbolPairs) : h.Secured s' := by
  have hintent : ∀ k, s'.intent k = s.intent k := fun k => congrArg (List.find? _) hintents
  refine ⟨hsymbols ▸ hs.symbols, hsymbols ▸ hs.symbol, ?_, ?_, ?_, ?_, hevents⟩
  · intro k row hk hopen
    rw [htrade] at hk
    obtain ⟨old, hold, rfl⟩ := Option.map_eq_some_iff.mp hk
    refine hs.rows k old hold ?_
    by_contra hclose
    rw [hclosed k old (by simpa using hclose)] at hopen
    cases hopen
  · obtain ⟨row, hk, hof, hkept⟩ := hs.row
    refine ⟨f h.id row, ?_, hrow row hk hof hkept⟩
    rw [htrade, hk]
    rfl
  · intro k i hi
    rw [hintent] at hi
    exact hs.ledger k i hi
  · intro k i hi
    rw [hintent] at hi
    exact hs.exits k i hi

theorem Secured.record (hs : h.Secured s) {e : Event} (he : h.names e → e.harmless) :
    h.Secured (s.recordExchangeEvent e).2 := by
  have hterminal : ∀ (row : TradeRow), row.lifecycle.terminal = true →
      (applyEvent row e e.key (s.clock + 1)).lifecycle.terminal = true :=
    fun row hrow => foldEvents_terminal [⟨e.key, e⟩] (s.clock + 1) hrow
  by_cases hknown : s.events.any (·.key = e.key) = true
  · unfold Store.recordExchangeEvent
    dsimp only
    rw [if_pos hknown]
    exact hs
  · have htrade := fun k => s.recordExchangeEvent_trade e k
    simp only [if_neg hknown] at htrade
    refine hs.of_rows (f := fun _ row => if row.matchesEvent e.orderId e.orderListId e.symbol then
      applyEvent row e e.key (s.clock + 1) else row) htrade (fun k row hrow => ?_)
      (fun row hk hof hkept => ?_) (s.recordExchangeEvent_intents e) ?_ ?_
    · split
      · exact hterminal row hrow
      · exact hrow
    · split
      · next hmatch =>
        obtain ⟨n, hn, -⟩ := (TradeRow.matchesEvent_iff.mp hmatch).2
        have hharmless := he (hof.names (List.ne_nil_of_mem hn))
        exact ⟨hof.fold [⟨e.key, e⟩] _, kept_applyEvent hkept hharmless _ _⟩
      · exact ⟨hof, hkept⟩
    · intro stored hstored hnames
      unfold Store.recordExchangeEvent at hstored
      dsimp only at hstored
      rw [if_neg hknown] at hstored
      rcases List.mem_append.mp hstored with hold | hnew
      · exact hs.events stored hold hnames
      · rw [List.mem_singleton.mp hnew] at hnames ⊢
        exact he hnames
    · unfold Store.recordExchangeEvent
      dsimp only
      rw [if_neg hknown]
      rfl

theorem Secured.replay (hs : h.Secured s) (k : TradeId) :
    h.Secured (s.replayExchangeEventsForTrade k).2 := by
  have hevents : (s.replayExchangeEventsForTrade k).2.events = s.events := by
    unfold Store.replayExchangeEventsForTrade
    split <;> rfl
  refine hs.of_rows (f := fun k' row => if k' = k then foldEvents (s.replayed row) (s.clock + 1) row
    else row) (fun k' => ?_) (fun k' row hrow => ?_) (fun row hk hof hkept => ?_)
    (s.replayExchangeEventsForTrade_intents k) ?_ ?_
  · by_cases hk : k' = k
    · subst hk
      simp only [if_pos]
      exact s.replayExchangeEventsForTrade_trade k'
    · simp only [if_neg hk, Option.map_id']
      exact s.replayExchangeEventsForTrade_other hk
  · split
    · exact foldEvents_terminal _ _ hrow
    · exact hrow
  · split
    · refine ⟨hof.fold _ _, kept_foldEvents (fun stored hstored => ?_) _ hkept⟩
      obtain ⟨hmem, hselected⟩ := List.mem_filter.mp hstored
      obtain ⟨n, hn, -⟩ := (Store.replaySelects_iff.mp hselected).2
      exact hs.events stored hmem (hof.names (List.ne_nil_of_mem hn))
    · exact ⟨hof, hkept⟩
  · rw [hevents]
    exact hs.events
  · unfold Store.replayExchangeEventsForTrade
    split <;> rfl

/-- Recovery gives the row a lifecycle of a protected trade. -/
theorem Secured.upsert (hs : h.Secured s) (pair : Pair) {f : TradeFields} (hf : Anonymous f)
    (hmode : f.protectionMode = none) {l : Lifecycle} (hl : f.lifecycle = some l) (hkept : l.kept) :
    h.Secured (s.upsertTrade h.id pair f) := by
  obtain ⟨old, hold, -, -⟩ := hs.row
  have htrade : ∀ k, (s.upsertTrade h.id pair f).trade k = (s.trade k).map fun row =>
      if k = h.id then row.set f (s.clock + 1) else row := by
    intro k
    rw [Store.upsertTrade_trade]
    by_cases hk : k = h.id
    · rw [if_pos hk, hk, hold]
      simp
    · simp [if_neg hk]
  have hlifecycle : ∀ row : TradeRow, (row.set f (s.clock + 1)).lifecycle = l := by
    intro row
    rw [TradeRow.set, hl]
    rfl
  have hdata : (s.upsertTrade h.id pair f).data = s.data := by
    unfold Store.upsertTrade
    split <;> rfl
  have hevents : (s.upsertTrade h.id pair f).events = s.events := by
    unfold Store.upsertTrade
    split <;> rfl
  refine ⟨hdata ▸ hs.symbols, hdata ▸ hs.symbol, ?_, ?_, ?_, ?_, hevents ▸ hs.events⟩
  · intro k row hk hopen
    by_cases hid : k = h.id
    · exact hid
    · rw [Store.upsertTrade_trade, if_neg hid] at hk
      exact hs.rows k row hk hopen
  · obtain ⟨row, hk, hof, -⟩ := hs.row
    refine ⟨row.set f (s.clock + 1), ?_, ?_, ?_⟩
    · rw [htrade, hk]
      simp
    · refine ⟨hof.pair, ?_, ?_, ?_, ?_, ?_⟩
      · rw [TradeRow.set, hf.entry, Option.getD_none, hof.entry]
      · rw [TradeRow.set, hf.list, Option.getD_none, hof.list]
      · rw [TradeRow.set, hf.takeProfit, Option.getD_none, hof.takeProfit]
      · rw [TradeRow.set, hf.stop, Option.getD_none, hof.stop]
      · rw [TradeRow.set, hmode, Option.getD_none, hof.mode]
    · rw [hlifecycle]
      exact hkept
  · intro k i hi
    rw [Store.intent, Store.upsertTrade_intents] at hi
    exact hs.ledger k i hi
  · intro k i hi
    rw [Store.intent, Store.upsertTrade_intents] at hi
    exact hs.exits k i hi

/-- An intent that recovery settles. -/
theorem Secured.finish (hs : h.Secured s) {k : IntentId} {i : Intent} (hi : s.intent k = some i)
    {state : IntentState} (hstate : state.unresolved = false)
    (hexit : state = .confirmed → i.operation ≠ .emergencyExit) {orderId listId : Ident}
    {error : Option String} (hfinish : s.finishIntent k state orderId listId error = .ok s') :
    h.Secured s' := by
  obtain ⟨-, htrades, hevents, hdata, hintent⟩ := Store.finishIntent_ok hfinish
  have htrade : ∀ k, s'.trade k = s.trade k := fun k => congrArg (List.find? _) htrades
  have hother : ∀ k' j, s'.intent k' = some j →
      (j.state = state ∧ j.operation = i.operation) ∨ s.intent k' = some j := by
    intro k' j hj
    rw [hintent] at hj
    split at hj
    · next hk =>
      rw [hk, hi, Option.map_some] at hj
      rw [← Option.some.inj hj]
      exact .inl ⟨rfl, rfl⟩
    · exact .inr hj
  refine ⟨hdata ▸ hs.symbols, hdata ▸ hs.symbol, ?_, ?_, ?_, ?_, hevents ▸ hs.events⟩
  · intro k' row hk
    rw [htrade] at hk
    exact hs.rows k' row hk
  · rw [htrade]
    exact hs.row
  · intro k' j hj hunresolved
    rcases hother k' j hj with ⟨hj, -⟩ | hold
    · rw [hj, hstate] at hunresolved
      cases hunresolved
    · exact hs.ledger k' j hold hunresolved
  · intro k' j hj htradeId hop
    rcases hother k' j hj with ⟨hj, hsame⟩ | hold
    · intro hconfirmed
      exact hexit (hj.symm.trans hconfirmed) (hsame.symm.trans hop)
    · exact hs.exits k' j hold htradeId hop

end Holding
end SpotSidecar
