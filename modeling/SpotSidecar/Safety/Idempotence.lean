import SpotSidecar.Safety.Recognition
import SpotSidecar.Safety.Dust
import SpotSidecar.Exchange.Desk
import Mathlib.Data.List.Dedup

/-! Asking again to protect a fill that is protected: without a request where the exchange shows
the entry filled, and otherwise only as long as nothing asks. -/
namespace SpotSidecar
open Interaction Prog
variable {σ α β γ : Type} {cfg : Config} {env : Env σ}

/-- A report of an order that closes no row. -/
def Report.harmless (r : Report) : Prop :=
  ∀ listId e, restEvent r listId = .ok (some e) → e.harmless

namespace Holding
variable {h : Holding} {R : σ → Prop} {made : List Post} {p : Prop}

/-- An order id that the row records. -/
def Owns (h : Holding) (n : ℤ) : Prop := n = h.entry ∨ h.takeProfit = some n ∨ h.stop = some n

/-- Collaborators in `R` answer truly about a trade whose protection is open. -/
structure Truthful (cfg : Config) (env : Env σ) (h : Holding) (R : σ → Prop) : Prop where
  stays : ∀ {γ : Type} (c : Call γ) s, R s → R (env.call γ c s).2
  activePair : ∀ s, R s → (env.call _ .activePair s).1 = .ok h.pair
  symbolInfo : ∀ s, R s → ∃ info, (env.call _ (.symbolInfo h.pair.symbol) s).1 = .ok info ∧
    Tradable cfg h.pair info
  told : ∀ e s, R s → (env.call _ (.onExchangeEvent e) s).1 = .ok ()
  entry : ∀ s, R s → ∃ r, (env.call _ (.getOrder h.pair.symbol (.orderId h.entry)) s).1 =
    .ok (some r) ∧ r.orderId = .int h.entry ∧ r.symbol = some h.pair.symbol ∧ r.status ≠ .other ""
  orders : ∀ n s r, h.Owns n → R s →
    (env.call _ (.getOrder h.pair.symbol (.orderId n)) s).1 = .ok (some r) → r.toReport.harmless
  lists : ∀ n s r, h.list = some n → R s →
    (env.call _ (.getOrderList (.orderListId n)) s).1 = .ok (some r) →
    ∀ report ∈ r.orderReports, report.harmless
  openOrders : ∀ s, R s → ∃ orders, (env.call _ (.openOrders (some h.pair.symbol)) s).1 =
    .ok (some orders) ∧ ∀ s', R s' → ∃ lists, (env.call _ .openOrderLists s').1 = .ok (some lists) ∧
      ∀ row, h.Of row → durableProtectionIsOpen row orders lists = .ok true

/-- The exchange shows the entry filled. -/
def Filled (env : Env σ) (h : Holding) (R : σ → Prop) : Prop :=
  ∀ s r, R s → (env.call _ (.getOrder h.pair.symbol (.orderId h.entry)) s).1 = .ok (some r) →
    r.status = .filled

/-- No request beyond those made before, and the trade secured; unless `p`, nothing asks to
protect its fill. -/
structure Seen (h : Holding) (R : σ → Prop) (made : List Post) (p : Prop) (w : World σ) : Prop where
  secured : h.Secured w.store
  answers : R w.env
  silent : requests w.history = made
  quiet : p ∨ h.pair.symbol ∉ w.memory.partialRecovery

namespace Seen

theorem of_data {w : World σ} (hw : h.Seen R made p w) {d : SidecarData}
    (hd : d.symbolPairs = w.store.data.symbolPairs) :
    h.Seen R made p { w with store := { w.store with data := d } } where
  secured := hw.secured.of_tables rfl rfl rfl hd
  answers := hw.answers
  silent := hw.silent
  quiet := hw.quiet

theorem of_store {w : World σ} (hw : h.Seen R made p w) {s : Store} (hs : h.Secured s) :
    h.Seen R made p { w with store := s } where
  secured := hs
  answers := hw.answers
  silent := hw.silent
  quiet := hw.quiet

theorem note {w : World σ} (hw : h.Seen R made p w) {i : Item} (hi : ∀ q r, i ≠ .posted q r) :
    h.Seen R made p (w.note i) where
  secured := hw.secured
  answers := hw.answers
  silent := (requests_note w hi).trans hw.silent
  quiet := hw.quiet

theorem setMemory {f : Memory → Memory}
    (hf : p ∨ ∀ m, h.pair.symbol ∉ m.partialRecovery → h.pair.symbol ∉ (f m).partialRecovery) :
    Keeps (Ask.exec env) (h.Seen R made p) (setMemory f) := by
  intro w hw
  refine ⟨hw, hw, hw.secured, hw.answers, hw.silent, ?_⟩
  rcases hf with hp | hf
  · exact .inl hp
  · exact hw.quiet.imp_right (hf _)

theorem setData {f : SidecarData → SidecarData} (hf : ∀ d, (f d).symbolPairs = d.symbolPairs) :
    Keeps (Ask.exec env) (h.Seen R made p) (setData f) :=
  fun _ hw => ⟨hw, hw, hw.of_data (hf _)⟩

theorem setEntries (value : Bool) (reason : String) :
    Keeps (Ask.exec env) (h.Seen R made p) (setEntries value reason) :=
  Seen.setData (f := fun d => (Store.setEntries { data := d } value reason).data) fun _ => rfl

/-- Recording an event of the trade that closes no row. -/
theorem record {e : Event} (he : h.names e → e.harmless) :
    Keeps (Fold.exec env) (h.Seen R made p) (.perform (.recordExchangeEvent e)) :=
  .perform fun _ hw => hw.of_store (hw.secured.record he)

theorem replayTrade (k : TradeId) :
    Keeps (Fold.exec env) (h.Seen R made p) (replayTrade k) :=
  .bind (.perform fun _ hw => hw.of_store (hw.secured.replay k)) fun _ => .pure

/-- Settling an intent that was read from the ledger. -/
theorem settle {i : Intent} {state : IntentState} (hstate : state.unresolved = false)
    (hexit : state = .confirmed → i.operation ≠ .emergencyExit) {orderId listId : Ident}
    {error : Option String} :
    Triple (Act.exec env) (fun w => h.Seen R made p w ∧ w.store.Knows i)
      (.perform (.finishIntent i.intentId state orderId listId error))
      (fun _ => h.Seen R made p) (fun _ => h.Seen R made p) (h.Seen R made p) := by
  refine Triple.perform_same (fun _ hw => hw.1) fun w hw => ?_
  obtain ⟨hseen, j, hj, hdraft, -⟩ := hw
  have hop : j.operation = i.operation := congrArg IntentDraft.operation hdraft
  simp only [Act.exec]
  split
  · next s hs =>
    refine (hseen.note fun _ _ hp => ?_).of_store (hseen.secured.finish hj hstate ?_ hs)
    · cases hp
    · rw [hop]
      exact hexit
  · exact hseen

end Seen

namespace Truthful
variable (ht : h.Truthful cfg env R)
include ht

theorem ask {a : Ask γ} (ha : a.calm) {w : World σ} (hw : h.Seen R made p w) :
    h.Seen R made p (a.exec env γ w).2 := by
  have hrequests := Ask.exec_requests env a w
  cases a with
  | call c =>
    have hstays := ht.stays c _ hw.answers
    refine ⟨?_, ?_, hrequests.trans hw.silent, ?_⟩
    · simp only [Ask.exec]
      split
      · exact hw.secured
      · exact hw.secured
    · simp only [Ask.exec]
      split
      · exact hstays
      · exact hstays
    · simp only [Ask.exec]
      split
      · exact hw.quiet
      · exact hw.quiet
  | store | memory | signalResult id => exact hw
  | claimSignal id | recordSignal id result =>
    exact ⟨hw.secured, hw.answers, hw.silent, hw.quiet⟩
  | setMemory m => exact ha.elim
  | setData d => exact ha.elim

theorem calm {m : Asking α} (hm : Calm m) : Keeps (Ask.exec env) (h.Seen R made p) m :=
  hm.keeps fun _ ha _ hw => ht.ask ha hw

theorem pause (reason : String) : Keeps (Ask.exec env) (h.Seen R made p) (pause reason) := by
  refine .bind (Seen.setMemory (.inr fun _ hm => hm)) fun _ =>
    .bind (Seen.setEntries _ _) fun _ => ?_
  exact .bind (.attempt (ht.calm (.call _))) fun _ => .pure

/-- A question with the answer it has. -/
theorem answer (c : Call γ) {P : γ → Prop} {E : Exc → World σ → Prop}
    (hc : ∀ s, R s → ∃ a, (env.call γ c s).1 = .ok a ∧ P a) :
    Triple (Ask.exec env) (h.Seen R made p) (call c) (fun a w => h.Seen R made p w ∧ P a) E
      (h.Seen R made p) := by
  refine Triple.perform (fun _ hw => hw) (fun w a w' hw heq => ?_) fun w e w' hw heq => ?_
  · have hseen := ht.ask (a := .call c) trivial hw
    rw [heq] at hseen
    obtain ⟨a', ha', hP⟩ := hc w.env hw.answers
    have hfst : (env.call γ c w.env).1 = .ok a := congrArg Prod.fst heq
    rw [ha'] at hfst
    cases hfst
    exact ⟨hseen, hP⟩
  · obtain ⟨a', ha', -⟩ := hc w.env hw.answers
    have hfst : (env.call γ c w.env).1 = .error e := congrArg Prod.fst heq
    rw [ha'] at hfst
    cases hfst

/-- A question with what its answer is known to satisfy. -/
theorem answered (c : Call γ) {P : γ → Prop}
    (hc : ∀ s a, R s → (env.call γ c s).1 = .ok a → P a) :
    Triple (Ask.exec env) (h.Seen R made p) (call c) (fun a w => h.Seen R made p w ∧ P a)
      (fun _ => h.Seen R made p) (h.Seen R made p) := by
  refine Triple.perform (fun _ hw => hw) (fun w a w' hw heq => ?_) fun w e w' hw heq => ?_
  · have hseen := ht.ask (a := .call c) trivial hw
    rw [heq] at hseen
    exact ⟨hseen, hc w.env a hw.answers (congrArg Prod.fst heq)⟩
  · have hseen := ht.ask (a := .call c) trivial hw
    rwa [heq] at hseen

theorem recordAuthenticatedEvent {e : Event} (he : h.names e → e.harmless) :
    Keeps (Fold.exec env) (h.Seen R made p) (recordAuthenticatedEvent e) := by
  unfold SpotSidecar.recordAuthenticatedEvent
  refine .bind (Keeps.asks (ht.calm (.eventInScope _))) fun inScope => ?_
  split
  · refine .bind (Seen.record he) fun isNew => ?_
    split
    · exact .bind (Keeps.asks (ht.calm (.call _))) fun _ => .pure
    · exact .pure
  · exact .pure

theorem recordRestEvent {order : Report} (ho : order.harmless) (listId : Ident) :
    Keeps (Fold.exec env) (h.Seen R made p) (recordRestEvent order listId) := by
  unfold SpotSidecar.recordRestEvent
  refine Triple.bind (Q := fun event w => h.Seen R made p w ∧ restEvent order listId = .ok event)
    (.ofExcept (fun _ heq _ hw => ⟨hw, heq⟩) fun _ _ _ hw => hw) fun event => ?_
  refine Triple.assume_eq fun hevent => ?_
  cases event with
  | none => exact Keeps.pure
  | some e => exact Keeps.bind (ht.recordAuthenticatedEvent fun _ => ho _ e hevent) fun _ => .pure

end Truthful

/-- The open row of the symbol is that of the trade. -/
theorem Secured.activeTradeForSymbol {s : Store} (hs : h.Secured s) :
    ∃ row, s.activeTradeForSymbol h.pair.symbol = .ok (some row) ∧ row.tradeId = h.id ∧
      h.Of row := by
  obtain ⟨row, hrow, hof, hkept⟩ := hs.row
  have hmem : row ∈ s.activeTradeRows.filter (·.pair = h.pair) := by
    refine List.mem_filter.mpr ⟨mem_activeTradeRows.mpr ⟨(Store.trade_mem hrow).1, hkept.1⟩, ?_⟩
    simpa using hof.pair
  obtain ⟨last, hlast⟩ : ∃ last, s.activeTradeForPair h.pair = some last := by
    refine Option.isSome_iff_exists.mp (List.getLast?_isSome.mpr ?_)
    exact List.ne_nil_of_mem hmem
  have hfound : s.activeTradeForSymbol h.pair.symbol = .ok (some last) := by
    unfold Store.activeTradeForSymbol Store.pairForSymbol
    rw [hs.symbol]
    exact congrArg Except.ok hlast
  obtain ⟨hin, hopen⟩ := mem_of_activeTradeForSymbol hfound
  have hlookup := Store.trade_of_mem hin
  have hid := hs.rows _ last hlookup hopen
  rw [hid, hrow] at hlookup
  cases hlookup
  exact ⟨row, hfound, hid, hof⟩

/-- No open row has another symbol. -/
theorem Secured.no_other {s : Store} (hs : h.Secured s) {symbol : Symbol}
    (hne : symbol ≠ h.pair.symbol) (row : TradeRow) :
    s.activeTradeForSymbol symbol ≠ .ok (some row) := by
  intro hfound
  obtain ⟨hin, hopen⟩ := mem_of_activeTradeForSymbol hfound
  have hlookup := Store.trade_of_mem hin
  have hid := hs.rows _ row hlookup hopen
  obtain ⟨row', hrow', hof, -⟩ := hs.row
  rw [hid, hrow'] at hlookup
  cases hlookup
  have hfoundPair := (activeTradeForPair_of_symbol hfound).1
  unfold Store.pairForSymbol at hfoundPair
  cases hpair : s.data.symbolPairs.lookup symbol with
  | none =>
    rw [hpair] at hfoundPair
    cases hfoundPair
  | some pair =>
    rw [hpair] at hfoundPair
    cases hfoundPair
    apply hne
    obtain ⟨before, after, hpairs, -⟩ := List.lookup_eq_some_iff.mp hpair
    have hmem : (symbol, row.pair) ∈ s.data.symbolPairs := hpairs ▸ by simp
    have hsymbol : row.pair.symbol = symbol := hs.symbols _ hmem
    rw [← hsymbol, hof.pair]

/-- The row that a loop over the open rows looks at. -/
theorem triple_rows {E : Exc → World σ → Prop} :
    Triple (Ask.exec env) (h.Seen R made p) theStore
      (fun s w => h.Seen R made p w ∧ ∀ row ∈ s.activeTradeRows,
        row.tradeId = h.id ∧ h.Of row ∧ row.lifecycle.kept) E (h.Seen R made p) := by
  intro w hw
  refine ⟨hw, hw, fun row hrow => ?_⟩
  obtain ⟨hmem, hopen⟩ := mem_activeTradeRows.mp hrow
  have hlookup := Store.trade_of_mem hmem
  have hid := hw.secured.rows _ row hlookup hopen
  obtain ⟨row', hrow', hof, hkept⟩ := hw.secured.row
  rw [hid, hrow'] at hlookup
  cases hlookup
  exact ⟨hid, hof, hkept⟩

theorem keeps_reconcileConfirmedEmergencyExits :
    Keeps (Act.exec env) (h.Seen R made p) (reconcileConfirmedEmergencyExits cfg) := by
  unfold SpotSidecar.reconcileConfirmedEmergencyExits
  refine Triple.bind (Triple.asked triple_rows) fun s => Triple.assume_eq fun hrows => ?_
  refine Keeps.bind (.each fun row hrow => ?_) fun _ => .pure
  obtain ⟨hid, -, -⟩ := hrows row hrow
  unfold reconcileExits
  refine Triple.bind (Q := fun s w => h.Seen R made p w ∧ ((s.intentsForTrade row.tradeId).filter
    fun i => i.operation = .emergencyExit && i.state = .confirmed) = []) ?_ fun s => ?_
  · refine fun w hw => ⟨hw, hw, ?_⟩
    refine List.filter_eq_nil_iff.mpr fun i hi hexit => ?_
    obtain ⟨hop, hstate⟩ : i.operation = .emergencyExit ∧ i.state = .confirmed := by
      simpa using hexit
    obtain ⟨hmem, htrade⟩ := List.mem_filter.mp hi
    have htradeId : i.tradeId = h.id := hid ▸ by simpa using htrade
    exact hw.secured.exits _ i (Store.intent_of_mem hmem) htradeId hop hstate
  · refine Triple.assume_eq fun hexits => ?_
    dsimp only
    rw [hexits]
    exact Keeps.pure

/-- An event of the pair is in scope. -/
theorem Seen.eventInScope {e : Event} (he : e.symbol = some h.pair.symbol)
    {E : Exc → World σ → Prop} :
    Triple (Ask.exec env) (h.Seen R made p) (eventInScope e)
      (fun b w => h.Seen R made p w ∧ b = true) E (h.Seen R made p) := by
  unfold SpotSidecar.eventInScope
  rw [he]
  refine Triple.bind (Q := fun s w => h.Seen R made p w ∧
    s.pairForSymbol h.pair.symbol = .ok h.pair) (fun w hw => ⟨hw, hw, ?_⟩) fun s => ?_
  · unfold Store.pairForSymbol
    rw [hw.secured.symbol]
  · refine Triple.assume_eq fun hpair => ?_
    rw [hpair]
    refine Triple.bind (Q := fun _ => h.Seen R made p) ?_ fun _ => .pure fun _ hw => ⟨hw, rfl⟩
    exact .ensure (fun _ _ hw => hw) fun hn => absurd ⟨h.base, rfl⟩ hn

/-- An answer that shows the entry filled. -/
structure ShowsFilled (h : Holding) (r : Response) : Prop where
  orderId : r.orderId = .int h.entry
  symbol : r.symbol = some h.pair.symbol
  status : r.status = .filled
  harmless : r.toReport.harmless

theorem ShowsFilled.event {r : Response} (hr : h.ShowsFilled r) (listId : Ident) :
    ∃ e, restEvent r.toReport listId = .ok (some e) ∧ e.symbol = some h.pair.symbol ∧
      e.harmless := by
  have hsymbol : h.pair.symbol ≠ "" := by
    unfold Pair.symbol
    rw [h.base]
    simp
  have hevent : ∃ e, restEvent r.toReport listId = .ok (some e) ∧
      e.symbol = some h.pair.symbol := by
    unfold restEvent
    simp [hr.orderId, hr.symbol, hr.status, Ident.truthy, Ident.toInt, h.entry_ne, hsymbol,
      Bind.bind, Except.bind, Pure.pure, Except.pure, Option.filter]
  obtain ⟨e, he, hpair⟩ := hevent
  exact ⟨e, he, hpair, hr.harmless listId e he⟩

/-- A report of the entry with a positive cumulative quantity. -/
structure OfEntry (h : Holding) (e : Event) : Prop where
  symbol : e.symbol = some h.pair.symbol
  orderId : e.orderId = .int h.entry
  side : e.side = .buy
  executed : 0 < e.executed

theorem OfEntry.harmless {e : Event} (he : h.OfEntry e) : e.harmless := by
  intro l hl
  unfold Event.proposes at hl
  rw [he.side] at hl
  dsimp only at hl
  rw [if_pos he.executed] at hl
  split_ifs at hl <;> cases hl <;> rfl

/-- What may follow: reports of the entry, ticks, reconciliations, restarts and the signals of the
user stream that carry no order. -/
def Later (h : Holding) : Command → Prop
  | .orderUpdate e => h.OfEntry e
  | .start | .tick | .verifiedReconcile | .restart | .accountUpdate | .resync => True
  | _ => False

/-- A new process has nothing to recover in its memory. -/
theorem Seen.restart {w : World σ} (hw : h.Seen R made p w) : h.Seen R made p w.restart where
  secured := hw.secured
  answers := hw.answers
  silent := hw.silent
  quiet := .inr List.not_mem_nil

/-- The refresh asks about what the row records. -/
theorem owns_refreshQueries {row : TradeRow} (hof : h.Of row) {q : Option ℤ × ClientId}
    (hq : q ∈ refreshQueries row) : ∃ n, q.1 = some n ∧ h.Owns n := by
  obtain ⟨hmem, hsome⟩ := List.mem_filter.mp hq
  have hknown : ∀ {column : Option ℤ} {n : ℤ}, knownId column = some n → column = some n :=
    fun hn => (mem_knownId.mp hn).1
  simp only [List.mem_cons, List.not_mem_nil, or_false] at hmem
  rcases hmem with rfl | rfl | rfl
  · refine ⟨h.entry, ?_, .inl rfl⟩
    rw [hof.entry]
    simp [knownId, h.entry_ne]
  · cases hn : knownId row.takeProfitOrderId with
    | none => simp [hn] at hsome
    | some n => exact ⟨n, rfl, .inr (.inl (hof.takeProfit ▸ hknown hn))⟩
  · cases hn : knownId row.stopOrderId with
    | none => simp [hn] at hsome
    | some n => exact ⟨n, rfl, .inr (.inr (hof.stop ▸ hknown hn))⟩

namespace Truthful
variable (ht : h.Truthful cfg env R)
include ht

theorem getOrder {n : ℤ} (hn : h.Owns n) (client : ClientId) :
    Triple (Ask.exec env) (h.Seen R made p) (getOrder h.pair.symbol (some n) client)
      (fun reply w => h.Seen R made p w ∧ ∀ r, reply = some r → r.toReport.harmless)
      (fun _ => h.Seen R made p) (h.Seen R made p) := by
  refine ht.answered (.getOrder h.pair.symbol (.orderId n)) fun s reply hs hreply r hr => ?_
  exact ht.orders n s r hn hs (hr ▸ hreply)

theorem refreshOrder {row : TradeRow} (hof : h.Of row) {q : Option ℤ × ClientId}
    (hq : q ∈ refreshQueries row) :
    Keeps (Fold.exec env) (h.Seen R made p) (refreshOrder row q) := by
  obtain ⟨n, hn, howns⟩ := owns_refreshQueries hof hq
  unfold SpotSidecar.refreshOrder
  rw [hn, hof.pair]
  refine Triple.bind (Triple.lift (fun _ _ => rfl) (ht.getOrder howns q.2)) fun reply => ?_
  refine Triple.assume_eq fun hreply => ?_
  cases reply with
  | none => exact Keeps.raise
  | some response =>
    refine Keeps.bind .ensure fun _ => .bind .ofExcept fun found => .bind .ensure fun _ => ?_
    exact .bind .ensure fun _ => .bind (ht.recordRestEvent (hreply _ rfl) _) fun _ => .pure

theorem refreshList (row : TradeRow) {listId : ℤ} (hlist : h.list = some listId) :
    Keeps (Fold.exec env) (h.Seen R made p) (refreshList row listId) := by
  unfold SpotSidecar.refreshList
  have hreply : Triple (Ask.exec env) (h.Seen R made p) (getOrderList (some listId) "")
      (fun reply w => h.Seen R made p w ∧ ∀ r, reply = some r →
        ∀ report ∈ r.orderReports, report.harmless)
      (fun _ => h.Seen R made p) (h.Seen R made p) :=
    ht.answered (.getOrderList (.orderListId listId)) fun s reply hs hreply r hr =>
      ht.lists listId s r hlist hs (hr ▸ hreply)
  refine Triple.bind (Triple.lift (fun _ _ => rfl) hreply) fun reply => ?_
  refine Triple.assume_eq fun hreports => ?_
  cases reply with
  | none => exact Keeps.raise
  | some listing =>
    refine Triple.bind (Q := fun l w => h.Seen R made p w ∧ l = listing)
      (.pure fun _ hw => ⟨hw, rfl⟩) fun l => Triple.assume_eq fun hl => ?_
    subst hl
    refine Keeps.bind .ofExcept fun found => .bind .ensure fun _ => ?_
    refine .bind (Seen.record fun _ l hl => ?_) fun _ => ?_
    · cases hl
    · refine .bind (.each fun report hreport => ?_) fun _ => .pure
      exact ht.recordRestEvent (hreports _ rfl _ hreport) _

theorem refreshTrade {original : TradeRow} (hid : original.tradeId = h.id) (hof : h.Of original) :
    Keeps (Fold.exec env) (h.Seen R made p) (refreshTrade original) := by
  unfold SpotSidecar.refreshTrade
  have hlast : Keeps (Fold.exec env) (h.Seen R made p)
      (liftM theStore >>= fun s : Store =>
        if (s.trade original.tradeId).any (·.lifecycle = .entryPartiallyFilled) then
          (liftM (SpotSidecar.setMemory fun m => { m with
            partialRecovery := m.partialRecovery.insert original.pair.symbol }) >>= fun _ =>
            liftM (SpotSidecar.pause "partial-entry-fill-needs-protection") : Folding Unit)
        else Pure.pure ()) := by
    refine Triple.bind (Q := fun s w => h.Seen R made p w ∧ s = w.store)
      (Triple.lift (fun _ _ => rfl) fun w hw => ⟨hw, hw, rfl⟩) fun s => ?_
    refine Triple.weaken (R := fun w => h.Seen R made p w ∧
      (s.trade original.tradeId).any (·.lifecycle = .entryPartiallyFilled) = false) ?_ ?_
    · refine Triple.assume_eq fun hkept => ?_
      rw [hkept]
      exact Keeps.pure
    · rintro w ⟨hw, rfl⟩
      refine ⟨hw, ?_⟩
      obtain ⟨row, hrow, -, hkept⟩ := hw.secured.row
      rw [hid, hrow]
      have hrank : row.lifecycle ≠ .entryPartiallyFilled := by
        intro heq
        have := hkept.2
        rw [heq] at this
        exact absurd this (by decide)
      simp [hrank]
  refine Keeps.bind (.each fun q hq => .attempt (ht.refreshOrder hof hq)) fun _ => ?_
  split
  · next listId hlist =>
    have hrecorded : h.list = some listId := hof.list ▸ (mem_knownId.mp hlist).1
    exact .bind (.attempt (ht.refreshList original hrecorded)) fun _ =>
      .bind (Seen.replayTrade _) fun _ => hlast
  · exact .bind (Seen.replayTrade _) fun _ => hlast

theorem refreshDurableExchangeState :
    Keeps (Fold.exec env) (h.Seen R made p) refreshDurableExchangeState := by
  unfold SpotSidecar.refreshDurableExchangeState
  refine Triple.bind (Triple.lift (fun _ _ => rfl) triple_rows) fun s => ?_
  refine Triple.assume_eq fun hrows => ?_
  refine Keeps.bind (.each fun row hrow => ?_) fun _ => .pure
  obtain ⟨hid, hof, -⟩ := hrows row hrow
  exact ht.refreshTrade hid hof

theorem asking {m : Asking α} (hm : Calm m) :
    Keeps (Act.exec env) (h.Seen R made p) (liftM m : Acting α) :=
  Keeps.asked (ht.calm hm)

/-- A question before an intent is settled. -/
theorem asking_known (i : Intent) {m : Asking α} (hm : Calm m) :
    Triple (Act.exec env) (fun w => h.Seen R made p w ∧ w.store.Knows i) (liftM m : Acting α)
      (fun _ w => h.Seen R made p w ∧ w.store.Knows i) (fun _ => h.Seen R made p)
      (h.Seen R made p) :=
  Keeps.framed (ht.asking hm) (keeps_knows i _)

theorem resolveCancel {i : Intent} (hexit : i.operation ≠ .emergencyExit) (request : Params) :
    Triple (Act.exec env) (fun w => h.Seen R made p w ∧ w.store.Knows i)
      (resolveCancel i request) (fun _ => h.Seen R made p) (fun _ => h.Seen R made p)
      (h.Seen R made p) := by
  have hensure : ∀ {c : Prop} [Decidable c] {e : Exc}, Triple (Act.exec env)
      (fun w => h.Seen R made p w ∧ w.store.Knows i) (Prog.ensure c e)
      (fun _ w => h.Seen R made p w ∧ w.store.Knows i) (fun _ => h.Seen R made p)
      (h.Seen R made p) :=
    .ensure (fun _ _ hw => hw) fun _ _ hw => hw.1
  unfold SpotSidecar.resolveCancel
  dsimp only
  split
  · refine Triple.bind (ht.asking_known i (.getOrderList _ _)) fun reply => ?_
    refine Triple.bind (ht.asking_known i (.asObject _)) fun response => ?_
    exact Triple.bind hensure fun _ => Seen.settle rfl fun _ => hexit
  · refine Triple.bind (ht.asking_known i (.getOrder _ _ _)) fun reply => ?_
    refine Triple.bind (ht.asking_known i (.asObject _)) fun response => ?_
    exact Triple.bind hensure fun _ => Seen.settle rfl fun _ => hexit

theorem resolveIntent {i : Intent} (hi : Settling i) :
    Triple (Act.exec env) (fun w => h.Seen R made p w ∧ w.store.Knows i) (resolveIntent cfg i)
      (fun _ => h.Seen R made p) (fun _ => h.Seen R made p) (h.Seen R made p) := by
  unfold SpotSidecar.resolveIntent
  refine Triple.bind (ht.asking_known i (.intentRequest i)) fun request => ?_
  unfold Settling at hi
  split at hi
  · next hstate =>
    obtain ⟨hentry, hplan, hchild⟩ := hi
    rw [if_pos hstate, if_neg hplan, if_neg hchild]
    refine Triple.bind ?_ fun _ => Keeps.pure
    unfold abortPrepared
    refine Triple.bind (Seen.settle rfl fun hc => absurd hc (by decide)) fun _ => ?_
    rw [if_neg hentry]
    exact Keeps.pure
  · next hstate =>
    rw [if_neg hstate, if_pos hi.1]
    exact Triple.bind (ht.resolveCancel hi.2 request) fun _ => Keeps.pure

theorem resolveOperationIntents :
    Keeps (Act.exec env) (h.Seen R made p) (resolveOperationIntents cfg) := by
  have hsettling : ∀ {w : World σ}, h.Seen R made p w → ∀ i ∈ w.store.unresolvedIntents,
      Settling i := by
    intro w hw i hi
    obtain ⟨hmem, hunresolved⟩ := List.mem_filter.mp hi
    exact hw.secured.ledger _ i (Store.intent_of_mem hmem) hunresolved
  unfold SpotSidecar.resolveOperationIntents
  refine Triple.bind (Q := fun s w => (h.Seen R made p w ∧ ∀ i ∈ s.unresolvedIntents,
    w.store.Knows i) ∧ ∀ i ∈ s.unresolvedIntents, Settling i) ?_ fun s => ?_
  · refine fun w hw => ⟨hw, ⟨hw, fun i hi => ?_⟩, hsettling hw⟩
    exact Store.knows_of_mem (List.mem_of_mem_filter hi)
  · refine Triple.assume_eq fun hs => ?_
    refine Triple.bind (triple_eachIntent _ fun i hi => ht.resolveIntent (hs i hi)) fun _ => ?_
    refine Triple.bind (Q := fun s w => h.Seen R made p w ∧ (s.unresolvedIntents.filter fun i =>
      i.state = .prepared && i.operation = .replaceProtection) = []) ?_ fun s => ?_
    · refine fun w hw => ⟨hw, hw, ?_⟩
      refine List.filter_eq_nil_iff.mpr fun i hi hplan => ?_
      obtain ⟨hstate, hop⟩ : i.state = .prepared ∧ i.operation = .replaceProtection := by
        simpa using hplan
      have hi := hsettling hw i hi
      rw [Settling, if_pos hstate] at hi
      exact hi.2.1 hop
    · refine Triple.assume_eq fun hplans => ?_
      dsimp only
      rw [hplans]
      exact Keeps.bind .pure fun _ => .bind (ht.asking .theStore) fun _ => .pure

theorem rulesOf {E : Exc → World σ → Prop} :
    Triple (Ask.exec env) (h.Seen R made p) (rulesOf cfg h.pair) (fun _ => h.Seen R made p) E
      (h.Seen R made p) := by
  have hensure : ∀ {c : Prop} [Decidable c] (e : Exc), c → Triple (Ask.exec env) (h.Seen R made p)
      (Prog.ensure c e) (fun _ => h.Seen R made p) E (h.Seen R made p) :=
    fun _ hc => .ensure (fun _ _ hw => hw) fun hn => absurd hc hn
  refine Triple.weaken (R := fun w => h.Seen R made p w ∧
    (cfg.allowedQuotes = [] ∨ h.pair.quote ∈ cfg.allowedQuotes)) ?_ fun w hw => ?_
  · refine Triple.assume_eq fun hallowed => ?_
    unfold SpotSidecar.rulesOf canonicalPair validateExchangeSymbol
    refine Triple.bind (Triple.bind (hensure _ h.base) fun _ => hensure _ hallowed) fun _ => ?_
    refine Triple.bind (ht.answer (.symbolInfo h.pair.symbol) ht.symbolInfo) fun info => ?_
    refine Triple.assume_eq fun htradable => ?_
    refine Triple.bind (Q := fun _ => h.Seen R made p) ?_ fun _ => ?_
    · refine Triple.bind (hensure _ htradable.symbol) fun _ => ?_
      refine Triple.bind (hensure _ htradable.trading) fun _ => ?_
      refine Triple.bind (hensure _ htradable.baseAsset) fun _ => ?_
      exact Triple.bind (hensure _ htradable.quoteAsset) fun _ => hensure _ htradable.spot
    · rw [dif_pos ⟨htradable.tick, htradable.step⟩]
      exact .pure fun _ hw => hw
  · obtain ⟨_, -, htradable⟩ := ht.symbolInfo w.env hw.answers
    exact ⟨hw, htradable.allowed⟩

/-- The lookup of the entry. -/
theorem lookupEntry (hfilled : h.Filled env R) {row : TradeRow} (hof : h.Of row)
    {E : Exc → World σ → Prop} :
    Triple (Ask.exec env) (h.Seen R made p) (lookupEntry row h.pair.symbol)
      (fun r w => h.Seen R made p w ∧ h.ShowsFilled r) E (h.Seen R made p) := by
  have hknown : knownId row.entryOrderId = some h.entry := by
    rw [hof.entry]
    simp [knownId, h.entry_ne]
  unfold SpotSidecar.lookupEntry
  rw [hknown]
  refine Triple.bind (ht.answer (.getOrder h.pair.symbol (.orderId h.entry))
    (P := fun reply => ∃ r, reply = some r ∧ h.ShowsFilled r) fun s hs => ?_) fun reply => ?_
  · obtain ⟨r, hr, hid, hsymbol, -⟩ := ht.entry s hs
    exact ⟨some r, hr, r, rfl, hid, hsymbol, hfilled s r hs hr,
      ht.orders h.entry s r (.inl rfl) hs hr⟩
  · refine Triple.assume_eq fun hreply => ?_
    obtain ⟨r, rfl, hr⟩ := hreply
    exact .pure fun _ hw => ⟨hw, hr⟩

/-- The event is recorded and told. -/
theorem recordTold {e : Event} (he : e.symbol = some h.pair.symbol) (hharmless : e.harmless)
    {E : Exc → World σ → Prop} :
    Triple (Fold.exec env) (h.Seen R made p) (SpotSidecar.recordAuthenticatedEvent e)
      (fun _ => h.Seen R made p) E (h.Seen R made p) := by
  unfold SpotSidecar.recordAuthenticatedEvent
  refine Triple.bind (Triple.lift (fun _ _ => rfl) (Seen.eventInScope he)) fun b => ?_
  refine Triple.assume_eq fun hb => ?_
  rw [if_pos hb]
  refine Triple.bind (Q := fun _ => h.Seen R made p) ?_ fun isNew => ?_
  · refine Triple.perform (fun _ hw => hw) (fun w a w' hw heq => ?_) fun w e' w' hw heq => ?_
    · obtain ⟨-, rfl⟩ := Prod.mk.inj heq
      exact hw.of_store (hw.secured.record fun _ => hharmless)
    · exact absurd (Prod.mk.inj heq).1 (by simp)
  · split
    · refine Triple.bind (Q := fun _ => h.Seen R made p) ?_ fun _ => .pure fun _ hw => hw
      refine Triple.lift (fun _ _ => rfl) ((ht.answer (.onExchangeEvent e) (P := fun _ => True)
        fun s hs => ⟨(), ht.told e s hs, trivial⟩).post fun _ _ hw => hw.1)
    · exact .pure fun _ hw => hw

/-- The row that is reread still records the trade. -/
theorem foldEntry {row : TradeRow} (hid : row.tradeId = h.id) {e : Event}
    (he : e.symbol = some h.pair.symbol) (hharmless : e.harmless) {E : Exc → World σ → Prop} :
    Triple (Fold.exec env) (h.Seen R made p) (foldEntry row e)
      (fun row' w => h.Seen R made p w ∧ row'.tradeId = h.id ∧ h.Of row') E (h.Seen R made p) := by
  unfold SpotSidecar.foldEntry
  refine Triple.bind (ht.recordTold he hharmless) fun _ => ?_
  refine Triple.bind (Q := fun _ => h.Seen R made p) ?_ fun _ => ?_
  · unfold SpotSidecar.replayTrade
    refine Triple.bind (Q := fun _ => h.Seen R made p) ?_ fun _ => .pure fun _ hw => hw
    refine Triple.perform (fun _ hw => hw) (fun w a w' hw heq => ?_) fun w e' w' hw heq => ?_
    · obtain ⟨-, rfl⟩ := Prod.mk.inj heq
      exact hw.of_store (hw.secured.replay _)
    · exact absurd (Prod.mk.inj heq).1 (by simp)
  · refine Triple.bind (Q := fun s w => h.Seen R made p w ∧
      ∃ row', s.trade row.tradeId = some row' ∧
      row'.tradeId = h.id ∧ h.Of row') (fun w hw => ⟨hw, hw, ?_⟩) fun s => ?_
    · obtain ⟨row', hrow', hof, -⟩ := hw.secured.row
      exact ⟨row', hid ▸ hrow', (Store.trade_mem hrow').2, hof⟩
    · refine Triple.assume_eq fun hrow => ?_
      obtain ⟨row', hrow', hof⟩ := hrow
      rw [hrow']
      exact .pure fun _ hw => ⟨hw, hof⟩

theorem settlePartial {row : TradeRow} (hid : row.tradeId = h.id) (hof : h.Of row) {entry : Report}
    (hentry : entry.status = .filled) (rules : SymbolRules) {E : Exc → World σ → Prop} :
    Triple (Act.exec env) (h.Seen R made p)
      (settlePartial cfg row entry h.pair.symbol h.pair rules)
      (fun v w => h.Seen R made p w ∧ v.1 = true) E (h.Seen R made p) := by
  unfold SpotSidecar.settlePartial
  refine Triple.bind (Triple.asked (ht.answer (.openOrders (some h.pair.symbol))
    (P := fun answer => ∃ orders, answer = some orders ∧ ∀ s', R s' → ∃ lists,
      (env.call _ .openOrderLists s').1 = .ok (some lists) ∧
        ∀ row, h.Of row → durableProtectionIsOpen row orders lists = .ok true) fun s hs => ?_))
    fun answer => Triple.assume_eq fun horders => ?_
  · obtain ⟨orders, horders, hlists⟩ := ht.openOrders s hs
    exact ⟨some orders, horders, orders, rfl, hlists⟩
  · obtain ⟨orders, rfl, hlists⟩ := horders
    refine Triple.bind (Triple.asked (ht.answer .openOrderLists
      (P := fun answer => ∃ lists, answer = some lists ∧
        durableProtectionIsOpen row orders lists = .ok true) fun s hs => ?_))
      fun answer => Triple.assume_eq fun hopen => ?_
    · obtain ⟨lists, hanswer, hopen⟩ := hlists s hs
      exact ⟨some lists, hanswer, lists, rfl, hopen row hof⟩
    · obtain ⟨lists, rfl, hopen⟩ := hopen
      refine Triple.bind (Q := fun b w => h.Seen R made p w ∧ b = true) ?_ fun b => ?_
      · unfold filledAndProtected
        rw [if_pos hentry]
        refine Triple.asked (Triple.bind (Q := fun l w => h.Seen R made p w ∧ l = orders)
          (.pure fun _ hw => ⟨hw, rfl⟩) fun l => Triple.assume_eq fun hl => ?_)
        refine Triple.bind (Q := fun l w => h.Seen R made p w ∧ l = lists)
          (.pure fun _ hw => ⟨hw, rfl⟩) fun l' => Triple.assume_eq fun hl' => ?_
        rw [hl, hl', hopen]
        exact .pure fun _ hw => ⟨hw, rfl⟩
      · refine Triple.assume_eq fun hb => ?_
        rw [if_pos hb, hid]
        refine Triple.bind (Q := fun _ => h.Seen R made p) ?_ fun _ => .pure fun _ hw => ⟨hw, rfl⟩
        refine Triple.perform (fun _ hw => hw) (fun w a w' hw heq => ?_) fun w e' w' hw heq => ?_
        · obtain ⟨-, rfl⟩ := Prod.mk.inj heq
          refine (hw.note fun _ _ hp => ?_).of_store (hw.secured.upsert h.pair ?_ rfl rfl ?_)
          · cases hp
          · constructor <;> rfl
          · exact ⟨rfl, by decide⟩
        · exact absurd (Prod.mk.inj heq).1 (by simp)

/-- Where the entry is shown filled, its open protection is found, and nothing is sent. -/
theorem placePartialProtection (hfilled : h.Filled env R) {E : Exc → World σ → Prop} :
    Triple (Act.exec env) (h.Seen R made p) (placePartialProtection cfg h.pair.symbol)
      (fun v w => h.Seen R made p w ∧ v.1 = true) E (h.Seen R made p) := by
  unfold SpotSidecar.placePartialProtection
  refine Triple.bind (Q := fun s w => h.Seen R made p w ∧ ∃ row,
    s.activeTradeForSymbol h.pair.symbol = .ok (some row) ∧ row.tradeId = h.id ∧ h.Of row)
    (fun w hw => ⟨hw, hw, hw.secured.activeTradeForSymbol⟩) fun s => Triple.assume_eq fun hrow => ?_
  obtain ⟨row, hrow, hid, hof⟩ := hrow
  rw [hrow]
  refine Triple.bind (Q := fun found w => h.Seen R made p w ∧ found = some row)
    (.pure fun _ hw => ⟨hw, rfl⟩) fun found => Triple.assume_eq fun hfound => ?_
  subst hfound
  dsimp only
  refine Triple.bind (Triple.asked (ht.answer .activePair (P := (· = h.pair)) fun s hs =>
    ⟨h.pair, ht.activePair s hs, rfl⟩)) fun active => Triple.assume_eq fun hactive => ?_
  subst hactive
  refine Triple.bind (Triple.asked ht.rulesOf) fun rules => ?_
  refine Triple.bind (Triple.asked (ht.lookupEntry hfilled hof)) fun entry => ?_
  refine Triple.assume_eq fun hentry => ?_
  rw [hentry.orderId]
  refine Triple.bind (Q := fun n w => h.Seen R made p w ∧ n = h.entry)
    (.pure fun _ hw => ⟨hw, rfl⟩) fun n => Triple.assume_eq fun hn => ?_
  rw [if_neg (by simp [hn, hof.entry])]
  obtain ⟨e, he, hsymbol, hharmless⟩ := hentry.event (.ofOption row.orderListId)
  rw [he]
  refine Triple.bind (Q := fun event w => h.Seen R made p w ∧ event = some e)
    (.pure fun _ hw => ⟨hw, rfl⟩) fun event => Triple.assume_eq fun hevent => ?_
  subst hevent
  refine Triple.bind (Triple.folded (ht.foldEntry hid hsymbol hharmless)) fun row' => ?_
  refine Triple.assume_eq fun hrow' => ?_
  exact ht.settlePartial hrow'.1 hrow'.2 hentry.status rules

/-- The recovery of a symbol: the trade's own only where the entry is shown filled. -/
theorem recoverPartial {symbol : Symbol} (hsymbol : symbol = h.pair.symbol → h.Filled env R) :
    Keeps (Act.exec env) (h.Seen R made p) (recoverPartial cfg symbol) := by
  unfold SpotSidecar.recoverPartial
  refine Keeps.bind (.attempt ?_) fun result => ?_
  · by_cases hsame : symbol = h.pair.symbol
    · rw [hsame]
      exact (ht.placePartialProtection (hsymbol hsame)).post fun _ _ hw => hw.1
    · unfold SpotSidecar.placePartialProtection
      refine Triple.bind (Q := fun s w => h.Seen R made p w ∧
        ∀ row, s.activeTradeForSymbol symbol ≠ .ok (some row))
        (fun w hw => ⟨hw, hw, hw.secured.no_other hsame⟩) fun s => Triple.assume_eq fun hrow => ?_
      cases hfound : s.activeTradeForSymbol symbol with
      | error e => exact Keeps.raise
      | ok found =>
        cases found with
        | some row => exact absurd hfound (hrow row)
        | none => exact Keeps.pure
  · split
    · exact .bind (Keeps.asked (Seen.setMemory (.inr fun m hm he => hm (List.mem_of_mem_erase he))))
        fun _ => .pure
    · exact .pure

/-- The recovery of the trade succeeds. -/
theorem recovers (hfilled : h.Filled env R) {E : Exc → World σ → Prop} :
    Triple (Act.exec env) (h.Seen R made p) (SpotSidecar.recoverPartial cfg h.pair.symbol)
      (fun b w => h.Seen R made p w ∧ b = true) E (h.Seen R made p) := by
  unfold SpotSidecar.recoverPartial
  refine Triple.bind (Q := fun result w => h.Seen R made p w ∧
    ∃ detail, result = .ok (true, detail))
    (Triple.attempt ?_) fun result => Triple.assume_eq fun hresult => ?_
  · refine (ht.placePartialProtection hfilled).post fun v w hw => ⟨hw.1, v.2, ?_⟩
    rw [← hw.2]
  · obtain ⟨detail, rfl⟩ := hresult
    refine Triple.bind (Q := fun _ => h.Seen R made p) ?_ fun _ => .pure fun _ hw => ⟨hw, rfl⟩
    refine fun w hw => ⟨hw, hw, hw.secured, hw.answers, hw.silent, ?_⟩
    exact hw.quiet.imp_right fun hm he => hm (List.mem_of_mem_erase he)

theorem judgeAccount (resolved emergency stale partials : Bool) :
    Keeps (Ask.exec env) (h.Seen R made p)
      (judgeAccount cfg resolved emergency stale partials) := by
  unfold SpotSidecar.judgeAccount
  refine .bind (ht.calm (.enumerate _)) fun orders => .bind (ht.calm (.enumerate _)) fun lists => ?_
  refine .bind (ht.calm .enumerateBalances) fun balances => .bind (ht.calm .theStore) fun s => ?_
  refine .bind (ht.calm (.ownershipEndpoint _ _ _)) fun ownership => .bind ?_ fun _ => .pure
  unfold recordVerdict
  refine .bind (ht.calm (.call _)) fun now => .bind (Seen.setData fun _ => rfl) fun _ => ?_
  split
  · exact ht.pause _
  · exact .pure

theorem verifiedReconcile (hp : p → h.Filled env R) :
    Keeps (Act.exec env) (h.Seen R made p) (verifiedReconcile cfg) := by
  unfold SpotSidecar.verifiedReconcile
  refine .bind ht.resolveOperationIntents fun resolution => ?_
  refine .bind (Keeps.folded ht.refreshDurableExchangeState) fun _ => ?_
  refine .bind keeps_reconcileConfirmedEmergencyExits fun emergency => ?_
  refine Triple.bind (Triple.asked triple_rows) fun s => Triple.assume_eq fun hrows => ?_
  rw [filter_kept (fun row hrow => (hrows row hrow).2.2) (by decide)]
  refine Keeps.bind .pure fun stale => ?_
  refine Triple.bind (Q := fun m w => h.Seen R made p w ∧
    (p ∨ h.pair.symbol ∉ m.partialRecovery)) (fun w hw => ⟨hw, hw, hw.quiet⟩) fun m => ?_
  refine Triple.assume_eq fun hm => ?_
  refine Keeps.bind (.each fun symbol hsymbol => ?_) fun _ => Keeps.asked (ht.judgeAccount _ _ _ _)
  refine ht.recoverPartial fun hsame => ?_
  have hin : h.pair.symbol ∈ m.partialRecovery := hsame ▸ (List.mem_insertionSort _).mp hsymbol
  exact hp (hm.resolve_right fun hnot => hnot hin)

theorem tick (hp : p → h.Filled env R) : Keeps (Act.exec env) (h.Seen R made p) (tick cfg) := by
  unfold SpotSidecar.tick
  refine .bind ?_ fun _ => ?_
  · unfold tickAccount
    refine .bind (ht.asking .theMemory) fun m => ?_
    split
    · exact .pure
    · refine .bind (ht.asking (.call _)) fun now => ?_
      split
      · refine .bind (Keeps.asked (Seen.setMemory (.inr fun _ hm => hm))) fun _ => ?_
        exact .bind (ht.verifiedReconcile hp) fun _ => .pure
      · exact .pure
  · refine Triple.bind (Triple.asked triple_rows) fun s => Triple.assume_eq fun hrows => ?_
    rw [filter_kept (fun row hrow => (hrows row hrow).2.2) (by decide)]
    refine Keeps.bind .pure fun _ => ?_
    refine Triple.bind (Q := fun m w => h.Seen R made p w ∧
      (p ∨ h.pair.symbol ∉ m.partialRecovery)) (fun w hw => ⟨hw, hw, hw.quiet⟩) fun m => ?_
    refine Triple.assume_eq fun hm => ?_
    refine Triple.bind (Triple.asked triple_rows) fun s => Triple.assume_eq fun hrows => ?_
    refine Keeps.bind (.each fun symbol hsymbol => ht.recoverPartial fun hsame => ?_) fun _ => .pure
    unfold partialCandidates at hsymbol
    rw [filter_kept (fun row hrow => (hrows row hrow).2.2) (by decide), List.map_nil,
      List.append_nil, List.mem_dedup, hsame] at hsymbol
    exact hp (hm.resolve_right fun hnot => hnot hsymbol)

/-- An event of the entry asks for no new protection, or `p` allows it to. -/
theorem onOrderUpdate {e : Event} (he : h.OfEntry e) (hquiet : p ∨ e.needsProtection ≠ .ok true) :
    Keeps (Fold.exec env) (h.Seen R made p) (onOrderUpdate e) := by
  unfold SpotSidecar.onOrderUpdate
  refine .bind (.attempt ?_) fun result => ?_
  · refine .bind (Keeps.asks (ht.calm (.eventInScope _))) fun inScope => ?_
    split
    · refine .bind (ht.recordAuthenticatedEvent fun _ => he.harmless) fun _ => ?_
      refine Triple.bind (Q := fun b w => h.Seen R made p w ∧ e.needsProtection = .ok b)
        (.ofExcept (fun _ heq _ hw => ⟨hw, heq⟩) fun _ _ _ hw => hw) fun needed => ?_
      refine Triple.assume_eq fun hneeded => ?_
      cases needed with
      | false => exact Keeps.pure
      | true =>
        have hp : p := hquiet.resolve_right fun hne => hne hneeded
        exact .bind (Keeps.asks (Seen.setMemory (.inl hp))) fun _ => Keeps.asks (ht.pause _)
    · exact .pure
  · cases result with
    | ok u => exact .pure
    | error e => exact Keeps.asks (ht.pause _)

theorem onAccountUpdate : Keeps (Ask.exec env) (h.Seen R made p) onAccountUpdate := by
  unfold SpotSidecar.onAccountUpdate
  refine .bind (ht.calm .theMemory) fun m => ?_
  split
  · exact .bind (ht.calm (.call _)) fun now => Seen.setMemory (.inr fun _ hm => hm)
  · exact .pure

theorem onResync : Keeps (Ask.exec env) (h.Seen R made p) onResync :=
  .bind (ht.calm (.call _)) fun _ => .bind (Seen.setData fun _ => rfl) fun _ => ht.pause _

theorem start (hp : p → h.Filled env R) : Keeps (Act.exec env) (h.Seen R made p) (start cfg) := by
  unfold SpotSidecar.start
  refine Triple.bind (Triple.asked (ht.answer .activePair (P := (· = h.pair)) fun s hs =>
    ⟨h.pair, ht.activePair s hs, rfl⟩)) fun active => Triple.assume_eq fun hactive => ?_
  subst hactive
  refine Keeps.bind (ht.asking (.rulesOf _)) fun rules => .bind (ht.asking .theStore) fun s => ?_
  refine .bind (ht.asking .ensure) fun _ => .bind (Keeps.asked ?_) fun _ => ?_
  · unfold registerPair
    refine Triple.bind (Q := fun s w => h.Seen R made p w ∧ s = w.store)
      (fun w hw => ⟨hw, hw, rfl⟩) fun s => ?_
    refine Triple.bind (Q := fun r w => h.Seen R made p w ∧
      h.Secured { w.store with data := r.data })
      ?_ fun r => ?_
    · refine .ofExcept (fun r hr w hw => ⟨hw.1, ?_⟩) fun _ _ _ hw => hw.1
      rw [hw.2] at hr
      exact hw.1.secured.register hr
    · exact fun w hw => ⟨hw.1, hw.1.of_store hw.2⟩
  · refine .bind (Keeps.asked (Seen.setMemory (.inr fun _ hm => hm))) fun _ => ?_
    refine .bind (Keeps.asked (Seen.setEntries _ _)) fun _ => ?_
    refine .bind (ht.verifiedReconcile hp) fun result => ?_
    split
    · exact Keeps.asked (Seen.setMemory (.inr fun _ hm => hm))
    · exact .raise

theorem program (hp : p → h.Filled env R) {c : Command} (hc : h.Later c)
    (hquiet : p ∨ ∀ e, c = .orderUpdate e → e.needsProtection ≠ .ok true) :
    Keeps (Act.exec env) (h.Seen R made p) (c.program cfg) := by
  cases c with
  | restart => exact .pure
  | start => exact ht.start hp
  | tick => exact ht.tick hp
  | verifiedReconcile => exact .bind (ht.verifiedReconcile hp) fun _ => .pure
  | orderUpdate e => exact Keeps.folded (ht.onOrderUpdate hc (hquiet.imp_right fun hq => hq e rfl))
  | accountUpdate => exact Keeps.asked ht.onAccountUpdate
  | resync => exact Keeps.asked ht.onResync
  | _ => exact hc.elim

/-- A step of the trade sends nothing and leaves it secured. -/
theorem step (hp : p → h.Filled env R) {s : Step} (hc : h.Later s.command)
    (hquiet : p ∨ ∀ e, s.command = .orderUpdate e → e.needsProtection ≠ .ok true) {w : World σ}
    (hw : h.Seen R made p w) : h.Seen R made p (step cfg env w s) := by
  refine step_of_command (hw.note fun _ _ he => ?_) ?_ fun _ hw => hw.restart
  · cases he
  · exact ht.program hp hc hquiet _ (hw.note fun _ _ he => by cases he)

/-- What a step keeps, a run keeps. -/
theorem run (hp : p → h.Filled env R) {steps : List Step} (hc : ∀ s ∈ steps, h.Later s.command)
    (hquiet : p ∨ ∀ s ∈ steps, ∀ e, s.command = .orderUpdate e → e.needsProtection ≠ .ok true)
    {w : World σ} (hw : h.Seen R made p w) :
    h.Seen R made p (steps.foldl (SpotSidecar.step cfg env) w) := by
  induction steps generalizing w with
  | nil => exact hw
  | cons s steps ih =>
    refine ih (fun t ht => hc t (List.mem_cons_of_mem _ ht)) ?_
      (ht.step hp (hc s List.mem_cons_self)
      (hquiet.imp_right fun hq => hq s List.mem_cons_self) hw)
    exact hquiet.imp_right fun hq t ht => hq t (List.mem_cons_of_mem _ ht)

end Truthful
end Holding

/-- A protected fill is left alone, however often it is asked for: as long as the exchange shows the
entry filled or nothing asks, no step sends a request, and every recovery of a filled entry
succeeds. -/
theorem protection_recognised {h : Holding} {R : σ → Prop} (ht : h.Truthful cfg env R) {w : World σ}
    (hsecured : h.Secured w.store) (hanswers : R w.env) {steps : List Step}
    (hlater : ∀ s ∈ steps, h.Later s.command)
    (hasked : h.Filled env R ∨ h.pair.symbol ∉ w.memory.partialRecovery ∧
      ∀ s ∈ steps, ∀ e, s.command = .orderUpdate e → e.needsProtection ≠ .ok true) :
    let w' := steps.foldl (step cfg env) w
    requests w'.history = requests w.history ∧ h.Secured w'.store ∧
      (h.Filled env R → ∀ n, ((recoverPartial cfg h.pair.symbol).run (Act.exec env) n w').1 =
        .done true ∨
        ((recoverPartial cfg h.pair.symbol).run (Act.exec env) n w').1 = .crashed) ∧
      (h.Filled env R ∨ h.pair.symbol ∉ w'.memory.partialRecovery) := by
  intro w'
  have hseen : h.Seen R (requests w.history) (h.Filled env R) w :=
    ⟨hsecured, hanswers, rfl, hasked.imp_right And.left⟩
  have hend : h.Seen R (requests w.history) (h.Filled env R) w' :=
    ht.run id hlater (hasked.imp_right And.right) hseen
  refine ⟨hend.silent, hend.secured, fun hfilled n => ?_, hend.quiet⟩
  have hrecovers := wp_run (ht.recovers (E := fun _ _ => False) hfilled w' hend) n
  rcases hrun : (recoverPartial cfg h.pair.symbol).run (Act.exec env) n w' with ⟨o, w''⟩
  rw [hrun] at hrecovers
  cases o with
  | done b =>
    have hb : b = true := hrecovers.2
    exact .inl (congrArg Outcome.done hb)
  | raised e => exact hrecovers.elim
  | crashed => exact .inr rfl

namespace Desk

/-- The position of the bot that was bought in full, with the list of its entry. -/
def holding : Holding where
  id := "t1"
  pair := ⟨"BTC", "USDT"⟩
  entry := 2
  list := some 1
  takeProfit := some 3
  stop := some 4
  mode := some .ocoTrailing
  base := rfl
  entry_ne := by decide

/-- The orders of that position: its entry is filled, and the list protects it. -/
def boughtOrders : List DeskOrder :=
  [{ id := 2, list := 1, client := "ENTRY1", side := .buy, type := .limit, qty := 1, executed := 1
     status := .filled },
   { id := 3, list := 1, client := "TP2", side := .sell, type := .limitMaker, qty := 999 / 1000 },
   { id := 4, list := 1, client := "STOP3", side := .sell, type := .stopLossLimit
     qty := 999 / 1000 }]

def Bought (d : Desk) : Prop :=
  d.orders = boughtOrders ∧ d.lists = [{ id := 1, client := "ENTRYLIST0" }]

theorem Bought.order {d : Desk} (hd : Bought d) (n : ℤ) :
    (Desk.env.call _ (.getOrder "BTCUSDT" (.orderId n)) d).1 =
      showOrder { orders := boughtOrders } (·.id = n) := by
  change d.showOrder _ = _
  unfold showOrder
  rw [hd.1]

/-- A report that shows an order filled that buys, or new that sells, closes no row. -/
theorem harmless_report (o : DeskOrder) (ho : o.side = .buy ∧ o.status = .filled ∨
    o.side = .sell ∧ o.status = .new) : o.report.harmless := by
  intro listId e he l hl
  have hsame : e.side = o.side ∧ e.status = o.status := by
    unfold restEvent at he
    split at he
    · cases he
    · cases he
      exact ⟨rfl, rfl⟩
  unfold Event.proposes at hl
  rw [hsame.1, hsame.2] at hl
  rcases ho with ⟨hside, hstatus⟩ | ⟨hside, hstatus⟩
  · rw [hside, hstatus] at hl
    cases hl
    rfl
  · rw [hside, hstatus] at hl
    dsimp only at hl
    by_cases hprotective : e.protective = true
    · rw [if_pos ⟨.inl rfl, hprotective⟩] at hl
      cases hl
      rfl
    · rw [if_neg fun h => hprotective h.2, if_neg (by decide)] at hl
      cases hl

theorem bought_truthful : holding.Truthful Desk.config Desk.env Bought where
  stays c d hd := by
    cases c with
    | getOrder symbol key => cases key <;> exact hd
    | getOrderList key => cases key <;> exact hd
    | _ => exact hd
  activePair _ _ := rfl
  symbolInfo _ _ := ⟨info, rfl, tradable⟩
  told _ _ _ := rfl
  entry d hd := by
    refine ⟨_, hd.order 2, rfl, rfl, ?_⟩
    decide
  orders n d r hn hd hr := by
    have hshown := (hd.order n).symm.trans hr
    rcases hn with rfl | hn | hn
    · cases hshown
      exact harmless_report _ (.inl ⟨rfl, rfl⟩)
    · cases hn
      cases hshown
      exact harmless_report _ (.inr ⟨rfl, rfl⟩)
    · cases hn
      cases hshown
      exact harmless_report _ (.inr ⟨rfl, rfl⟩)
  lists n d r hn hd hr := by
    cases hn
    have hshown : d.showList (·.id = 1) = .ok (some r) := hr
    unfold showList at hshown
    rw [hd.2] at hshown
    cases hshown
    intro report hreport
    unfold listing members at hreport
    rw [hd.1] at hreport
    obtain ⟨o, ho, rfl⟩ := List.mem_map.mp hreport
    have hall : ∀ o ∈ boughtOrders, o.side = .buy ∧ o.status = .filled ∨
        o.side = .sell ∧ o.status = .new := by decide
    exact harmless_report o (hall o (List.mem_of_mem_filter ho))
  openOrders d hd := by
    refine ⟨_, rfl, fun d' hd' => ⟨_, rfl, fun row hof => ?_⟩⟩
    have horders : d.openOrders = [some (.int 3), some (.int 4)] := by
      unfold openOrders
      rw [hd.1]
      rfl
    have hlists : d'.openLists = [some (.int 1)] := by
      unfold openLists
      rw [hd'.2]
      rfl
    rw [horders, hlists]
    unfold durableProtectionIsOpen
    rw [hof.stop, hof.takeProfit, hof.list, hof.mode]
    rfl

/-- The desk with that position. -/
def bought : World Desk :=
  runSteps config Desk.env { script := [{ next := [.fill 2 1 0] }] } opening

theorem bought_secured : holding.Secured bought.store := by
  have hsymbols : bought.store.data.symbolPairs = [("BTCUSDT", ⟨"BTC", "USDT"⟩)] := by
    decide +kernel
  have hids : bought.store.trades.map (·.tradeId) = ["t1"] := by
    decide +kernel
  have htrades : ∀ row ∈ bought.store.trades, row.pair = ⟨"BTC", "USDT"⟩ ∧
      row.entryOrderId = some 2 ∧ row.orderListId = some 1 ∧ row.takeProfitOrderId = some 3 ∧
      row.stopOrderId = some 4 ∧ row.protectionMode = some .ocoTrailing ∧
      row.lifecycle = .protectionActive := by
    decide +kernel
  have hintents : ∀ i ∈ bought.store.intents, i.state = .confirmed ∧ i.operation = .entry := by
    decide +kernel
  have hevents : ∀ stored ∈ bought.store.events,
      stored.event.proposes.all (!·.terminal) = true := by
    decide +kernel
  refine ⟨?_, ?_, ?_, ?_, ?_, ?_, ?_⟩
  · rw [hsymbols]
    decide
  · rw [hsymbols]
    rfl
  · intro k row hrow _
    obtain ⟨hmem, rfl⟩ := Store.trade_mem hrow
    have hin := List.mem_map_of_mem (f := (·.tradeId)) hmem
    rw [hids, List.mem_singleton] at hin
    exact hin
  · obtain ⟨row, hmem, hid⟩ : ∃ row ∈ bought.store.trades, row.tradeId = "t1" := by
      refine List.mem_map.mp ?_
      rw [hids]
      exact List.mem_singleton_self _
    obtain ⟨hpair, hentry, hlist, htp, hstop, hmode, hlifecycle⟩ := htrades row hmem
    refine ⟨row, ?_, ⟨hpair, hentry, hlist, htp, hstop, hmode⟩, ?_⟩
    · have hlookup := Store.trade_of_mem hmem
      rwa [hid] at hlookup
    · rw [hlifecycle]
      exact ⟨rfl, by decide⟩
  · intro k i hi hunresolved
    rw [(hintents i (Store.intent_mem hi).1).1] at hunresolved
    cases hunresolved
  · intro k i hi _ hop
    rw [(hintents i (Store.intent_mem hi).1).2] at hop
    cases hop
  · intro stored hstored _ l hl
    have hall := hevents stored hstored
    rw [hl] at hall
    simpa using hall

/-- A report of its BUY from before it had filled. -/
def bought.early : Event where
  eventType := .executionReport
  symbol := some "BTCUSDT"
  orderId := .int 2
  orderListId := .int 1
  side := .buy
  status := .partiallyFilled
  cumulative := .num (1 / 2)
  quote := .num 50

/-- The desk after a partial fill was protected by a list of its own. -/
def halfProtected : List Step := opening ++ [whole .tick]

/-- A late report that the BUY was canceled after its partial fill. -/
def lateCancel : Event where
  eventType := .executionReport
  symbol := some "BTCUSDT"
  orderId := .int 2
  orderListId := .int 1
  side := .buy
  status := .canceled
  cumulative := .num (1 / 2)
  quote := .num 50

end Desk

theorem protection_recognised_bought :
    let steps := [Desk.whole (.orderUpdate Desk.bought.early), Desk.whole .tick,
      Desk.whole .verifiedReconcile, Desk.whole .restart, Desk.whole .start]
    let w := steps.foldl (step Desk.config Desk.env) Desk.bought
    requests w.history = requests Desk.bought.history ∧ Desk.holding.Secured w.store ∧
      (Desk.holding.Filled Desk.env Desk.Bought → ∀ n,
        ((recoverPartial Desk.config Desk.holding.pair.symbol).run (Act.exec Desk.env) n w).1 =
            .done true ∨
          ((recoverPartial Desk.config Desk.holding.pair.symbol).run (Act.exec Desk.env) n w).1 =
            .crashed) ∧
      (Desk.holding.Filled Desk.env Desk.Bought ∨
        Desk.holding.pair.symbol ∉ w.memory.partialRecovery) := by
  intro steps
  refine protection_recognised Desk.bought_truthful Desk.bought_secured ⟨by decide +kernel,
    by decide +kernel⟩ ?_ (.inl fun d r hd hr => ?_)
  · have hlater : ∀ c ∈ steps.map (·.command), Desk.holding.Later c := by
      intro c hc
      rcases List.mem_cons.mp hc with rfl | hc
      · exact ⟨rfl, rfl, rfl, by decide +kernel⟩
      · have hrest : c = .tick ∨ c = .verifiedReconcile ∨ c = .restart ∨ c = .start := by
          simpa [steps, Desk.whole] using hc
        rcases hrest with rfl | rfl | rfl | rfl <;> trivial
    exact fun s hs => hlater _ (List.mem_map_of_mem hs)
  · have hshown := (hd.order 2).symm.trans hr
    cases hshown
    rfl

/-- A late report makes the tick cancel the list that protects a partial fill. -/
theorem protection_recognised_fails :
    let desk : Desk := { script := [{ next := [.fill 2 (1 / 2) 0] }] }
    let w := runSteps Desk.config Desk.env desk Desk.halfProtected
    let w' := runSteps Desk.config Desk.env desk
      (Desk.halfProtected ++ [Desk.whole (.orderUpdate Desk.lateCancel), Desk.whole .tick])
    (∃ row, w.store.activeTradeRows = [row] ∧ row.orderListId = some 5 ∧
      row.reconciliationStatus = some "PARTIAL_FILL_PROTECTED" ∧
      durableProtectionIsOpen row w.env.openOrders w.env.openLists = .ok true) ∧
    (requests w'.history).tail = .cancelOrderList "BTCUSDT" 5 :: requests w.history := by
  intro desk w w'
  have hids : w.store.activeTradeRows.map (·.orderListId) = [some 5] := by
    decide +kernel
  obtain ⟨row, hrow, hlist⟩ := List.map_eq_singleton_iff.mp hids
  have hall : ∀ row ∈ w.store.activeTradeRows,
      row.reconciliationStatus = some "PARTIAL_FILL_PROTECTED" ∧
        durableProtectionIsOpen row w.env.openOrders w.env.openLists = .ok true := by
    decide +kernel
  have hmem : row ∈ w.store.activeTradeRows := by
    rw [hrow]
    exact List.mem_singleton_self _
  exact ⟨⟨row, hrow, hlist, hall row hmem⟩, by decide +kernel⟩

end SpotSidecar
