import SpotSidecar.Exchange.Desk
import SpotSidecar.Safety.Answers
import SpotSidecar.Safety.Rows
import Mathlib.Tactic.IntervalCases

/-! Closed trades: which writes could open one again, and the runs in which none does. -/
namespace SpotSidecar
open Interaction Prog

/-- The row of the trade is EXIT_FILLED or ENTRY_REJECTED. -/
def Store.closed (s : Store) (id : TradeId) : Bool := (s.trade id).any (·.lifecycle.terminal)

/-- An execution report that proposes to close its trade. -/
def Event.closes (e : Event) : Bool :=
  e.eventType = .executionReport && e.proposes.any Lifecycle.terminal

/-- The events that binding an answer records. -/
def Response.told (r : Response) (orderListId : Ident) : List Event :=
  (r.orderReports ++ if r.orderId.truthy then [r.toReport] else []).filterMap fun report =>
    (restEvent report orderListId).toOption.join

/-- Whether the events that an answer tells, and the stored events with the ids that it gives to
the trade of the intent, leave that trade open. -/
def Store.leavesOpen (s : Store) (i : Intent) (r : Response) : Bool :=
  match s.trade i.tradeId, responseIds r i.request with
  | some row, .ok ids =>
    match bindFields i r i.request row ids with
    | .ok f =>
      (s.replayed (row.set f 0)).all (!·.event.closes) &&
        (r.told (.ofOption ids.list)).all (!·.closes)
    | .error _ => true
  | _, _ => true

/-- Intents whose placement gives a trade its ids: entries, protections and what has a plan. -/
def Intent.binds (i : Intent) : Bool :=
  i.parentIntentId.isSome || i.operation = .entry || i.operation = .protection ||
    i.operation = .partialFillProtection

/-- What an entry of the history tells about an intent leaves closed trades closed: no
placement for a closed trade is answered, and a replacement that has just been made is not
told to have closed its trade already. -/
def Entry.calmFor (e : Entry) (es : List Entry) (i : Intent) : Bool :=
  match e.answer? i with
  | none => true
  | some r => !i.binds || (!e.store.closed i.tradeId &&
      (i.parentIntentId.isNone || (i.state ≠ .confirmed && !i.markedIn es) ||
        e.store.leavesOpen i r))

/-- The recorded stop of a closed row is not among the open orders of its symbol. -/
def TradeRow.calmIn (row : TradeRow) (orders : List (Option Ident)) : Bool :=
  !row.lifecycle.terminal || ((openIds orders).toOption.all fun ids => row.stopOrderId.getD 0 ∉ ids)

def Entry.calm (e : Entry) (es : List Entry) : Bool :=
  e.store.intents.all (e.calmFor es) &&
    match e.item with
    | .gotOpenOrders (some _) orders => e.store.trades.all (·.calmIn orders)
    | _ => true

/-- Nothing that the exchange has told speaks of a closed trade as open. -/
def calm : List Entry → Bool
  | [] => true
  | e :: es => e.calm es && calm es

theorem calm_of_suffix {h h' : List Entry} (hs : h <:+ h') (hc : calm h' = true) :
    calm h = true := by
  obtain ⟨front, rfl⟩ := hs
  induction front with
  | nil => exact hc
  | cons e front ih =>
    rw [List.cons_append, calm, Bool.and_eq_true] at hc
    exact ih hc.2

theorem calm_entry {e : Entry} {es h : List Entry} (hs : e :: es <:+ h) (hc : calm h = true) :
    e.calm es = true := by
  have := calm_of_suffix hs hc
  rw [calm, Bool.and_eq_true] at this
  exact this.1

section folding

theorem Lifecycle.advance_open {old : Lifecycle} {new : Option Lifecycle}
    (h : old.terminal = false) (hnew : new.any terminal = false) :
    (old.advance new).terminal = false := by
  cases new with
  | none => exact h
  | some l =>
    unfold advance
    dsimp only
    split
    · exact hnew
    · exact h

theorem applyEvent_open {row : TradeRow} {e : Event} (h : row.lifecycle.terminal = false)
    (he : e.closes = false) (key : EventKey) (now : ℕ) :
    (applyEvent row e key now).lifecycle.terminal = false := by
  refine Lifecycle.advance_open h ?_
  cases htype : e.eventType <;> simp only [eventUpdates, htype]
  · simpa [Event.closes, htype] using he
  · rfl
  · rfl

theorem foldEvents_open {events : List StoredEvent} (now : ℕ) {row : TradeRow}
    (h : row.lifecycle.terminal = false) (he : ∀ e ∈ events, e.event.closes = false) :
    (foldEvents events now row).lifecycle.terminal = false := by
  induction events generalizing row with
  | nil => exact h
  | cons e events ih =>
    refine ih (applyEvent_open h (he e (List.mem_cons_self ..)) e.key now) fun e' he' => ?_
    exact he e' (List.mem_cons_of_mem _ he')

end folding

namespace Store
variable {s s' : Store}

theorem closed_congr (h : s.trades = s'.trades) (id : TradeId) : s.closed id = s'.closed id := by
  unfold closed trade
  rw [h]

theorem closed_map {f : TradeRow → TradeRow} {id : TradeId}
    (hs : s'.trade id = (s.trade id).map f)
    (hf : ∀ row : TradeRow, row.lifecycle.terminal = true → (f row).lifecycle.terminal = true)
    (h : s.closed id = true) : s'.closed id = true := by
  rw [closed, Option.any_eq_true] at h
  obtain ⟨row, hr, ht⟩ := h
  rw [closed, hs, hr]
  exact hf row ht

/-- A write that opens no closed row. -/
theorem closed_upsert {id id' : TradeId} {pair : Pair} {f : TradeFields}
    (hf : (f.lifecycle.all Lifecycle.terminal) = true ∨ s.closed id = false)
    (h : s.closed id' = true) : (s.upsertTrade id pair f).closed id' = true := by
  rw [closed, upsertTrade_trade]
  split
  · next hid =>
    subst hid
    rcases hf with hf | hf
    · rw [closed, Option.any_eq_true] at h
      obtain ⟨row, hr, ht⟩ := h
      rw [hr]
      change (f.lifecycle.getD row.lifecycle).terminal = true
      cases hl : f.lifecycle with
      | none => exact ht
      | some l => rwa [hl] at hf
    · rw [hf] at h
      cases h
  · exact h

end Store

variable {σ α γ : Type} {cfg : Config} {env : Env σ}

/-- In a calm history no trade that was closed has been opened. -/
def Settled (w : World σ) : Prop :=
  calm w.history = true → ∀ e ∈ w.history, ∀ id, e.store.closed id = true → w.store.closed id = true

/-- In a calm history the trade is open. -/
def OpenNow (id : TradeId) (w : World σ) : Prop := calm w.history = true → w.store.closed id = false

/-- Only a write to its columns opens a trade. -/
theorem Act.closed_mono (env : Env σ) (a : Act γ) (w : World σ) {id : TradeId}
    (ha : ¬a.upserts id) (h : w.store.closed id = true) :
    (a.exec env γ w).2.store.closed id = true := by
  obtain ⟨events, hrow, -⟩ := Act.exec_trade env a w id ha
  exact Store.closed_map hrow (fun row => foldEvents_terminal events _) h

theorem Settled.act {w : World σ} (h : Settled w) (env : Env σ) (a : Act γ)
    (ha : calm w.history = true → ∀ id, w.store.closed id = true →
      (a.exec env γ w).2.store.closed id = true) : Settled (a.exec env γ w).2 := by
  intro hcalm e he id hid
  have hbefore := calm_of_suffix (a.exec_suffix env w) hcalm
  rcases a.exec_history env w with heq | ⟨item, heq⟩
  · rw [heq] at he
    exact ha hbefore id (h hbefore e he id hid)
  · rw [heq] at he
    rcases List.mem_cons.mp he with rfl | he
    · exact ha hbefore id hid
    · exact ha hbefore id (h hbefore e he id hid)

/-- Acts that write no lifecycle but a terminal one. -/
def Act.gentle (γ : Type) : Act γ → Prop
  | .upsertTrade _ _ f => f.lifecycle.all Lifecycle.terminal = true
  | _ => True

theorem Settled.gentle {w : World σ} (h : Settled w) (env : Env σ) {a : Act γ} (ha : a.gentle) :
    Settled (a.exec env γ w).2 := by
  refine h.act env a fun _ id hid => ?_
  by_cases hup : a.upserts id
  · cases a with
    | upsertTrade id' pair f => exact Store.closed_upsert (.inl ha) hid
    | _ => exact hup.elim
  · exact a.closed_mono env w hup hid

theorem Settled.keeps {m : Acting α} (hm : m.All Act.gentle) : Keeps (Act.exec env) Settled m :=
  hm.keeps fun _ ha _ hw => hw.gentle env ha

theorem OpenNow.still {id : TradeId} {a : Act γ} (ha : a.still) (w : World σ) (h : OpenNow id w) :
    OpenNow id (a.exec env γ w).2 := by
  intro hcalm
  rw [Store.closed_congr (Act.still_exec env ha w).1]
  exact h (calm_of_suffix (a.exec_suffix env w) hcalm)

theorem OpenNow.keeps {id : TradeId} {m : Acting α} (hm : m.All Act.still) :
    Keeps (Act.exec env) (OpenNow id) m :=
  hm.keeps fun _ ha w hw => hw.still ha w

/-- A write to an open trade. -/
theorem settled_upsert_open (id : TradeId) (pair : Pair) (f : TradeFields) :
    Triple (Act.exec env) (fun w => Settled w ∧ OpenNow id w) (upsert id pair f)
      (fun _ w => Settled w ∧ (f.lifecycle.any Lifecycle.terminal = false → OpenNow id w))
      (fun _ => Settled) Settled := by
  refine Triple.perform (fun w hw => hw.1) (fun w _ w' hw heq => ?_) fun w e w' _ heq => nomatch heq
  cases heq
  refine ⟨hw.1.act env (.upsertTrade id pair f) fun hcalm id' hid' =>
    Store.closed_upsert (.inr (hw.2 hcalm)) hid', fun hf hcalm => ?_⟩
  have hopen := hw.2 (calm_of_suffix (List.suffix_cons _ _) hcalm)
  rw [Store.closed] at hopen
  change (w.store.upsertTrade id pair f).closed id = false
  rw [Store.closed, Store.upsertTrade_trade, if_pos rfl]
  change (f.lifecycle.getD _).terminal = false
  cases hl : f.lifecycle with
  | some l => rwa [hl] at hf
  | none =>
    cases hr : w.store.trade id with
    | none => rfl
    | some row => rwa [hr] at hopen

theorem settled_still {m : Acting α} (hm : Still m) : Keeps (Act.exec env) Settled m :=
  Settled.keeps (hm.mono fun a ha => by cases a <;> trivial)

theorem settled_asking (m : Asking α) : Keeps (Act.exec env) Settled (liftM m : Acting α) :=
  settled_still (.asking m)

theorem settled_folding (m : Folding α) : Keeps (Act.exec env) Settled (liftM m : Acting α) :=
  Settled.keeps (All.lift (fun _ => trivial) m)

/-- A write that closes a trade or leaves its lifecycle. -/
theorem settled_upsert_closed (id : TradeId) (pair : Pair) {f : TradeFields}
    (hf : f.lifecycle.all Lifecycle.terminal = true) :
    Keeps (Act.exec env) Settled (upsert id pair f) :=
  Settled.keeps (.perform hf)

theorem settled_open_still {id : TradeId} {m : Acting α} (hm : Still m) :
    Keeps (Act.exec env) (fun w => Settled w ∧ OpenNow id w) m :=
  ((settled_still hm).and (OpenNow.keeps hm)).conseq (fun _ hw => hw) (fun _ _ hw => hw)
    (fun _ _ hw => hw) fun _ hw => hw

section binding
variable {i j : Intent} {r : Response} {fresh : Bool}

theorem bindFields_congr (h : i.draft = j.draft) (request : Params) (row : TradeRow)
    (ids : ResponseIds) : bindFields i r request row ids = bindFields j r request row ids := by
  have hop : i.operation = j.operation := congrArg IntentDraft.operation h
  have hend : i.endpoint = j.endpoint := congrArg IntentDraft.endpoint h
  simp only [bindFields, bindFields.protectionFields, hop, hend]

theorem Store.leavesOpen_congr {s s' : Store} (htrades : s.trades = s'.trades)
    (hevents : s.events = s'.events) (h : i.draft = j.draft) :
    s.leavesOpen i r = s'.leavesOpen j r := by
  have htrade : s.trade i.tradeId = s'.trade j.tradeId := by
    have hid : i.tradeId = j.tradeId := congrArg IntentDraft.tradeId h
    rw [Store.trade, Store.trade, htrades, hid]
  have hrequest : i.request = j.request := congrArg IntentDraft.request h
  unfold Store.leavesOpen Store.replayed
  simp only [htrade, hrequest, hevents, bindFields_congr h]

/-- What was told in a calm history is about an open trade. -/
theorem Told.calm {w : World σ} (h : Told fresh i r w) (hb : i.binds = true)
    (hcalm : calm w.history = true) : w.store.closed i.tradeId = false ∧
      (fresh = true → i.parentIntentId.isSome = true → w.store.leavesOpen i r = true) := by
  obtain ⟨e, es, j, hes, htrades, hevents, hj, hd, hanswer, hfresh⟩ := h
  have hentry := calm_entry hes hcalm
  rw [Entry.calm, Bool.and_eq_true, List.all_eq_true] at hentry
  have hfor := hentry.1 j hj
  have hbinds : j.binds = true := by
    have hop : j.operation = i.operation := congrArg IntentDraft.operation hd
    have hparent : j.parentIntentId = i.parentIntentId := congrArg IntentDraft.parentIntentId hd
    rw [Intent.binds, hop, hparent]
    exact hb
  have htrade : j.tradeId = i.tradeId := congrArg IntentDraft.tradeId hd
  have hparent : j.parentIntentId = i.parentIntentId := congrArg IntentDraft.parentIntentId hd
  simp only [Entry.calmFor, hanswer, hbinds, Bool.not_true, Bool.false_or, Bool.and_eq_true,
    Bool.not_eq_true', Bool.or_eq_true] at hfor
  rw [htrade, Store.closed_congr htrades] at hfor
  refine ⟨hfor.1, fun hf hp => ?_⟩
  rw [← Store.leavesOpen_congr htrades hevents hd]
  rcases hfor.2 with (hnone | hold) | hleaves
  · rw [hparent] at hnone
    simp [Option.isNone_iff_eq_none.mp hnone] at hp
  · rcases hfresh hf with hstate | hmarked
    · simp [hstate] at hold
    · simp [hmarked] at hold
  · exact hleaves

/-- Programs whose recorded events satisfy `T`. -/
def Fold.records (T : Event → Prop) (γ : Type) : Fold γ → Prop
  | .recordExchangeEvent e => T e
  | .replayExchangeEventsForTrade _ => False
  | .ask _ => True

theorem asking_records (T : Event → Prop) (m : Asking α) :
    (liftM m : Folding α).All (Fold.records T) :=
  All.lift (fun _ => trivial) m

/-- Binding an answer records the events that the answer tells. -/
theorem recordResponseEvents_records (r : Response) (list : Ident) :
    (recordResponseEvents r list).All (Fold.records fun e => e ∈ r.told list) := by
  unfold recordResponseEvents
  refine .bind (.each fun report hreport => ?_) fun _ => .pure
  unfold recordRestEvent
  refine .bind_ofExcept fun event hevent => ?_
  split
  · next e =>
    have hmem : e ∈ r.told list := by
      refine List.mem_filterMap.mpr ⟨report, hreport, ?_⟩
      rw [hevent]
      rfl
    refine .bind ?_ fun _ => .pure
    unfold recordAuthenticatedEvent
    refine .bind (asking_records _ _) fun inScope => ?_
    split
    · refine .bind (.perform hmem) fun isNew => ?_
      split
      · exact .bind (asking_records _ _) fun _ => .pure
      · exact .pure
    · exact .pure
  · exact .pure

/-- The row of the trade is open, and no stored event with one of its ids closes it. -/
def Unclosed (like : TradeRow) (s : Store) (id : TradeId) : Prop :=
  (∃ row, s.trade id = some row ∧ row.lifecycle.terminal = false ∧
    Store.replaySelects row = Store.replaySelects like) ∧
  ∀ stored ∈ s.events, Store.replaySelects like stored.event = true → stored.event.closes = false

theorem Unclosed.record {like : TradeRow} {s : Store} {id : TradeId} (h : Unclosed like s id)
    {e : Event} (he : e.closes = false) : Unclosed like (s.recordExchangeEvent e).2 id := by
  obtain ⟨⟨row, hrow, hopen, hlike⟩, hevents⟩ := h
  have htrade := s.recordExchangeEvent_trade e id
  rw [hrow] at htrade
  constructor
  · split at htrade
    · exact ⟨row, htrade, hopen, hlike⟩
    · rw [Option.map_some] at htrade
      split at htrade
      · exact ⟨_, htrade, applyEvent_open hopen he _ _, hlike⟩
      · exact ⟨row, htrade, hopen, hlike⟩
  · intro stored hs
    unfold Store.recordExchangeEvent at hs
    dsimp only at hs
    split at hs
    · exact hevents stored hs
    · rcases List.mem_append.mp hs with hs | hs
      · exact hevents stored hs
      · cases List.mem_singleton.mp hs
        exact fun _ => he

theorem Unclosed.replay {like : TradeRow} {s : Store} {id : TradeId} (h : Unclosed like s id) :
    (s.replayExchangeEventsForTrade id).2.closed id = false := by
  obtain ⟨⟨row, hrow, hopen, hlike⟩, hevents⟩ := h
  rw [Store.closed, s.replayExchangeEventsForTrade_trade id, hrow]
  refine foldEvents_open _ hopen fun stored hs => ?_
  obtain ⟨hmem, hselects⟩ := List.mem_filter.mp hs
  exact hevents stored hmem (by rwa [← hlike])

/-- A bind writes an open lifecycle, and none for intents that give a trade no ids. -/
theorem bindFields_lifecycle {row : TradeRow} {ids : ResponseIds} {f : TradeFields}
    (h : bindFields i r i.request row ids = .ok f) :
    (∀ l, f.lifecycle = some l → l.terminal = false) ∧ (i.binds = false → f.lifecycle = none) := by
  have hprotection : ∀ status, bindFields.protectionFields i r i.request row ids status = .ok f →
      ∀ l, f.lifecycle = some l → l.terminal = false := by
    intro status hstatus l hl
    obtain ⟨stop, -, hrest⟩ := except_bind_eq_ok.mp hstatus
    cases hrest
    cases hl
    cases requestMode i.endpoint i.request <;> rfl
  unfold bindFields at h
  unfold Intent.binds
  cases hop : i.operation <;> rw [hop] at h
  case entry =>
    cases h
    exact ⟨fun l hl => by cases hl; rfl, fun hb => by simp at hb⟩
  case protection => exact ⟨hprotection _ h, fun hb => by simp at hb⟩
  case partialFillProtection => exact ⟨hprotection _ h, fun hb => by simp at hb⟩
  all_goals
    cases h
    exact ⟨fun l hl => (by cases hl), fun _ => rfl⟩

theorem Store.upsertTrade_events (s : Store) (id : TradeId) (pair : Pair) (f : TradeFields) :
    (s.upsertTrade id pair f).events = s.events := by
  unfold upsertTrade
  split <;> rfl

/-- The row that a bind has just written. -/
theorem unclosed_upsert {s : Store} {row : TradeRow} {ids : ResponseIds} {f : TradeFields}
    (hrow : s.trade i.tradeId = some row) (hids : responseIds r i.request = .ok ids)
    (hf : bindFields i r i.request row ids = .ok f) (hopen : row.lifecycle.terminal = false)
    (hleaves : s.leavesOpen i r = true) :
    Unclosed (row.set f 0) (s.upsertTrade i.tradeId row.pair f) i.tradeId ∧
      ∀ e ∈ r.told (.ofOption ids.list), e.closes = false := by
  simp only [Store.leavesOpen, hrow, hids, hf, Bool.and_eq_true, List.all_eq_true,
    Bool.not_eq_true'] at hleaves
  refine ⟨⟨⟨row.set f (s.clock + 1), ?_, ?_, rfl⟩, fun stored hs hselects => ?_⟩, hleaves.2⟩
  · rw [Store.upsertTrade_trade, if_pos rfl, hrow]
    rfl
  · change (f.lifecycle.getD row.lifecycle).terminal = false
    cases hl : f.lifecycle with
    | none => exact hopen
    | some l => exact (bindFields_lifecycle hf).1 l hl
  · rw [Store.upsertTrade_events] at hs
    exact hleaves.1 stored (List.mem_filter.mpr ⟨hs, hselects⟩)

/-- Between the write of a bind and its replay: where it matters, the row of the trade is open
and no event that the answer tells closes it. -/
def BoundOpen (strong : Prop) (like : TradeRow) (id : TradeId) (told : List Event)
    (w : World σ) : Prop :=
  Settled w ∧ (strong → calm w.history = true →
    Unclosed like w.store id ∧ ∀ e ∈ told, e.closes = false)

theorem BoundOpen.fold {strong : Prop} {like : TradeRow} {id : TradeId} {told : List Event}
    {f : Fold γ} (hf : Fold.records (fun e => e ∈ told) γ f) (w : World σ)
    (h : BoundOpen strong like id told w) :
    BoundOpen strong like id told (f.exec env γ w).2 := by
  refine ⟨h.1.gentle env (a := .fold f) trivial, fun hs hcalm => ?_⟩
  have hsuffix := Act.exec_suffix env (.fold f) w
  obtain ⟨hunclosed, htold⟩ := h.2 hs (calm_of_suffix hsuffix hcalm)
  refine ⟨?_, htold⟩
  cases f with
  | ask a =>
    have hsame := Ask.exec_cases env a w
    unfold Unclosed Store.trade at *
    rw [Fold.exec, hsame.1, hsame.2.2]
    exact hunclosed
  | recordExchangeEvent e => exact hunclosed.record (htold e hf)
  | replayExchangeEventsForTrade id' => exact hf.elim

theorem BoundOpen.keeps (strong : Prop) (like : TradeRow) (id : TradeId) (r : Response)
    (list : Ident) : Keeps (Fold.exec env) (BoundOpen strong like id (r.told list))
      (recordResponseEvents r list) :=
  (recordResponseEvents_records r list).keeps fun _ hf w hw => BoundOpen.fold hf w hw

/-- A bind of what was told opens no closed trade; a replacement that has just been made is
open after it. -/
theorem settled_bindConfirmedIntent (hd : j.draft = i.draft) :
    Triple (Act.exec env) (fun w => Settled w ∧ Told fresh i r w)
      (bindConfirmedIntent j r i.request)
      (fun _ w => Settled w ∧
        (fresh = true → i.parentIntentId.isSome = true → OpenNow i.tradeId w))
      (fun _ => Settled) Settled := by
  have hid : j.tradeId = i.tradeId := congrArg IntentDraft.tradeId hd
  have hrequest : i.request = j.request := congrArg IntentDraft.request hd.symm
  refine Triple.assume fun w₀ hw₀ => ?_
  obtain ⟨hsettled, htold⟩ := hw₀
  unfold bindConfirmedIntent
  refine Triple.bind (Q := fun s w => w = w₀ ∧ s = w₀.store) ?_ fun s =>
    Triple.assume_eq fun hs => ?_
  · refine (triple_theStore fun w hw => ?_).post ?_
    · rw [hw]
      exact hsettled
    · rintro s w ⟨rfl, rfl⟩
      exact ⟨rfl, rfl⟩
  · subst hs
    rw [hid]
    split
    · next hnone =>
      refine .pure ?_
      rintro w rfl
      exact ⟨hsettled, fun _ _ _ => by rw [Store.closed, hnone]; rfl⟩
    · next row hrow =>
      refine Triple.bind (Q := fun ids w => w = w₀ ∧ responseIds r i.request = .ok ids)
        (.ofExcept (fun ids hids w hw => ⟨hw, hids⟩) fun _ _ w hw => hw ▸ hsettled) fun ids =>
          Triple.assume_eq fun hids => ?_
      refine Triple.bind (Q := fun f w => w = w₀ ∧ bindFields j r i.request row ids = .ok f)
        (.ofExcept (fun f hf w hw => ⟨hw, hf⟩) fun _ _ w hw => hw ▸ hsettled) fun f =>
          Triple.assume_eq fun hf => ?_
      rw [bindFields_congr hd] at hf
      have hopens : i.binds = true → calm w₀.history = true → row.lifecycle.terminal = false := by
        intro hb hcalm
        have hclosed := (htold.calm hb hcalm).1
        rw [Store.closed, hrow] at hclosed
        exact hclosed
      refine Triple.bind (Q := fun _ => BoundOpen
        (fresh = true ∧ i.parentIntentId.isSome = true) (row.set f 0) i.tradeId
        (r.told (.ofOption ids.list))) ?_ fun _ => ?_
      · refine Triple.perform ?_ ?_ fun w e w' _ heq => nomatch heq
        · rintro w rfl
          exact hsettled
        · rintro w _ w' rfl heq
          cases heq
          have hnoted : Settled { w.note (.upserted i.tradeId f) with
              store := w.store.upsertTrade i.tradeId row.pair f } := by
            refine hsettled.act env (.upsertTrade i.tradeId row.pair f) fun hcalm id hid => ?_
            refine Store.closed_upsert ?_ hid
            cases hb : i.binds with
            | true => exact .inr (htold.calm hb hcalm).1
            | false => exact .inl (by rw [(bindFields_lifecycle hf).2 hb]; rfl)
          refine ⟨hnoted, fun hstrong hcalm => ?_⟩
          have hbefore := calm_of_suffix (List.suffix_cons _ _) hcalm
          have hb : i.binds = true := by simp [Intent.binds, hstrong.2]
          exact unclosed_upsert hrow hids hf (hopens hb hbefore)
            ((htold.calm hb hbefore).2 hstrong.1 hstrong.2)
      · refine Triple.bind (Q := fun _ => BoundOpen
          (fresh = true ∧ i.parentIntentId.isSome = true) (row.set f 0) i.tradeId
          (r.told (.ofOption ids.list))) ?_ fun _ => ?_
        · exact (Triple.folded (BoundOpen.keeps _ _ _ _ _)).conseq (fun _ hw => hw)
            (fun _ _ hw => hw) (fun _ _ hw => hw.1) fun _ hw => hw.1
        · refine Triple.folded ?_
          unfold replayTrade
          refine Triple.bind (Q := fun _ w => Settled w ∧
            (fresh = true → i.parentIntentId.isSome = true → OpenNow i.tradeId w)) ?_ fun _ =>
            .pure fun _ hw => hw
          refine Triple.perform (fun w hw => hw.1) ?_ fun w e w' _ heq => nomatch heq
          intro w n w' hw heq
          cases heq
          have hgentle : Act.gentle _ (.fold (.replayExchangeEventsForTrade i.tradeId)) := trivial
          refine ⟨hw.1.gentle env hgentle, fun h h' hcalm => ?_⟩
          exact (hw.2 ⟨h, h'⟩ hcalm).1.replay

/-- A bind of the intent that the ledger holds under an id. -/
theorem settled_bindIntent (fresh : Bool) (i : Intent) (r : Response) :
    Triple (Act.exec env)
      (fun w => Settled w ∧ (∃ j ∈ w.store.intents, j.draft = i.draft) ∧ Told fresh i r w)
      (bindIntent i.intentId r i.request)
      (fun _ w => Settled w ∧
        (fresh = true → i.parentIntentId.isSome = true → OpenNow i.tradeId w))
      (fun _ => Settled) Settled := by
  unfold bindIntent
  refine Triple.bind (triple_theStore fun w hw => hw.1) fun s => ?_
  split
  · next j hj =>
    refine Triple.weaken (R := fun w => (Settled w ∧ Told fresh i r w) ∧ j.draft = i.draft) ?_ ?_
    · exact Triple.assume_eq fun hd => settled_bindConfirmedIntent hd
    · rintro w ⟨⟨hsettled, ⟨k, hk, hd⟩, htold⟩, rfl⟩
      have hid : k.intentId = i.intentId := congrArg IntentDraft.intentId hd
      have hsame := Store.intent_of_mem hk
      rw [hid, hj] at hsame
      cases hsame
      exact ⟨⟨hsettled, htold⟩, hd⟩
  · exact .raise fun w hw => hw.1.1

/-- What a confirmed submission has learned, as its caller sees it. -/
def Submitted.Tells (submitted : Submitted) (d : IntentDraft) (w : World σ) : Prop :=
  submitted.intentId = d.intentId ∧ Confirmed (d.row 0) submitted.state submitted.response w

/-- What a submission tells, beside what it keeps. -/
theorem settled_submitOnce {X : World σ → Prop} (operation : Operation) (tradeId : TradeId)
    (symbol : Symbol) (endpoint : Endpoint) (params : Params) (parent : Option IntentId)
    (hX : Keeps (Act.exec env) (fun w => Settled w ∧ X w)
      (submitOnce cfg operation tradeId symbol endpoint params parent)) :
    Triple (Act.exec env) (fun w => Settled w ∧ X w)
      (submitOnce cfg operation tradeId symbol endpoint params parent)
      (fun submitted w => (Settled w ∧ X w) ∧
        submitted.Tells (submissionDraft cfg operation tradeId symbol endpoint params parent) w)
      (fun _ => Settled) Settled :=
  (hX.and (triple_submitOnce operation tradeId symbol endpoint params parent)).conseq
    (fun _ hw => ⟨hw, trivial⟩) (fun _ _ hw => hw) (fun _ _ hw => hw.1.1) fun _ hw => hw.1.1

theorem settled_submitted (operation : Operation) (tradeId : TradeId) (symbol : Symbol)
    (endpoint : Endpoint) (params : Params) (parent : Option IntentId) :
    Triple (Act.exec env) Settled
      (submitOnce cfg operation tradeId symbol endpoint params parent)
      (fun submitted w => Settled w ∧
        submitted.Tells (submissionDraft cfg operation tradeId symbol endpoint params parent) w)
      (fun _ => Settled) Settled :=
  ((settled_still (.submitOnce _ _ _ _ _ _)).and
    (triple_submitOnce operation tradeId symbol endpoint params parent)).conseq
    (fun _ hw => ⟨hw, trivial⟩) (fun _ _ hw => hw) (fun _ _ hw => hw.1) fun _ hw => hw.1

/-- The bind of a submission that ended confirmed. -/
theorem settled_bindSubmitted (d : IntentDraft) {submitted : Submitted}
    (hstate : submitted.state = .confirmed) (hresponse : submitted.response = some r) :
    Triple (Act.exec env) (fun w => Settled w ∧ submitted.Tells d w)
      (bindIntent submitted.intentId r d.request)
      (fun _ w => Settled w ∧ (d.parentIntentId.isSome = true → OpenNow d.tradeId w))
      (fun _ => Settled) Settled := by
  refine Triple.weaken (R := fun w => (Settled w ∧
    Confirmed (d.row 0) submitted.state submitted.response w) ∧ submitted.intentId = d.intentId)
    ?_ fun w hw => ⟨⟨hw.1, hw.2.2⟩, hw.2.1⟩
  refine Triple.assume_eq fun hid => ?_
  rw [hid]
  refine (settled_bindIntent true (d.row 0) r).conseq ?_ ?_ (fun _ _ hw => hw) fun _ hw => hw
  · intro w hw
    obtain ⟨hledger, htold⟩ := hw.2 hstate r hresponse
    exact ⟨hw.1, hledger, htold⟩
  · exact fun _ w hw => ⟨hw.1, hw.2 rfl⟩

end binding

section operations

theorem settled_submitEntry (id : TradeId) (symbol : Symbol) (pair : Pair) (endpoint : Endpoint)
    (params : Params) : Triple (Act.exec env) (fun w => Settled w ∧ OpenNow id w)
      (submitEntry cfg id symbol pair endpoint params) (fun _ => Settled) (fun _ => Settled)
      Settled := by
  have hask : ∀ {β : Type} (m : Asking β), Triple (Act.exec env)
      (fun w => Settled w ∧ OpenNow id w) (liftM m : Acting β)
      (fun _ w => Settled w ∧ OpenNow id w) (fun _ => Settled) Settled :=
    fun m => (settled_open_still (.asking m)).conseq (fun _ hw => hw) (fun _ _ hw => hw)
      (fun _ _ hw => hw.1) fun _ hw => hw.1
  unfold submitEntry
  refine Triple.bind (hask _) fun now => Triple.bind (hask _) fun s => ?_
  refine Triple.bind (Q := fun _ w => Settled w ∧ OpenNow id w)
    ((settled_upsert_open _ _ _).post fun _ w hw => ⟨hw.1, hw.2 rfl⟩) fun _ => ?_
  refine Triple.bind (settled_submitOnce _ _ _ _ _ _
    (settled_open_still (.submitOnce _ _ _ _ _ _))) fun submitted => ?_
  split
  · refine Triple.bind ((settled_upsert_closed _ _ rfl).weaken fun w hw => hw.1.1) fun _ => ?_
    exact .pure fun w hw => hw
  · next response hstate hresponse =>
    have hbind : Triple (Act.exec env) _ (bindIntent submitted.intentId response params) _ _ _ :=
      settled_bindSubmitted (submissionDraft cfg .entry id symbol endpoint params none) hstate
        hresponse
    exact Triple.bind (hbind.weaken fun w hw => ⟨hw.1.1, hw.2⟩) fun _ => .pure fun w hw => hw.1
  · exact .raise fun w hw => hw.1.1
  · refine Triple.bind ((settled_upsert_open _ _ _).weaken fun w hw => hw.1) fun _ => ?_
    exact .pure fun w hw => hw.1

theorem settled_submit (symbol : Symbol) (id : TradeId) :
    Triple (Act.exec env) (fun w => Settled w ∧ w.store.closed id = false) (submit cfg symbol id)
      (fun _ => Settled) (fun _ => Settled) Settled := by
  refine Triple.weaken (R := fun w => Settled w ∧ OpenNow id w) ?_ fun w hw => ⟨hw.1, fun _ => hw.2⟩
  have hask : ∀ {β : Type} (m : Asking β), Triple (Act.exec env)
      (fun w => Settled w ∧ OpenNow id w) (liftM m : Acting β)
      (fun _ w => Settled w ∧ OpenNow id w) (fun _ => Settled) Settled :=
    fun m => (settled_open_still (.asking m)).conseq (fun _ hw => hw) (fun _ _ hw => hw)
      (fun _ _ hw => hw.1) fun _ hw => hw.1
  unfold submit
  refine Triple.bind (hask _) fun m => Triple.bind (hask _) fun s => ?_
  split
  · exact .pure fun w hw => hw.1
  · refine Triple.bind (hask _) fun active => ?_
    split
    · exact .pure fun w hw => hw.1
    · split
      · exact .pure fun w hw => hw.1
      · refine Triple.bind (hask _) fun s => ?_
        split
        · exact .pure fun w hw => hw.1
        · split
          · exact .pure fun w hw => hw.1
          · refine Triple.bind (hask _) fun plan => ?_
            split
            · exact .pure fun w hw => hw.1
            · exact settled_submitEntry _ _ _ _ _

theorem settled_protectFilled (row : TradeRow) (symbol : Symbol) (pair : Pair)
    (rules : SymbolRules) :
    Keeps (Act.exec env) Settled (protectFilled cfg row symbol pair rules) := by
  unfold protectFilled
  refine .bind (settled_asking _) fun held => ?_
  dsimp only
  split
  · exact .pure
  · refine .bind (settled_asking _) fun entryPrice => .bind (settled_asking _) fun current => ?_
    refine .bind (settled_asking _) fun s => .bind (settled_asking _) fun _ => ?_
    refine .bind (settled_asking _) ?_
    rintro ⟨endpoint, params⟩
    refine .bind (settled_asking _) fun _ => ?_
    refine Triple.bind (settled_submitted _ _ _ _ _ _) fun submitted => ?_
    split
    · next response hstate hresponse =>
      have hbind : Triple (Act.exec env) _ (bindIntent submitted.intentId response params) _ _ _ :=
        settled_bindSubmitted (submissionDraft cfg .partialFillProtection row.tradeId symbol
          endpoint params none) hstate hresponse
      refine Triple.bind hbind fun _ => ?_
      refine Triple.bind ((settled_upsert_closed _ _ rfl).weaken fun w hw => hw.1) fun _ => ?_
      exact .pure fun w hw => hw
    · exact .raise fun w hw => hw.1
    · exact .pure fun w hw => hw.1

theorem settled_verifyExit (plan : ExitPlan) (response : Response) :
    Keeps (Act.exec env) Settled (verifyExit plan response) := by
  unfold verifyExit
  refine .bind (settled_folding _) fun result => ?_
  split
  · exact .pure
  · split
    · exact .pure
    · refine .bind (settled_asking _) fun free => ?_
      split
      · exact .bind (settled_upsert_closed _ _ rfl) fun _ => .pure
      · exact .pure

theorem settled_sellOut (plan : ExitPlan) : Keeps (Act.exec env) Settled (sellOut cfg plan) := by
  unfold sellOut
  refine .bind (settled_asking _) fun bid => .bind (settled_asking _) fun client => ?_
  refine .bind (settled_asking _) fun _ => ?_
  refine Triple.bind (settled_submitted _ _ _ _ _ _) fun submitted => ?_
  split
  · next response hstate hresponse =>
    have hbind : Triple (Act.exec env) _ (bindIntent submitted.intentId response _) _ _ _ :=
      settled_bindSubmitted (submissionDraft cfg .emergencyExit plan.row.tradeId plan.symbol .order
        (exitRequest plan.symbol plan.qty (floorStep (bid * (99 / 100)) plan.rules.tick) client)
        none) hstate hresponse
    refine Triple.bind hbind fun _ => ?_
    exact (settled_verifyExit _ _).weaken fun w hw => hw.1
  · exact .raise fun w hw => hw.1
  · exact .pure fun w hw => hw.1

theorem settled_emergencyExit (symbol : Symbol) :
    Keeps (Act.exec env) Settled (emergencyExit cfg symbol) := by
  unfold emergencyExit
  refine .bind (settled_asking _) fun s => .bind .ofExcept fun found => ?_
  split
  · exact .pure
  · refine .bind (settled_asking _) fun _ => .bind (settled_still (.cancelProtection _ _)) ?_
    rintro ⟨canceled, detail⟩
    dsimp only
    split
    · unfold exitCanceled
      refine .bind (settled_asking _) fun active => .bind (settled_asking _) fun rules => ?_
      split
      · exact .pure
      · refine .bind (settled_asking _) fun free => ?_
        dsimp only
        split
        · exact .pure
        · exact settled_sellOut _
    · exact .pure

theorem Store.closed_of_mem {s : Store} {row : TradeRow} (h : row ∈ s.trades)
    (hopen : row.lifecycle.terminal = false) : s.closed row.tradeId = false := by
  rw [Store.closed, Store.trade_of_mem h]
  exact hopen

/-- A conversion is planned for an open trade. -/
theorem open_planConversion (symbol : Symbol) (args : ConvertArgs) :
    Triple (Ask.exec env) (fun _ => True) (planConversion cfg symbol args)
      (fun r w => ∀ c, r = .ok c → w.store.closed c.row.tradeId = false)
      (fun _ _ => True) (fun _ => True) :=
  (triple_planned symbol args).post fun _ _ hw c hc =>
    Store.closed_of_mem (mem_activeTradeRows.mp (hw c hc)).1 (mem_activeTradeRows.mp (hw c hc)).2

theorem settled_finishConversion (args : ConvertArgs) (c : Conversion) (endpoint : Endpoint)
    (params : Params) (held : ℚ) (planId : IntentId) {submitted : Submitted} {r : Response}
    (hstate : submitted.state = .confirmed) (hresponse : submitted.response = some r) :
    Triple (Act.exec env) (fun w => Settled w ∧ submitted.Tells
        (submissionDraft cfg .protection c.row.tradeId c.symbol endpoint params (some planId)) w)
      (finishConversion cfg args c endpoint params held submitted.intentId r)
      (fun _ => Settled) (fun _ => Settled) Settled := by
  have hbind : Triple (Act.exec env) _ (bindIntent submitted.intentId r params) _ _ _ :=
    settled_bindSubmitted (submissionDraft cfg .protection c.row.tradeId c.symbol endpoint params
      (some planId)) hstate hresponse
  unfold finishConversion
  refine Triple.bind (Q := fun _ w => Settled w ∧ OpenNow c.row.tradeId w)
    (hbind.post fun _ w hw => ⟨hw.1, hw.2 rfl⟩) fun _ => ?_
  refine Triple.bind (.ofExcept (fun _ _ w hw => hw) fun _ _ w hw => hw.1) fun ids => ?_
  refine Triple.bind (.ofExcept (fun _ _ w hw => hw) fun _ _ w hw => hw.1) fun stop => ?_
  refine Triple.bind (settled_upsert_open _ _ _) fun _ => .pure fun w hw => hw.1

theorem settled_submitReplacement (args : ConvertArgs) (c : Conversion) (planId : IntentId)
    (held : ℚ) : Triple (Act.exec env) (fun w => Settled w ∧ OpenNow c.row.tradeId w)
      (submitReplacement cfg args c planId held) (fun _ => Settled) (fun _ => Settled)
      Settled := by
  have hask : ∀ {β : Type} (m : Asking β), Triple (Act.exec env)
      (fun w => Settled w ∧ OpenNow c.row.tradeId w) (liftM m : Acting β)
      (fun _ w => Settled w ∧ OpenNow c.row.tradeId w) (fun _ => Settled) Settled :=
    fun m => (settled_open_still (.asking m)).conseq (fun _ hw => hw) (fun _ _ hw => hw)
      (fun _ _ hw => hw.1) fun _ hw => hw.1
  unfold submitReplacement
  refine Triple.bind (hask _) ?_
  rintro ⟨endpoint, params⟩
  refine Triple.bind (hask _) fun _ => ?_
  refine Triple.bind (settled_submitOnce _ _ _ _ _ _
    (settled_open_still (.submitOnce _ _ _ _ _ _))) fun submitted => ?_
  split
  · next response hstate hresponse =>
    exact (settled_finishConversion args c endpoint params held planId hstate hresponse).weaken
      fun w hw => ⟨hw.1.1, hw.2⟩
  · exact .raise fun w hw => hw.1.1
  · refine Triple.bind ((settled_upsert_open _ _ _).weaken fun w hw => hw.1) fun _ => ?_
    exact .pure fun w hw => hw.1

theorem settled_convert (symbol : Symbol) (args : ConvertArgs) :
    Keeps (Act.exec env) Settled (convert cfg symbol args) := by
  have hstill : ∀ {β : Type} {id : TradeId} {m : Acting β}, Still m → Triple (Act.exec env)
      (fun w => Settled w ∧ OpenNow id w) m (fun _ w => Settled w ∧ OpenNow id w)
      (fun _ => Settled) Settled :=
    fun hm => (settled_open_still hm).conseq (fun _ hw => hw) (fun _ _ hw => hw)
      (fun _ _ hw => hw.1) fun _ hw => hw.1
  unfold convert
  refine Triple.bind
    (((settled_asking _).and (Triple.asked (open_planConversion symbol args))).conseq
    (fun _ hw => ⟨hw, trivial⟩) (fun _ _ hw => hw) (fun _ _ hw => hw.1) fun _ hw => hw.1)
    fun planned => ?_
  split
  · exact .pure fun w hw => hw.1
  · next c =>
    refine Triple.weaken (R := fun w => Settled w ∧ OpenNow c.row.tradeId w) ?_
      fun w hw => ⟨hw.1, fun _ => hw.2 c rfl⟩
    unfold executeConversion
    refine Triple.bind (hstill (.perform trivial)) fun isNew => ?_
    split
    · refine Triple.bind (hstill (.asking _)) fun _ => Triple.bind (hstill (.asking _)) fun _ => ?_
      refine Triple.bind (hstill (.cancelProtection _ _)) ?_
      rintro ⟨canceled, detail⟩
      dsimp only
      split
      · unfold replaceCanceled
        refine Triple.bind (hstill (.asking _)) fun free => ?_
        dsimp only
        split
        · refine Triple.bind (hstill (.asking _)) fun balances => ?_
          split
          · exact .pure fun w hw => hw.1
          · refine Triple.bind (hstill (.finishes (.finish _ _ _))) fun _ => ?_
            refine Triple.bind ((settled_upsert_closed _ _ rfl).weaken fun w hw => hw.1) fun _ => ?_
            exact .pure fun w hw => hw
        · exact settled_submitReplacement _ _ _ _
      · exact .pure fun w hw => hw.1
    · exact .pure fun w hw => hw.1

theorem Confirmed.keeps {i : Intent} {state : IntentState} {response : Option Response}
    {m : Acting α} (hm : Still m) : Keeps (Act.exec env) (Confirmed i state response) m :=
  hm.keeps fun {γ} a ha w hw hstate r hr => by
    obtain ⟨⟨j, hj, hd⟩, htold⟩ := hw hstate r hr
    have hle : Store.LedgerLe w.store (a.exec env γ w).2.store := Act.exec_ledgerLe a w
    obtain ⟨k, hk, hdraft, -⟩ := hle _ j (Store.intent_of_mem hj)
    have hsame := Act.still_exec env ha w
    exact ⟨⟨k, (Store.intent_mem hk).1, hdraft.trans hd⟩,
      htold.congr (a.exec_suffix env w) hsame.1 hsame.2⟩

/-- Binding a resumed replacement. -/
theorem settled_bindRecovered {i : Intent} (hparent : i.parentIntentId.isSome = true)
    (state : IntentState) (response : Option Response) (pair : Pair) (mode : ProtectionMode)
    (status : String) :
    Triple (Act.exec env) (fun w => Settled w ∧ Confirmed i state response w)
      (bindRecovered state response i.intentId i.tradeId pair mode i.request status)
      (fun _ => Settled) (fun _ => Settled) Settled := by
  unfold bindRecovered
  split
  · next r =>
    refine Triple.bind (Q := fun _ w => Settled w ∧ OpenNow i.tradeId w) ?_ fun _ => ?_
    · refine (settled_bindIntent true i r).conseq (fun w hw => ?_)
        (fun _ w hw => ⟨hw.1, hw.2 rfl hparent⟩) (fun _ _ hw => hw) fun _ hw => hw
      obtain ⟨hledger, htold⟩ := hw.2 rfl r rfl
      exact ⟨hw.1, hledger, htold⟩
    · exact (settled_upsert_open _ _ _).post fun _ w hw => hw.1
  · exact .pure fun w hw => hw.1

theorem settled_resumed (i : Intent) :
    Triple (Act.exec env) (fun w => Settled w ∧ ∃ j ∈ w.store.intents, j.draft = i.draft)
      (resumeExistingPreparedSubmission cfg i i.request)
      (fun r w => Settled w ∧ Confirmed i r.1 r.2 w) (fun _ => Settled) Settled :=
  ((settled_still (.resumeExisting _ _)).and (triple_resumeExisting i)).conseq
    (fun _ hw => hw) (fun _ _ hw => hw) (fun _ _ hw => hw.1) fun _ hw => hw.1

theorem settled_asking_known (i : Intent) (m : Asking α) : Triple (Act.exec env)
    (fun w => Settled w ∧ w.store.Knows i) (liftM m : Acting α)
    (fun _ w => Settled w ∧ w.store.Knows i) (fun _ => Settled) Settled :=
  ((settled_asking m).and (keeps_knows i _)).conseq (fun _ hw => hw) (fun _ _ hw => hw)
    (fun _ _ hw => hw.1) fun _ hw => hw.1

theorem Store.Knows.mem {s : Store} {i : Intent} (h : s.Knows i) :
    ∃ j ∈ s.intents, j.draft = i.draft := by
  obtain ⟨j, hj, hd, -⟩ := h
  exact ⟨j, (Store.intent_mem hj).1, hd⟩

theorem settled_resolvePlacement (i : Intent) :
    Triple (Act.exec env) (fun w => Settled w ∧ w.store.Knows i)
      (resolvePlacement i i.request) (fun _ => Settled) (fun _ => Settled) Settled := by
  unfold resolvePlacement
  have hlookup : Triple (Act.exec env) (fun w => Settled w ∧ w.store.Knows i)
      (liftM (lookupPlaced i i.symbol) : Acting Reply)
      (fun reply w => (Settled w ∧ w.store.Knows i) ∧ ∀ r, reply = some r → Told false i r w)
      (fun _ => Settled) Settled := by
    refine ((settled_asking_known i _).and
      (Triple.asked (triple_lookupPlaced false i i.symbol))).conseq (fun w hw => ⟨hw, ?_⟩)
      (fun _ _ hw => hw) (fun _ _ hw => hw.1) fun _ hw => hw.1
    obtain ⟨j, hj, hd⟩ := hw.2.mem
    exact ⟨j, hj, hd, fun h => nomatch h⟩
  refine Triple.bind hlookup fun reply => ?_
  split
  · next response =>
    refine Triple.bind (Q := fun _ w => (Settled w ∧ w.store.Knows i) ∧ Told false i response w)
      (.ensure (fun _ w hw => ⟨hw.1, hw.2 response rfl⟩) fun _ w hw => hw.1.1) fun _ => ?_
    have hstill : Still (finishWith i.intentId .confirmed response
        (some "confirmed by deterministic client-ID GET")) := .finishes (.finishWith _ _ _ _)
    refine Triple.bind (Q := fun _ w => Settled w ∧
      (∃ j ∈ w.store.intents, j.draft = i.draft) ∧ Told false i response w) ?_ fun _ => ?_
    · refine (((settled_still hstill).and (keeps_knows i _)).and (Told.keeps hstill)).conseq
        (fun w hw => hw) (fun _ w hw => ⟨hw.1.1, hw.1.2.mem, hw.2⟩)
        (fun _ _ hw => hw.1.1) fun _ hw => hw.1.1
    · exact (settled_bindIntent false i response).post fun _ _ hw => hw.1
  · exact .raise fun w hw => hw.1.1

theorem settled_abortPrepared (i : Intent) : Keeps (Act.exec env) Settled (abortPrepared i) := by
  unfold abortPrepared
  refine .bind (settled_still (.finishes (.finish _ _ _))) fun _ => ?_
  split
  · refine .bind (settled_asking _) fun s => ?_
    split
    · exact settled_upsert_closed _ _ rfl
    · exact .pure
  · exact .pure

theorem settled_resolveIntent (i : Intent) :
    Triple (Act.exec env) (fun w => Settled w ∧ w.store.Knows i) (resolveIntent cfg i)
      (fun _ => Settled) (fun _ => Settled) Settled := by
  unfold resolveIntent
  refine Triple.bind (Q := fun request w => (Settled w ∧ w.store.Knows i) ∧ request = i.request)
    ((triple_intentRequest i fun w hw => hw.1)) fun request => Triple.assume_eq fun hrequest => ?_
  subst hrequest
  split
  · split
    · exact .pure fun w hw => hw.1
    · split
      · next hchild =>
        refine Triple.bind (Q := fun _ => Settled) ?_ fun _ => .pure fun w hw => hw
        unfold resolvePreparedChild
        refine Triple.bind (Q := fun s w => (Settled w ∧ w.store.Knows i)) ?_ fun s => ?_
        · exact settled_asking_known i _
        · split
          · exact .raise fun w hw => hw.1
          · next row hrow =>
            have hid : row.tradeId = i.tradeId := (Store.trade_mem hrow).2
            refine Triple.bind (settled_asking_known i _) fun rules => ?_
            refine Triple.bind (settled_asking_known i _) fun _ => ?_
            refine Triple.bind ((settled_resumed i).weaken fun w hw => ⟨hw.1, hw.2.mem⟩) ?_
            rintro ⟨state, response⟩
            rw [hid]
            exact settled_bindRecovered hchild.2 _ _ _ _ _
      · refine Keeps.weaken ?_ fun w hw => hw.1
        exact Keeps.bind (settled_abortPrepared _) fun _ => .pure
  · split
    · refine Keeps.weaken ?_ fun w hw => hw.1
      exact Keeps.bind (settled_still (.finishes (.resolveCancel _ _))) fun _ => .pure
    · exact Triple.bind (settled_resolvePlacement i) fun _ => .pure fun w hw => hw

theorem settled_submitPlan (plan : Intent) (request : Params) (row : TradeRow)
    (rules : SymbolRules) :
    Keeps (Act.exec env) Settled (submitPlan cfg plan request row rules) := by
  unfold submitPlan
  refine .bind .ensure fun _ => .bind (settled_asking _) fun free => ?_
  dsimp only
  split
  · refine .bind (settled_asking _) fun balances => .bind .ensure fun _ => ?_
    refine .bind (settled_still (.finishes (.finish _ _ _))) fun _ => ?_
    exact .bind (settled_upsert_closed _ _ rfl) fun _ => .pure
  · refine .bind (settled_asking _) fun _ => ?_
    generalize hparams : plannedRequest request (request.quantity.getD 0)
      (floorStep free rules.step) rules.step = params
    generalize hd : submissionDraft cfg .protection plan.tradeId plan.symbol plan.endpoint params
      (some plan.intentId) = d
    have hsubmit : Triple (Act.exec env) Settled (submitOnce cfg .protection plan.tradeId
        plan.symbol plan.endpoint params (some plan.intentId))
        (fun submitted w => Settled w ∧ submitted.Tells d w) (fun _ => Settled) Settled :=
      hd ▸ settled_submitted _ _ _ _ _ _
    refine Triple.bind hsubmit fun submitted => ?_
    have hclose : Still (closePlan plan "replacement plan resumed into child intent") :=
      .finishes (.finish _ _ _)
    refine Triple.bind (Q := fun _ w => (Settled w ∧ Confirmed (d.row 0) submitted.state
      submitted.response w) ∧ submitted.intentId = d.intentId) ?_ fun _ => ?_
    · refine Triple.weaken (R := fun w => (Settled w ∧ Confirmed (d.row 0) submitted.state
        submitted.response w) ∧ submitted.intentId = d.intentId) ?_
        fun w hw => ⟨⟨hw.1, hw.2.2⟩, hw.2.1⟩
      refine Triple.assume_eq fun hid => ?_
      exact ((settled_still hclose).and (Confirmed.keeps hclose)).conseq (fun _ hw => hw)
        (fun _ _ hw => ⟨hw, hid⟩) (fun _ _ hw => hw.1) fun _ hw => hw.1
    · refine Triple.assume_eq fun hid => ?_
      rw [hid]
      subst hd
      refine Triple.bind ?_ fun _ => .pure fun w hw => hw
      exact settled_bindRecovered (i := (submissionDraft cfg .protection plan.tradeId plan.symbol
        plan.endpoint params (some plan.intentId)).row 0) rfl _ _ _ _ _

theorem settled_resumeChild (plan : Intent) (row : TradeRow) (rules : SymbolRules)
    {child : Intent} (htrade : child.tradeId = plan.tradeId)
    (hparent : child.parentIntentId.isSome = true) :
    Triple (Act.exec env) (fun w => Settled w ∧ w.store.Knows child)
      (resumeChild cfg plan row rules child) (fun _ => Settled) (fun _ => Settled) Settled := by
  unfold resumeChild
  refine Triple.bind (triple_intentRequest child fun w hw => hw.1) fun request =>
    Triple.assume_eq fun hrequest => ?_
  subst hrequest
  refine Triple.bind (settled_asking_known child _) fun _ => ?_
  refine Triple.bind ((settled_resumed child).weaken fun w hw => ⟨hw.1, hw.2.mem⟩) ?_
  rintro ⟨state, response⟩
  rw [← htrade]
  refine Triple.bind (settled_bindRecovered hparent _ _ _ _ _) fun _ => ?_
  exact settled_still (.finishes (.finish _ _ _))

/-- A child that is confirmed is looked up and bound once more. -/
theorem settled_rebindChild (plan : Intent) (row : TradeRow) {child : Intent}
    (htrade : child.tradeId = plan.tradeId) (hparent : child.parentIntentId.isSome = true)
    (hstate : child.state = .confirmed) :
    Triple (Act.exec env) (fun w => Settled w ∧ child ∈ w.store.intents)
      (rebindChild cfg plan row child) (fun _ => Settled) (fun _ => Settled) Settled := by
  unfold rebindChild
  refine Triple.bind (Q := fun reply w => Settled w ∧ ∀ r, reply = some r → Told true child r w)
    ?_ fun reply => ?_
  · refine ((settled_asking _).and (Triple.asked
      (triple_lookupPlaced true child plan.symbol))).conseq (fun w hw => ⟨hw.1, ?_⟩)
      (fun _ _ hw => hw) (fun _ _ hw => hw.1) fun _ hw => hw.1
    exact ⟨child, hw.2, rfl, fun _ => hstate⟩
  · refine Triple.bind (triple_intentRequest child fun w hw => hw.1) fun request =>
      Triple.assume_eq fun hrequest => ?_
    subst hrequest
    refine Triple.bind (Q := fun response w => Settled w ∧ Told true child response w) ?_
      fun response => ?_
    · cases reply with
      | none => exact .raise fun w hw => hw.1
      | some r => exact .pure fun w hw => ⟨hw.1, hw.2 r rfl⟩
    · refine Triple.bind (Q := fun _ w => Settled w ∧ OpenNow plan.tradeId w)
        ((settled_bindConfirmedIntent rfl).post fun _ w hw => ⟨hw.1, htrade ▸ hw.2 rfl hparent⟩)
        fun _ => ?_
      refine Triple.bind ((settled_upsert_open _ _ _).post fun _ w hw => hw.1) fun _ => ?_
      exact settled_still (.finishes (.finish _ _ _))

/-- Questions leave the ledger as it was read. -/
theorem settled_asking_ledger (intents : List Intent) (m : Asking α) : Triple (Act.exec env)
    (fun w => Settled w ∧ ∀ i ∈ intents, i ∈ w.store.intents) (liftM m : Acting α)
    (fun _ w => Settled w ∧ ∀ i ∈ intents, i ∈ w.store.intents) (fun _ => Settled) Settled := by
  have hledger : Keeps (Act.exec env) (fun w => ∀ i ∈ intents, i ∈ w.store.intents)
      (liftM m : Acting α) := keeps_asking (fun a w hw => by
    rw [(Ask.exec_cases env a w).2.1]
    exact hw) m
  exact ((settled_asking m).and hledger).conseq (fun _ hw => hw) (fun _ _ hw => hw)
    (fun _ _ hw => hw.1) fun _ hw => hw.1

theorem settled_resumeAfterCancel (plan : Intent) (request : Params) (related : List Intent)
    (hrelated : ∀ i ∈ related, i.tradeId = plan.tradeId) :
    Triple (Act.exec env) (fun w => Settled w ∧ ∀ i ∈ related, i ∈ w.store.intents)
      (resumeAfterCancel cfg plan request related) (fun _ => Settled) (fun _ => Settled)
      Settled := by
  unfold resumeAfterCancel
  refine Triple.bind (settled_asking_ledger _ _) fun s => ?_
  split
  · exact .raise fun w hw => hw.1
  · refine Triple.bind (settled_asking_ledger _ _) fun active => ?_
    refine Triple.bind (settled_asking_ledger _ _) fun rules => ?_
    split
    · exact (settled_submitPlan _ _ _ _).weaken fun w hw => hw.1
    · next child hchild =>
      obtain ⟨hmem, hparent⟩ := List.mem_filter.mp (List.mem_of_getLast? hchild)
      have hsome : child.parentIntentId.isSome = true := by
        rw [of_decide_eq_true hparent]
        rfl
      split
      · refine Triple.bind (Triple.weaken (settled_resumeChild plan _ _ (hrelated child hmem) hsome)
          fun w hw => ⟨hw.1, Store.knows_of_mem (hw.2 child hmem)⟩) fun _ => .pure fun w hw => hw
      · next hstate =>
        refine Triple.bind (Triple.weaken (settled_rebindChild plan _ (hrelated child hmem) hsome
          hstate) fun w hw => ⟨hw.1, hw.2 child hmem⟩) fun _ => .pure fun w hw => hw
      · exact .pure fun w hw => hw.1
      · exact .pure fun w hw => hw.1
      · refine Keeps.weaken (Keeps.bind ?_ fun _ => .pure) fun w hw => hw.1
        exact settled_still (.finishes (.finish _ _ _))
      · refine Keeps.weaken (Keeps.bind ?_ fun _ => .pure) fun w hw => hw.1
        exact settled_still (.finishes (.finish _ _ _))

theorem settled_resumePreparedReplacement (plan : Intent) :
    Keeps (Act.exec env) Settled (resumePreparedReplacement cfg plan) := by
  unfold resumePreparedReplacement
  refine Keeps.bind (settled_asking _) fun request => ?_
  refine Triple.bind (triple_theStore fun w hw => hw) fun s => ?_
  dsimp only
  split
  · refine Keeps.weaken (Keeps.bind ?_ fun _ => .pure) fun w hw => hw.1
    exact settled_still (.finishes (.finish _ _ _))
  · split
    · have hrelated : ∀ i ∈ s.intentsForTrade plan.tradeId, i.tradeId = plan.tradeId :=
        fun i hi => of_decide_eq_true (List.mem_filter.mp hi).2
      refine Triple.weaken (R := fun w => Settled w ∧
        ∀ i ∈ s.intentsForTrade plan.tradeId, i ∈ w.store.intents) ?_ ?_
      · refine Triple.bind (settled_asking_ledger _ _) fun cancelRequest => ?_
        refine Triple.bind (settled_asking_ledger _ _) fun terminal => ?_
        split
        · exact settled_resumeAfterCancel _ _ _ hrelated
        · exact .pure fun w hw => hw.1
      · rintro w ⟨hw, rfl⟩
        exact ⟨hw, fun i hi => List.mem_of_mem_filter hi⟩
    · exact .pure fun w hw => hw.1

/-- The open orders of the symbol have been listed since the trade rows changed last. -/
def Listed (orders : List (Option Ident)) (w : World σ) : Prop :=
  ∃ s symbol es, ⟨s, .gotOpenOrders (some symbol) orders⟩ :: es <:+ w.history ∧
    s.trades = w.store.trades

theorem Listed.keeps (orders : List (Option Ident)) (m : Asking α) :
    Keeps (Ask.exec env) (Listed orders) m := by
  refine keeps_of_exec (fun a w hw => ?_) m
  obtain ⟨s, symbol, es, hes, htrades⟩ := hw
  exact ⟨s, symbol, es, hes.trans (Act.exec_suffix env (.fold (.ask a)) w),
    htrades.trans (Ask.exec_cases env a w).1.symm⟩

theorem triple_openOrders (symbol : Symbol) :
    Triple (Ask.exec env) (fun _ => True) (call (.openOrders (some symbol)))
      (fun r w => ∀ orders, r = some orders → Listed orders w) (fun _ _ => True)
      (fun _ => True) := by
  refine Triple.perform (fun _ _ => trivial) (fun w r w' _ heq => ?_) fun _ _ _ _ _ => trivial
  rintro orders rfl
  simp only [Ask.exec] at heq
  cases hcall : env.call _ (.openOrders (some symbol)) w.env with
  | mk answer σ' =>
    rw [hcall] at heq
    obtain ⟨rfl, rfl⟩ := Prod.mk.inj heq
    exact ⟨_, symbol, _, List.suffix_refl _, rfl⟩

/-- An open trade is what a listing that shows its recorded stop is about. -/
theorem Listed.calm {w : World σ} {row : TradeRow} {orders lists : List (Option Ident)}
    (h : Listed orders w) (hopen : durableProtectionIsOpen row orders lists = .ok true)
    (hrow : ∀ row', w.store.trade row.tradeId = some row' → row' = row) :
    OpenNow row.tradeId w := by
  intro hcalm
  obtain ⟨s, symbol, es, hes, htrades⟩ := h
  have hentry := calm_entry hes hcalm
  simp only [Entry.calm, Bool.and_eq_true, List.all_eq_true] at hentry
  rw [Store.closed]
  cases hr : w.store.trade row.tradeId with
  | none => rfl
  | some row' =>
    obtain rfl := hrow row' hr
    have hmem := (Store.trade_mem hr).1
    rw [← htrades] at hmem
    have hlisted := hentry.2 row' hmem
    obtain ⟨ids, hids, hrest⟩ := except_bind_eq_ok.mp hopen
    obtain ⟨listIds, -, hrest⟩ := except_bind_eq_ok.mp hrest
    have hstop : row'.stopOrderId.getD 0 ∈ ids := by
      dsimp only at hrest
      split at hrest
      · have hboth := Except.ok.inj hrest
        simp only [Bool.and_eq_true, decide_eq_true_eq] at hboth
        exact hboth.2
      · have hall := Except.ok.inj hrest
        simp only [Bool.and_eq_true, decide_eq_true_eq] at hall
        exact hall.1.2
    simp only [TradeRow.calmIn, hids, Except.toOption, Option.all_some, Bool.or_eq_true,
      Bool.not_eq_true', decide_eq_true_eq] at hlisted
    exact hlisted.resolve_right fun h => h hstop

theorem settled_settlePartial (row : TradeRow) (entry : Report) (symbol : Symbol) (pair : Pair)
    (rules : SymbolRules) :
    Triple (Act.exec env) (fun w => Settled w ∧
        ∀ row', w.store.trade row.tradeId = some row' → row' = row)
      (settlePartial cfg row entry symbol pair rules) (fun _ => Settled) (fun _ => Settled)
      Settled := by
  have hcurrent : ∀ {β : Type} (m : Asking β), Keeps (Act.exec env)
      (fun w => Settled w ∧ ∀ row', w.store.trade row.tradeId = some row' → row' = row)
      (liftM m : Acting β) := by
    intro β m
    have hrow : Keeps (Act.exec env)
        (fun w => ∀ row', w.store.trade row.tradeId = some row' → row' = row)
        (liftM m : Acting β) := keeps_asking (fun a w hw => by
      rw [Store.trade, (Ask.exec_cases env a w).1]
      exact hw) m
    exact ((settled_asking m).and hrow).conseq (fun _ hw => hw) (fun _ _ hw => hw)
      (fun _ _ hw => hw) fun _ hw => hw
  unfold settlePartial
  refine Triple.bind (((hcurrent _).and (Triple.asked (triple_openOrders symbol))).conseq
    (fun _ hw => ⟨hw, trivial⟩) (fun _ _ hw => hw) (fun _ _ hw => hw.1.1) fun _ hw => hw.1.1)
    fun orders => ?_
  have hlisted : ∀ {β : Type} (m : Asking β), Triple (Act.exec env)
      (fun w => (Settled w ∧ ∀ row', w.store.trade row.tradeId = some row' → row' = row) ∧
        ∀ items, orders = some items → Listed items w) (liftM m : Acting β)
      (fun _ w => (Settled w ∧ ∀ row', w.store.trade row.tradeId = some row' → row' = row) ∧
        ∀ items, orders = some items → Listed items w) (fun _ => Settled) Settled := by
    intro β m
    have hkeep : Keeps (Ask.exec env) (fun w : World σ =>
        ∀ items, orders = some items → Listed items w) m := by
      cases orders with
      | none => exact keeps_of_exec (fun _ _ _ _ h => by cases h) m
      | some items =>
        refine (Listed.keeps items m).conseq (fun w hw => hw items rfl) ?_ ?_ ?_
        · exact fun _ w hw items' h => Option.some.inj h ▸ hw
        · exact fun _ w hw items' h => Option.some.inj h ▸ hw
        · exact fun w hw items' h => Option.some.inj h ▸ hw
    exact ((hcurrent m).and (Triple.asked hkeep)).conseq (fun _ hw => hw) (fun _ _ hw => hw)
      (fun _ _ hw => hw.1.1) fun _ hw => hw.1.1
  refine Triple.bind (hlisted _) fun lists => ?_
  have hprotected : Triple (Ask.exec env) (fun _ => True)
      (filledAndProtected row entry orders lists)
      (fun isOpen _ => isOpen = true → ∃ o l, orders = some o ∧
        durableProtectionIsOpen row o l = .ok true) (fun _ _ => True)
          (fun _ : World σ => True) := by
    unfold filledAndProtected
    split
    · cases orders with
      | none => exact .raise fun _ _ => trivial
      | some o =>
        cases lists with
        | none => exact .raise fun _ _ => trivial
        | some l =>
          exact .ofExcept (fun b hb _ _ hopen => ⟨o, l, rfl, hopen ▸ hb⟩) fun _ _ _ _ => trivial
    · exact .pure fun _ _ h => by cases h
  refine Triple.bind (((hlisted _).and (Triple.asked hprotected)).conseq (fun _ hw => ⟨hw, trivial⟩)
    (fun _ _ hw => hw) (fun _ _ hw => hw.1) fun _ hw => hw.1) fun isOpen => ?_
  split
  · next hisOpen =>
    refine Triple.bind (Triple.weaken (settled_upsert_open _ _ _) fun w hw => ⟨hw.1.1.1, ?_⟩)
      fun _ => .pure fun w hw => hw.1
    obtain ⟨o, l, horders, hopen⟩ := hw.2 hisOpen
    exact (hw.1.2 o horders).calm hopen hw.1.1.2
  · refine Triple.weaken (R := Settled) ?_ fun w hw => hw.1.1.1
    split
    · exact Keeps.pure
    · refine Keeps.bind (settled_asking _) fun lists =>
        Keeps.bind (settled_asking _) fun original => ?_
      split
      · refine Keeps.bind
          (keeps_cancelPartialEntry (fun f w hw => hw.gentle env (a := .fold f) trivial)
          (fun row symbol => settled_still (.cancelEntryList _ _ _)) _ _) fun canceled => ?_
        split
        · exact settled_protectFilled _ _ _ _
        · exact Keeps.pure
      · split
        · exact settled_protectFilled _ _ _ _
        · exact Keeps.pure

theorem settled_placePartialProtection (symbol : Symbol) :
    Keeps (Act.exec env) Settled (placePartialProtection cfg symbol) := by
  unfold placePartialProtection
  refine .bind (settled_asking _) fun s => .bind .ofExcept fun found => ?_
  split
  · exact .pure
  · next row =>
    refine .bind (settled_asking _) fun active => .bind (settled_asking _) fun rules => ?_
    refine .bind (settled_asking _) fun entry => .bind .ofExcept fun id => ?_
    split
    · exact .pure
    · refine .bind .ofExcept fun event => ?_
      split
      · exact .pure
      · next e =>
        refine Triple.bind (Q := fun r w => Settled w ∧
          ∀ row', w.store.trade r.tradeId = some row' → row' = r) ?_ fun current => ?_
        · exact ((settled_folding _).and (Triple.folded (triple_foldEntry_reread row e))).conseq
            (fun _ hw => ⟨hw, trivial⟩) (fun _ _ hw => ⟨hw.1, hw.2.2⟩) (fun _ _ hw => hw.1)
            fun _ hw => hw.1
        · exact settled_settlePartial _ _ _ _ _

/-- The operations open no closed trade in a calm history, when no entry is submitted and no
signal approved for one. -/
theorem settled_sites : Sites cfg env Settled (fun id s => s.closed id = false) where
  fold f _ hw := hw.gentle env (a := .fold f) trivial
  write id pair f w hf hw := by
    cases hf with
    | closed hl status => exact hw.gentle env (a := .upsertTrade id pair _) hl
    | signal hopen mode =>
      exact hw.act env _ fun _ id' hid' => Store.closed_upsert (.inr hopen) hid'
  admits id pair mode w hw _ := by
    rw [Store.closed, Store.upsertTrade_trade, if_pos rfl]
    rfl
  tables id _ _ hs hopen := (Store.closed_congr hs id).trans hopen
  submit := settled_submit
  convert := settled_convert
  emergencyExit := settled_emergencyExit
  placePartialProtection := settled_placePartialProtection
  cancelEntryList _ _ _ _ := settled_still (.cancelEntryList _ _ _)
  resolveIntent := settled_resolveIntent
  resumePreparedReplacement i _ _ :=
    (settled_resumePreparedReplacement i).weaken fun _ hw => hw.1

theorem Settled.noted {w : World σ} (h : Settled w) {item : Item} : Settled (w.note item) := by
  intro hcalm e he id hid
  have hbefore := calm_of_suffix (List.suffix_cons _ _) hcalm
  rcases List.mem_cons.mp he with rfl | he
  · exact hid
  · exact h hbefore e he id hid

end operations

/-- A trade that is once closed stays closed, when no entry is submitted and no signal approved for
a closed trade and the exchange tells nothing that speaks of a closed trade as open. -/
theorem closed_runSteps (cfg : Config) (env : Env σ) (e : σ) (steps : List Step)
    (hfits : ∀ before s, before ++ [s] <+: steps → s.command.Fits
      (fun id store => store.closed id = false) (runSteps cfg env e before))
    (hcalm : calm (runSteps cfg env e steps).history = true) :
    ∀ entry ∈ (runSteps cfg env e steps).history, ∀ id, entry.store.closed id = true →
      (runSteps cfg env e steps).store.closed id = true := by
  have hempty : Settled ({ env := e } : World σ) := fun _ entry h => nomatch h
  exact settled_sites.runSteps_of_fits e steps hempty (fun _ hw => hw.noted) (fun _ hw => hw)
    hfits hcalm

/-- The trade of the desk is stopped out: the row is closed by the reports of both orders. -/
def Desk.stoppedOut : World Desk :=
  runSteps config Desk.env { script := [{ next := [.fill 2 1 0, .fill 4 (999 / 1000) 0] }] }
    (opening ++ [whole .verifiedReconcile])

theorem closed_runSteps_stoppedOut :
    Desk.stoppedOut.store.closed "t1" = true ∧
      ∀ entry ∈ Desk.stoppedOut.history, ∀ id, entry.store.closed id = true →
        Desk.stoppedOut.store.closed id = true := by
  refine ⟨by decide +kernel, closed_runSteps Desk.config Desk.env
    { script := [{ next := [.fill 2 1 0, .fill 4 (999 / 1000) 0] }] }
    (Desk.opening ++ [Desk.whole .verifiedReconcile]) (fun before s hs => ?_) (by decide +kernel)⟩
  obtain ⟨n, hn, rfl, hstep⟩ := prefix_concat hs
  have hn : n < 6 := hn
  interval_cases n <;> cases hstep
  all_goals
    refine ⟨fun _ hid => (nomatch hid), ?_⟩
    first
    | trivial
    | change (runSteps _ _ _ _).store.closed "t1" = false
      decide +kernel

/-- The POST of a replacement is lost although the order lands and fills: the lookup that
finds it makes the closed trade TRAILING_ACTIVE. -/
theorem closed_runSteps_lost :
    let w := runSteps Desk.config Desk.env
      { script := [{ next := [.fill 2 1 0] }, {},
          { manner := .lost, next := [.fill 5 (999 / 1000) 0] }] }
      (Desk.opening ++ [Desk.whole (.convert "BTCUSDT" { mode := .trailingOnly })])
    (∃ entry ∈ w.history, entry.store.closed "t1" = true) ∧ w.store.closed "t1" = false := by
  decide +kernel

end SpotSidecar
