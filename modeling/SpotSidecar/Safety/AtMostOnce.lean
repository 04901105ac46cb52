import SpotSidecar.Safety.Sites

/-! Every request crosses the boundary to the exchange behind an intent of its own that the
same operation has moved from PREPARED to SUBMITTING, and no intent crosses twice. -/
namespace SpotSidecar
open Interaction Prog

/-- The intent marked last since the operation began, with the store just before the mark. -/
def openMark : List Entry → Option (Store × IntentId)
  | [] => none
  | e :: es =>
    match e.item with
    | .began => none
    | .marked id => some (e.store, id)
    | _ => openMark es

/-- The intents behind which requests were made, newest first. -/
def crossings : List Entry → List IntentId
  | [] => []
  | e :: es =>
    match e.item with
    | .posted _ _ => ((openMark es).map Prod.snd).toList ++ crossings es
    | _ => crossings es

/-- The ids that were marked, newest first. -/
def marks (h : List Entry) : List IntentId :=
  h.filterMap fun e => match e.item with
    | .marked id => some id
    | _ => none

/-- Whether the stored request of an intent is the request that is made. -/
def Intent.authorizes (i : Intent) : Post → Prop
  | .place endpoint params => i.endpoint = endpoint ∧ i.request = params
  | .cancelOrder symbol id =>
    i.endpoint = .deleteOrder ∧ i.symbol = symbol ∧ i.request.orderId = some id
  | .cancelOrderList symbol id =>
    i.endpoint = .deleteOrderList ∧ i.symbol = symbol ∧ i.request.orderListId = some id

/-- A request made over the store `s` after the history `es` stands behind the open mark. -/
def Authorized (s : Store) (p : Post) (es : List Entry) : Prop :=
  ∃ before id, openMark es = some (before, id) ∧
    (∃ i, before.intent id = some i ∧ i.state = .prepared) ∧
    ∃ i, s.intent id = some i ∧ i.state = .submitting ∧ i.authorizes p

/-- Items that neither mark an intent nor make a request nor begin an operation. -/
def Item.quiet : Item → Prop
  | .began | .marked _ | .posted _ _ => False
  | _ => True

section history
variable {e : Entry} {es : List Entry}

theorem openMark_quiet (h : e.item.quiet) : openMark (e :: es) = openMark es := by
  rcases e with ⟨s, item⟩
  cases item <;> first | rfl | exact h.elim

theorem crossings_quiet (h : e.item.quiet) : crossings (e :: es) = crossings es := by
  rcases e with ⟨s, item⟩
  cases item <;> first | rfl | exact h.elim

theorem marks_quiet (h : e.item.quiet) : marks (e :: es) = marks es := by
  rcases e with ⟨s, item⟩
  cases item <;> first | rfl | exact h.elim

theorem openMark_mem {s : Store} {id : IntentId} (h : openMark es = some (s, id)) :
    id ∈ marks es := by
  induction es with
  | nil => cases h
  | cons e es ih =>
    rcases e with ⟨s', item⟩
    cases item with
    | began => cases h
    | marked id' =>
      cases h
      exact List.mem_cons_self ..
    | _ => exact ih h

theorem crossings_subset : crossings es ⊆ marks es := by
  induction es with
  | nil => exact List.Subset.refl _
  | cons e es ih =>
    rcases e with ⟨s, item⟩
    cases item with
    | posted p r =>
      intro id hid
      rcases List.mem_append.mp hid with hid | hid
      · obtain ⟨⟨s', id'⟩, hmark, rfl⟩ : ∃ m, openMark es = some m ∧ m.2 = id := by
          simpa using hid
        exact openMark_mem hmark
      · exact ih hid
    | marked id => exact fun _ hid => List.mem_cons_of_mem _ (ih hid)
    | _ => exact ih

/-- An open mark does not outlive its operation. -/
theorem openMark_append_began (later : List Entry) (s : Store) :
    openMark (later ++ ⟨s, .began⟩ :: es) = openMark later := by
  induction later with
  | nil => rfl
  | cons e later ih =>
    rcases e with ⟨s', item⟩
    cases item with
    | began => rfl
    | marked id => rfl
    | _ => exact ih

theorem crossings_append_began (later : List Entry) (s : Store) :
    crossings (later ++ ⟨s, .began⟩ :: es) = crossings later ++ crossings es := by
  induction later with
  | nil => rfl
  | cons e later ih =>
    rcases e with ⟨s', item⟩
    cases item with
    | posted p r =>
      change ((openMark (later ++ ⟨s, .began⟩ :: es)).map Prod.snd).toList ++
        crossings (later ++ ⟨s, .began⟩ :: es) = _
      rw [openMark_append_began, ih, ← List.append_assoc]
      rfl
    | _ => exact ih

theorem crossings_sublist {later : List Entry} (h : es <:+ later) :
    List.Sublist (crossings es) (crossings later) := by
  obtain ⟨front, rfl⟩ := h
  induction front with
  | nil => exact .refl _
  | cons e front ih =>
    rcases e with ⟨s, item⟩
    cases item with
    | posted p r => exact ih.trans (List.sublist_append_right _ _)
    | _ => exact ih

theorem marks_append_began (later : List Entry) (s : Store) :
    marks (later ++ ⟨s, .began⟩ :: es) = marks later ++ marks es := by
  rw [marks, List.filterMap_append]
  rfl

end history

variable {σ α : Type} {cfg : Config} {env : Env σ}

/-- The history of a run and the ledger it has left. -/
structure WriteAhead (w : World σ) : Prop where
  le : ∀ e ∈ w.history, Store.LedgerLe e.store w.store
  marked : ∀ id ∈ marks w.history, ∃ i, w.store.intent id = some i ∧ i.state ≠ .prepared
  posts : ∀ s p r es, ⟨s, .posted p r⟩ :: es <:+ w.history → Authorized s p es
  once : (crossings w.history).Nodup
  marks_nodup : (marks w.history).Nodup
  resolved : ∀ s es, ⟨s, .began⟩ :: es <:+ w.history → ∀ id i, s.intent id = some i →
    i.state ≠ .prepared → id ∈ marks w.history → id ∈ marks es

namespace WriteAhead

theorem init (e : σ) : WriteAhead ({ env := e } : World σ) where
  le := fun _ he => nomatch he
  marked := fun _ hid => nomatch hid
  posts := fun _ _ _ _ h => nomatch List.suffix_nil.mp h
  once := List.nodup_nil
  marks_nodup := List.nodup_nil
  resolved := fun _ _ h => nomatch List.suffix_nil.mp h

/-- A change of the ledger that respects its order. -/
theorem mono {w : World σ} (h : WriteAhead w) {s : Store} {t : Dict TradeId String} {m : Memory}
    {e : σ} (hle : Store.LedgerLe w.store s) :
    WriteAhead { w with store := s, signals := t, memory := m, env := e } where
  le := fun e he => (h.le e he).trans hle
  marked := fun id hid => by
    obtain ⟨i, hi, hs⟩ := h.marked id hid
    obtain ⟨j, hj, -, hs'⟩ := hle id i hi
    exact ⟨j, hj, hs' hs⟩
  posts := h.posts
  once := h.once
  marks_nodup := h.marks_nodup
  resolved := h.resolved

/-- A quiet item changes nothing that matters. -/
theorem note {w : World σ} (h : WriteAhead w) {item : Item} (hq : item.quiet) :
    WriteAhead (w.note item) where
  le := by
    intro e he
    rcases List.mem_cons.mp he with rfl | he
    · exact .refl _
    · exact h.le e he
  marked := by
    rw [World.note, marks_quiet hq]
    exact h.marked
  posts := by
    intro s p r es hes
    rcases List.suffix_cons_iff.mp hes with heq | hes
    · cases heq
      exact hq.elim
    · exact h.posts s p r es hes
  once := by
    rw [World.note, crossings_quiet hq]
    exact h.once
  marks_nodup := by
    rw [World.note, marks_quiet hq]
    exact h.marks_nodup
  resolved := by
    intro s es hes id i hi hs hid
    rw [World.note, marks_quiet hq] at hid
    rcases List.suffix_cons_iff.mp hes with heq | hes
    · cases heq
      exact hq.elim
    · exact h.resolved s es hes id i hi hs hid

theorem note_finished {w : World σ} (h : WriteAhead w) (id : IntentId) (state : IntentState) :
    WriteAhead (w.note (.finished id state)) :=
  h.note trivial

theorem note_upserted {w : World σ} (h : WriteAhead w) (id : TradeId) (f : TradeFields) :
    WriteAhead (w.note (.upserted id f)) :=
  h.note trivial

theorem began {w : World σ} (h : WriteAhead w) : WriteAhead (w.note .began) where
  le := by
    intro e he
    rcases List.mem_cons.mp he with rfl | he
    · exact .refl _
    · exact h.le e he
  marked := h.marked
  posts := by
    intro s p r es hes
    rcases List.suffix_cons_iff.mp hes with heq | hes
    · cases heq
    · exact h.posts s p r es hes
  once := h.once
  marks_nodup := h.marks_nodup
  resolved := by
    intro s es hes id i hi hs hid
    rcases List.suffix_cons_iff.mp hes with heq | hes
    · cases heq
      exact hid
    · exact h.resolved s es hes id i hi hs hid

/-- A mark finds its intent PREPARED, so nothing before was behind that intent. -/
theorem mark {w : World σ} (h : WriteAhead w) {id : IntentId} {s : Store}
    (hok : w.store.markIntentSubmitting id = .ok s) :
    WriteAhead { w.note (.marked id) with store := s } ∧ id ∉ marks w.history := by
  obtain ⟨⟨i, hi, hprep⟩, -, -, -, hs⟩ := Store.markIntentSubmitting_ok hok
  have hle := Store.markIntentSubmitting_ledgerLe hok
  have hnew : id ∉ marks w.history := by
    intro hid
    obtain ⟨j, hj, hne⟩ := h.marked id hid
    rw [hi] at hj
    cases hj
    exact hne hprep
  refine ⟨⟨?_, ?_, ?_, h.once, List.nodup_cons.mpr ⟨hnew, h.marks_nodup⟩, ?_⟩, hnew⟩
  · intro e he
    rcases List.mem_cons.mp he with rfl | he
    · exact hle
    · exact (h.le e he).trans hle
  · intro id' hid'
    rcases List.mem_cons.mp hid' with rfl | hid'
    · refine ⟨i.marked (w.store.clock + 1), ?_, Intent.marked_state_ne⟩
      change s.intent id' = _
      rw [hs, if_pos rfl, hi]
      rfl
    · obtain ⟨j, hj, hne⟩ := h.marked id' hid'
      obtain ⟨k, hk, -, hne'⟩ := hle id' j hj
      exact ⟨k, hk, hne' hne⟩
  · intro s' p r es hes
    rcases List.suffix_cons_iff.mp hes with heq | hes
    · cases heq
    · exact h.posts s' p r es hes
  · intro s' es hes id' j hj hne hid'
    rcases List.suffix_cons_iff.mp hes with heq | hold
    · cases heq
    · rcases List.mem_cons.mp hid' with rfl | hid'
      · obtain ⟨k, hk, -, hne'⟩ :=
          h.le ⟨s', .began⟩ (hold.subset (List.mem_cons_self ..)) id' j hj
        rw [hi] at hk
        cases hk
        exact absurd hprep (hne' hne)
      · exact h.resolved s' es hold id' j hj hne hid'

/-- A request behind an open mark that nothing has crossed yet. -/
theorem post {w : World σ} (h : WriteAhead w) {p : Post} {r : Except Exc Reply} {e : σ}
    (hp : Authorized w.store p w.history)
    (hnew : ∀ m, openMark w.history = some m → m.2 ∉ crossings w.history) :
    WriteAhead { w.note (.posted p r) with env := e } where
  le := by
    intro e he
    rcases List.mem_cons.mp he with rfl | he
    · exact .refl _
    · exact h.le e he
  marked := h.marked
  posts := by
    intro s p' r' es hes
    rcases List.suffix_cons_iff.mp hes with heq | hes
    · cases heq
      exact hp
    · exact h.posts s p' r' es hes
  once := by
    obtain ⟨before, id, hmark, -⟩ := hp
    have hcross : crossings (⟨w.store, .posted p r⟩ :: w.history) = id :: crossings w.history := by
      simp only [crossings, hmark]
      rfl
    have hid := hnew _ hmark
    exact hcross ▸ List.nodup_cons.mpr ⟨hid, h.once⟩
  marks_nodup := h.marks_nodup
  resolved := by
    intro s es hes id i hi hs hid
    rcases List.suffix_cons_iff.mp hes with heq | hes
    · cases heq
    · exact h.resolved s es hes id i hi hs hid

end WriteAhead

/-- The acts that neither mark an intent nor make a request. -/
def Act.plain {γ : Type} : Act γ → Prop
  | .markIntentSubmitting _ | .post _ => False
  | _ => True

theorem Call.item?_quiet {γ : Type} {c : Call γ} {r : Except Exc γ} {i : Item}
    (h : c.item? r = some i) : i.quiet := by
  cases c with
  | getOrder symbol key => cases h; trivial
  | getOrderList key => cases h; trivial
  | newClientId role => obtain ⟨_, -, rfl⟩ := Option.map_eq_some_iff.mp h; trivial
  | symbolInfo symbol => obtain ⟨_, -, rfl⟩ := Option.map_eq_some_iff.mp h; trivial
  | account => obtain ⟨_, -, rfl⟩ := Option.map_eq_some_iff.mp h; trivial
  | openOrders symbol => obtain ⟨_, -, rfl⟩ := Option.map_eq_some_iff.mp h; trivial
  | openOrderLists => obtain ⟨_, -, rfl⟩ := Option.map_eq_some_iff.mp h; trivial
  | _ => cases h

theorem WriteAhead.ask {γ : Type} (a : Ask γ) (w : World σ) (h : WriteAhead w) :
    WriteAhead (a.exec env γ w).2 := by
  cases a with
  | call c =>
    simp only [Ask.exec]
    split
    · next hitem => exact (h.note (Call.item?_quiet hitem)).mono (.refl _)
    · exact h.mono (.refl _)
  | setData d => exact h.mono (Store.ledgerLe_of_intents rfl)
  | store | memory | signalResult id => exact h
  | setMemory m | claimSignal id | recordSignal id result => exact h.mono (.refl _)

theorem WriteAhead.fold {γ : Type} (f : Fold γ) (w : World σ) (h : WriteAhead w) :
    WriteAhead (f.exec env γ w).2 := by
  cases f with
  | ask a => exact h.ask a w
  | recordExchangeEvent e =>
    exact h.mono (Store.ledgerLe_of_intents (w.store.recordExchangeEvent_intents e))
  | replayExchangeEventsForTrade id =>
    exact h.mono (Store.ledgerLe_of_intents (w.store.replayExchangeEventsForTrade_intents id))

theorem WriteAhead.plain (env : Env σ) {γ : Type} (a : Act γ) (ha : a.plain) (w : World σ)
    (h : WriteAhead w) :
    WriteAhead (a.exec env γ w).2 := by
  cases a with
  | fold f => exact h.fold f w
  | prepareIntent d =>
    simp only [Act.exec]
    split
    · exact h.mono (Store.prepareIntent_ledgerLe ‹_›)
    · exact h
  | markIntentSubmitting id => exact ha.elim
  | finishIntent id state orderId listId error =>
    simp only [Act.exec]
    split
    · exact (h.note_finished id state).mono (Store.finishIntent_ledgerLe ‹_›)
    · exact h
  | upsertTrade id pair f =>
    exact (h.note_upserted id f).mono
      (Store.ledgerLe_of_intents (w.store.upsertTrade_intents id pair f))
  | post p => exact ha.elim

theorem Intent.authorizes_congr {i j : Intent} (h : i.draft = j.draft) (p : Post) :
    i.authorizes p ↔ j.authorizes p := by
  have hendpoint : i.endpoint = j.endpoint := congrArg IntentDraft.endpoint h
  have hsymbol : i.symbol = j.symbol := congrArg IntentDraft.symbol h
  have hrequest : i.request = j.request := congrArg IntentDraft.request h
  cases p <;> simp [authorizes, hendpoint, hsymbol, hrequest]

/-- The ledger holds an intent that allows the request. -/
def Allows (id : IntentId) (p : Post) (w : World σ) : Prop :=
  ∃ i, w.store.intent id = some i ∧ i.authorizes p

section blocks
variable {β : Type}

/-- The block that every request is part of: mark the intent, make the request, go on
without another request. -/
theorem triple_markThenPost {id : IntentId} {p : Post} {f : Except Exc Reply → Acting β}
    (hf : ∀ r, Keeps (Act.exec env) WriteAhead (f r)) :
    Triple (Act.exec env) (fun w => WriteAhead w ∧ Allows id p w)
      (markSubmitting id >>= fun _ => (post p).attempt >>= f)
      (fun _ => WriteAhead) (fun _ => WriteAhead) WriteAhead := by
  refine Triple.bind (Q := fun _ w => WriteAhead w ∧ Authorized w.store p w.history ∧
    ∀ m, openMark w.history = some m → m.2 ∉ crossings w.history) ?_ fun _ => ?_
  · refine Triple.perform (fun w hw => hw.1) ?_ ?_
    · rintro w _ w' ⟨hw, i, hi, hauth⟩ heq
      simp only [Act.exec] at heq
      split at heq
      · next s hok =>
        cases heq
        obtain ⟨hwa, hnew⟩ := hw.mark hok
        obtain ⟨⟨j, hj, hprep⟩, -, -, -, hs⟩ := Store.markIntentSubmitting_ok hok
        rw [hi] at hj
        cases hj
        refine ⟨hwa, ⟨w.store, id, rfl, ⟨i, hi, hprep⟩, i.marked (w.store.clock + 1),
          ?_, ?_, ?_⟩, ?_⟩
        · change s.intent id = _
          rw [hs, if_pos rfl, hi]
          rfl
        · rw [Intent.marked, if_pos hprep]
        · exact (Intent.authorizes_congr (Intent.marked_draft _ _) p).mpr hauth
        · rintro m hm
          cases hm
          exact fun hid => hnew (crossings_subset hid)
      · cases heq
    · rintro w e w' ⟨hw, -⟩ heq
      simp only [Act.exec] at heq
      split at heq
      · cases heq
      · cases heq
        exact hw
  · refine Triple.bind (Q := fun _ => WriteAhead) (.attempt ?_) hf
    exact .perform_same (fun w hw => hw.1) fun w hw => hw.1.post hw.2.1 hw.2.2

/-- A new intent is in the ledger as it was drafted. -/
theorem triple_prepare (d : IntentDraft) :
    Triple (Act.exec env) WriteAhead (prepare d)
      (fun b w => WriteAhead w ∧
        (b = true → ∃ i, w.store.intent d.intentId = some i ∧ i.draft = (d.row 0).draft))
      (fun _ => WriteAhead) WriteAhead := by
  have hkeep := fun w hw => WriteAhead.plain env (.prepareIntent d) trivial w hw
  refine Triple.perform (fun w hw => hw) (fun w b w' hw heq => ?_) fun w e w' hw heq => ?_
  · have hwa := hkeep w hw
    rw [heq] at hwa
    refine ⟨hwa, fun hb => ?_⟩
    subst hb
    simp only [Act.exec] at heq
    split at heq
    · next hok =>
      cases heq
      exact (Store.prepareIntent_new hok).2
    · cases heq
  · have hwa := hkeep w hw
    rwa [heq] at hwa

namespace WriteAhead

theorem keeps_plain {γ : Type} (a : Act γ) (ha : a.plain) :
    Keeps (Act.exec env) WriteAhead (perform a) :=
  .perform fun w hw => hw.plain env a ha w

theorem asking (m : Asking α) : Keeps (Act.exec env) WriteAhead (liftM m : Acting α) :=
  keeps_asking (fun a w hw => hw.ask a w) m

theorem upsert (id : TradeId) (pair : Pair) (f : TradeFields) :
    Keeps (Act.exec env) WriteAhead (upsert id pair f) :=
  keeps_plain _ trivial

theorem finish (id : IntentId) (state : IntentState) (error : Option String) :
    Keeps (Act.exec env) WriteAhead (finish id state error) :=
  keeps_plain _ trivial

theorem settles {m : Acting α} (h : Settles m) : Keeps (Act.exec env) WriteAhead m :=
  h.keeps fun a ha w hw => hw.plain env a (by cases a <;> trivial) w

theorem submitOnce (operation : Operation) (tradeId : TradeId) (symbol : Symbol)
    (endpoint : Endpoint) (params : Params) (parent : Option IntentId) :
    Keeps (Act.exec env) WriteAhead
      (submitOnce cfg operation tradeId symbol endpoint params parent) := by
  unfold SpotSidecar.submitOnce
  refine Triple.bind (triple_prepare _) fun isNew => ?_
  split
  · next hnew =>
    refine (triple_markThenPost fun r => ?_).weaken fun w hw => ⟨hw.1, ?_⟩
    · split
      · exact .bind (asking _) fun response => settles (.concludeSubmission _ _ _ _ _)
      · exact settles (.recoverSubmission _ _ _ _ _)
    · obtain ⟨i, hi, hd⟩ := hw.2 hnew
      exact ⟨i, hi, congrArg IntentDraft.endpoint hd, congrArg IntentDraft.request hd⟩
  · refine Keeps.weaken ?_ fun w hw => hw.1
    refine Keeps.bind (asking _) fun s => ?_
    split
    · exact .pure
    · exact .raise

theorem submit (symbol : Symbol) (id : TradeId) :
    Keeps (Act.exec env) WriteAhead (submit cfg symbol id) := by
  have hentry : ∀ pair endpoint params, Keeps (Act.exec env) WriteAhead
      (submitEntry cfg id symbol pair endpoint params) := by
    intro pair endpoint params
    unfold submitEntry
    refine .bind (asking _) fun now => .bind (asking _) fun s => .bind (upsert _ _ _) fun _ => ?_
    refine .bind (submitOnce _ _ _ _ _ _) fun submitted => ?_
    split
    · exact .bind (upsert _ _ _) fun _ => .pure
    · exact .bind (settles (.bindIntent _ _ _)) fun _ => .pure
    · exact .raise
    · exact .bind (upsert _ _ _) fun _ => .pure
  unfold SpotSidecar.submit
  refine .bind (asking _) fun m => .bind (asking _) fun s => ?_
  split
  · exact .pure
  · refine .bind (asking _) fun active => ?_
    split
    · exact .pure
    · split
      · exact .pure
      · refine .bind (asking _) fun s => ?_
        split
        · exact .pure
        · split
          · exact .pure
          · refine .bind (asking _) fun plan => ?_
            split
            · exact .pure
            · exact hentry _ _ _

theorem cancelEntryList (row : TradeRow) (symbol : Symbol) (operation : Operation) :
    Keeps (Act.exec env) WriteAhead (cancelEntryList cfg row symbol operation) := by
  unfold SpotSidecar.cancelEntryList
  split
  · exact .pure
  · next listId hlist =>
    refine Triple.bind (triple_prepare _) fun isNew => ?_
    split
    · next hnew =>
      refine (triple_markThenPost fun r => ?_).weaken fun w hw => ⟨hw.1, ?_⟩
      · split
        · exact .bind (finish _ _ _) fun _ => .pure
        · exact .bind (finish _ _ _) fun _ => .pure
        · split
          · exact .bind (keeps_plain _ trivial) fun _ => .pure
          · exact .bind (finish _ _ _) fun _ => .pure
      · obtain ⟨i, hi, hd⟩ := hw.2 hnew
        refine ⟨i, hi, congrArg IntentDraft.endpoint hd, congrArg IntentDraft.symbol hd, ?_⟩
        exact congrArg (fun d => d.request.orderListId) hd
    · refine Keeps.weaken ?_ fun w hw => hw.1
      refine Keeps.bind (asking _) fun s => ?_
      split <;> exact .pure

/-- The cancel of a recorded protection is what its intent stores. -/
theorem cancel_authorized {row : TradeRow} {symbol : Symbol} {p : Protection}
    (hp : row.protection = some p) {i : Intent}
    (hd : i.draft = ((cancelProtectionDraft cfg row symbol p).row 0).draft) :
    i.authorizes (p.cancel symbol) := by
  have hendpoint := congrArg IntentDraft.endpoint hd
  have hsymbol := congrArg IntentDraft.symbol hd
  have hrequest := congrArg IntentDraft.request hd
  unfold TradeRow.protection at hp
  split at hp
  · next id h =>
    cases hp
    refine ⟨hendpoint, hsymbol, ?_⟩
    have := congrArg Params.orderListId hrequest
    exact this.trans (Option.filter_eq_some_iff.mp h).1
  · next id _ h =>
    cases hp
    refine ⟨hendpoint, hsymbol, ?_⟩
    have := congrArg Params.orderId hrequest
    exact this.trans (Option.filter_eq_some_iff.mp h).1
  · cases hp

theorem cancelProtection (row : TradeRow) (symbol : Symbol) :
    Keeps (Act.exec env) WriteAhead (cancelProtection cfg row symbol) := by
  unfold SpotSidecar.cancelProtection
  split
  · exact .pure
  · next p hp =>
    refine Triple.bind (triple_prepare _) fun isNew => ?_
    split
    · next hnew =>
      refine (triple_markThenPost fun r => ?_).weaken fun w hw => ⟨hw.1, ?_⟩
      · split
        · exact .bind (finish _ _ _) fun _ => .pure
        · exact .bind (finish _ _ _) fun _ => .pure
        · exact settles (.concludeCancel _ _ _)
      · obtain ⟨i, hi, hd⟩ := hw.2 hnew
        exact ⟨i, hi, cancel_authorized hp hd⟩
    · exact (asking _).weaken fun w hw => hw.1

theorem protectFilled (row : TradeRow) (symbol : Symbol) (pair : Pair) (rules : SymbolRules) :
    Keeps (Act.exec env) WriteAhead (protectFilled cfg row symbol pair rules) := by
  unfold SpotSidecar.protectFilled
  refine .bind (asking _) fun held => ?_
  dsimp only
  split
  · exact .pure
  · refine .bind (asking _) fun entryPrice => .bind (asking _) fun current => ?_
    refine .bind (asking _) fun s => .bind (asking _) fun _ => .bind (asking _) fun request => ?_
    refine .bind (asking _) fun _ => .bind (submitOnce _ _ _ _ _ _) fun submitted => ?_
    split
    · exact .bind (settles (.bindIntent _ _ _)) fun _ => .bind (upsert _ _ _) fun _ => .pure
    · exact .raise
    · exact .pure

theorem submitReplacement (args : ConvertArgs) (c : Conversion) (planId : IntentId) (held : ℚ) :
    Keeps (Act.exec env) WriteAhead (submitReplacement cfg args c planId held) := by
  unfold SpotSidecar.submitReplacement
  refine .bind (asking _) fun request => .bind (asking _) fun _ => ?_
  refine .bind (submitOnce _ _ _ _ _ _) fun submitted => ?_
  split
  · exact settles (.finishConversion _ _ _ _ _ _ _)
  · exact .raise
  · exact .bind (upsert _ _ _) fun _ => .pure

theorem convert (symbol : Symbol) (args : ConvertArgs) :
    Keeps (Act.exec env) WriteAhead (convert cfg symbol args) := by
  unfold SpotSidecar.convert
  refine .bind (asking _) fun planned => ?_
  split
  · exact .pure
  · unfold executeConversion
    refine .bind (keeps_plain _ trivial) fun isNew => ?_
    split
    · refine .bind (asking _) fun _ => .bind (asking _) fun _ => ?_
      refine .bind (cancelProtection _ _) ?_
      rintro ⟨canceled, detail⟩
      dsimp only
      split
      · unfold replaceCanceled
        refine .bind (asking _) fun free => ?_
        dsimp only
        split
        · refine .bind (asking _) fun balances => ?_
          split
          · exact .pure
          · exact .bind (finish _ _ _) fun _ => .bind (upsert _ _ _) fun _ => .pure
        · exact submitReplacement _ _ _ _
      · exact .pure
    · exact .pure

theorem emergencyExit (symbol : Symbol) :
    Keeps (Act.exec env) WriteAhead (emergencyExit cfg symbol) := by
  have hsell : ∀ plan, Keeps (Act.exec env) WriteAhead (sellOut cfg plan) := by
    intro plan
    unfold sellOut
    refine .bind (asking _) fun bid => .bind (asking _) fun client => .bind (asking _) fun _ => ?_
    refine .bind (submitOnce _ _ _ _ _ _) fun submitted => ?_
    split
    · exact .bind (settles (.bindIntent _ _ _)) fun _ => settles (.verifyExit _ _)
    · exact .raise
    · exact .pure
  unfold SpotSidecar.emergencyExit
  refine .bind (asking _) fun s => .bind .ofExcept fun found => ?_
  split
  · exact .pure
  · refine .bind (asking _) fun _ => .bind (cancelProtection _ _) ?_
    rintro ⟨canceled, detail⟩
    dsimp only
    split
    · unfold exitCanceled
      refine .bind (asking _) fun active => .bind (asking _) fun rules => ?_
      split
      · exact .pure
      · refine .bind (asking _) fun free => ?_
        dsimp only
        split
        · exact .pure
        · exact hsell _
    · exact .pure

/-- An intent that was read from the ledger allows the request it stores. -/
theorem resumeExisting (i : Intent) : Triple (Act.exec env)
    (fun w => WriteAhead w ∧ w.store.Knows i)
    (resumeExistingPreparedSubmission cfg i i.request)
    (fun _ => WriteAhead) (fun _ => WriteAhead) WriteAhead := by
  unfold resumeExistingPreparedSubmission
  refine (triple_markThenPost (p := .place i.endpoint i.request) fun r => ?_).weaken
    fun w hw => ?_
  · split
    · exact .bind (asking _) fun response => settles (.concludeResumed _ _ _)
    · refine .bind (asking _) fun found => ?_
      split
      · exact settles (.concludeResumed _ _ _)
      · dsimp only
        split <;> exact .bind (finish _ _ _) fun _ => .pure
  · obtain ⟨hwa, j, hj, hd, -⟩ := hw
    exact ⟨hwa, j, hj, congrArg IntentDraft.endpoint hd, congrArg IntentDraft.request hd⟩

theorem asking_knows (i : Intent) (m : Asking α) :
    Triple (Act.exec env) (fun w => WriteAhead w ∧ w.store.Knows i) (liftM m : Acting α)
      (fun _ w => WriteAhead w ∧ w.store.Knows i) (fun _ => WriteAhead) WriteAhead :=
  ((asking m).and (keeps_knows i _)).conseq (fun _ hw => hw) (fun _ _ hw => hw)
    (fun _ _ hw => hw.1) fun _ hw => hw.1

theorem resolveIntent (i : Intent) : Triple (Act.exec env)
    (fun w => WriteAhead w ∧ w.store.Knows i) (resolveIntent cfg i)
    (fun _ => WriteAhead) (fun _ => WriteAhead) WriteAhead := by
  unfold SpotSidecar.resolveIntent
  refine Triple.bind (triple_intentRequest _ fun w hw => hw.1) fun request => ?_
  refine Triple.assume_eq fun hrequest => ?_
  subst hrequest
  split
  · split
    · exact .pure fun w hw => hw.1
    · split
      · refine Triple.bind (Q := fun _ => WriteAhead) ?_ fun _ => .pure fun w hw => hw
        unfold resolvePreparedChild
        refine Triple.bind (asking_knows i _) fun s => ?_
        split
        · exact .raise fun w hw => hw.1
        · refine Triple.bind (asking_knows i _) fun rules => ?_
          refine Triple.bind (asking_knows i _) fun _ => ?_
          exact Triple.bind (resumeExisting i) fun r => settles (.bindRecovered _ _ _ _ _ _ _ _)
      · refine Keeps.weaken ?_ fun w hw => hw.1
        exact Keeps.bind (settles (.abortPrepared _)) fun _ => .pure
  · refine Keeps.weaken ?_ fun w hw => hw.1
    split
    · exact Keeps.bind (settles (.resolveCancel _ _)) fun _ => .pure
    · exact Keeps.bind (settles (.resolvePlacement _ _)) fun _ => .pure

theorem submitPlan (plan : Intent) (request : Params) (row : TradeRow) (rules : SymbolRules) :
    Keeps (Act.exec env) WriteAhead (submitPlan cfg plan request row rules) := by
  unfold SpotSidecar.submitPlan
  refine .bind .ensure fun _ => .bind (asking _) fun free => ?_
  dsimp only
  split
  · refine .bind (asking _) fun balances => .bind .ensure fun _ => ?_
    exact .bind (finish _ _ _) fun _ => .bind (upsert _ _ _) fun _ => .pure
  · refine .bind (asking _) fun _ => .bind (submitOnce _ _ _ _ _ _) fun submitted => ?_
    exact .bind (finish _ _ _) fun _ =>
      .bind (settles (.bindRecovered _ _ _ _ _ _ _ _)) fun _ => .pure

theorem resumeChild (plan : Intent) (row : TradeRow) (rules : SymbolRules) (child : Intent) :
    Triple (Act.exec env) (fun w => WriteAhead w ∧ w.store.Knows child)
      (resumeChild cfg plan row rules child) (fun _ => WriteAhead) (fun _ => WriteAhead)
      WriteAhead := by
  unfold SpotSidecar.resumeChild
  refine Triple.bind (triple_intentRequest _ fun w hw => hw.1) fun request => ?_
  refine Triple.assume_eq fun hrequest => ?_
  subst hrequest
  refine Triple.bind (asking_knows child _) fun _ => ?_
  refine Triple.bind (resumeExisting child) ?_
  rintro ⟨state, response⟩
  exact Keeps.bind (settles (.bindRecovered _ _ _ _ _ _ _ _)) fun _ => finish _ _ _

theorem resumeAfterCancel (plan : Intent) (request : Params) (related : List Intent) :
    Triple (Act.exec env) (fun w => WriteAhead w ∧ ∀ i ∈ related, w.store.Knows i)
      (resumeAfterCancel cfg plan request related) (fun _ => WriteAhead) (fun _ => WriteAhead)
      WriteAhead := by
  have hask : ∀ {β : Type} (m : Asking β), Triple (Act.exec env)
      (fun w => WriteAhead w ∧ ∀ i ∈ related, w.store.Knows i) (liftM m : Acting β)
      (fun _ w => WriteAhead w ∧ ∀ i ∈ related, w.store.Knows i)
      (fun _ => WriteAhead) WriteAhead := by
    intro β m
    have hknows : Keeps (Act.exec env) (fun w => ∀ i ∈ related, w.store.Knows i)
        (liftM m : Acting β) :=
      keeps_of_exec (fun a w hw i hi => (hw i hi).mono (Act.exec_ledgerLe a w)) _
    exact ((asking m).and hknows).conseq (fun _ hw => hw) (fun _ _ hw => hw)
      (fun _ _ hw => hw.1) fun _ hw => hw.1
  unfold SpotSidecar.resumeAfterCancel
  refine Triple.bind (hask _) fun s => ?_
  split
  · exact .raise fun w hw => hw.1
  · refine Triple.bind (hask _) fun active => Triple.bind (hask _) fun rules => ?_
    split
    · exact (submitPlan _ _ _ _).weaken fun w hw => hw.1
    · next child hchild =>
      have hmem := List.mem_of_mem_filter (List.mem_of_getLast? hchild)
      split
      · refine Triple.bind (Triple.weaken (resumeChild _ _ _ _) fun w hw =>
          ⟨hw.1, hw.2 child hmem⟩) fun _ => .pure fun w hw => hw
      · refine Keeps.weaken (Keeps.bind ?_ fun _ => .pure) fun w hw => hw.1
        exact settles (.rebindChild _ _ _)
      · exact .pure fun w hw => hw.1
      · exact .pure fun w hw => hw.1
      · exact Keeps.weaken (Keeps.bind (finish _ _ _) fun _ => .pure)
          fun w hw => hw.1
      · exact Keeps.weaken (Keeps.bind (finish _ _ _) fun _ => .pure)
          fun w hw => hw.1

theorem resumePreparedReplacement (plan : Intent) : Keeps (Act.exec env) WriteAhead
    (resumePreparedReplacement cfg plan) := by
  unfold SpotSidecar.resumePreparedReplacement
  refine Keeps.bind (asking _) fun request =>
    Triple.bind (triple_theStore fun w hw => hw) fun s => ?_
  dsimp only
  split
  · exact Keeps.weaken (Keeps.bind (finish _ _ _) fun _ => .pure)
      fun w hw => hw.1
  · split
    · refine Triple.weaken (?_ : Triple _ (fun w => WriteAhead w ∧
        ∀ i ∈ s.intentsForTrade plan.tradeId, w.store.Knows i) _ _ _ _) ?_
      · have hknows : ∀ {β : Type} (m : Acting β), Keeps (Act.exec env)
            (fun w => ∀ i ∈ s.intentsForTrade plan.tradeId, w.store.Knows i) m := fun m =>
          keeps_of_exec (fun a w hw i hi => (hw i hi).mono (Act.exec_ledgerLe a w)) m
        refine Triple.bind (((asking _).and (hknows _)).conseq (fun _ hw => hw) (fun _ _ hw => hw)
          (fun _ _ hw => hw.1) fun _ hw => hw.1) fun cancelRequest => ?_
        refine Triple.bind (((asking _).and (hknows _)).conseq (fun _ hw => hw) (fun _ _ hw => hw)
          (fun _ _ hw => hw.1) fun _ hw => hw.1) fun terminal => ?_
        split
        · exact resumeAfterCancel _ _ _
        · exact .pure fun w hw => hw.1
      · rintro w ⟨hw, rfl⟩
        exact ⟨hw, fun i hi => Store.knows_of_mem (List.mem_of_mem_filter hi)⟩
    · exact .pure fun w hw => hw.1

theorem sites : Sites cfg env WriteAhead where
  fold f w hw := hw.fold f w
  write id pair f w _ hw := hw.plain env (.upsertTrade id pair f) trivial w
  admits _ _ _ _ _ _ := trivial
  tables _ _ _ _ _ := trivial
  submit symbol id := (submit symbol id).weaken fun _ hw => hw.1
  convert := convert
  emergencyExit := emergencyExit
  placePartialProtection := keeps_placePartialProtection (fun f w hw => hw.fold f w)
    (fun _ _ => upsert _ _ _) (fun _ _ => cancelEntryList _ _ _) protectFilled
  cancelEntryList row symbol operation _ := cancelEntryList row symbol operation
  resolveIntent := resolveIntent
  resumePreparedReplacement i _ _ := (resumePreparedReplacement i).weaken fun _ hw => hw.1

theorem restart {w : World σ} (h : WriteAhead w) : WriteAhead w.restart :=
  h.mono (.refl _)

/-- An intent that an operation finds past PREPARED at its beginning is crossed by no later
request. -/
theorem not_crossed_again {w : World σ} (h : WriteAhead w) {s : Store} {es : List Entry}
    (hes : ⟨s, .began⟩ :: es <:+ w.history) {id : IntentId} {i : Intent}
    (hi : s.intent id = some i) (hs : i.state ≠ .prepared) (hid : id ∈ crossings w.history) :
    id ∈ crossings es := by
  have hold := h.resolved s es hes id i hi hs (crossings_subset hid)
  obtain ⟨later, hlater⟩ := hes
  have hnodup := h.marks_nodup
  rw [← hlater, marks_append_began] at hnodup
  rw [← hlater, crossings_append_began] at hid
  rcases List.mem_append.mp hid with hid | hid
  · exact absurd hold (List.disjoint_of_nodup_append hnodup (crossings_subset hid))
  · exact hid

theorem runSteps (cfg : Config) (env : Env σ) (e : σ) (steps : List Step) :
    WriteAhead (runSteps cfg env e steps) :=
  sites.runSteps e steps (init e) (fun _ hw => hw.began) fun _ hw => hw.restart

end WriteAhead
end blocks

end SpotSidecar
