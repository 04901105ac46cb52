import SpotSidecar.Adapter.Run

/-! What the transactions of the store do to the ledger and to the trade rows, and the order
in which the ledger grows. -/
namespace SpotSidecar
open Interaction

/-- The part of an intent that never changes. -/
def Intent.draft (i : Intent) : IntentDraft where
  intentId := i.intentId
  operation := i.operation
  tradeId := i.tradeId
  symbol := i.symbol
  endpoint := i.endpoint
  request := i.request
  requestSha256 := i.requestSha256
  clientOrderId := i.clientOrderId
  listClientOrderId := i.listClientOrderId
  parentIntentId := i.parentIntentId

@[simp] theorem Intent.closedBy_draft (now : ℕ) (i : Intent) :
    (i.closedBy now).draft = i.draft := by
  unfold closedBy
  split <;> rfl

@[simp] theorem Intent.marked_draft (now : ℕ) (i : Intent) : (i.marked now).draft = i.draft := by
  unfold marked
  split <;> rfl

theorem Intent.closedBy_state_ne {now : ℕ} {i : Intent} (h : i.state ≠ .prepared) :
    (i.closedBy now).state ≠ .prepared := by
  rwa [closedBy, if_neg h]

theorem Intent.marked_state_ne {now : ℕ} {i : Intent} : (i.marked now).state ≠ .prepared := by
  unfold marked
  split
  · exact fun h => nomatch h
  · assumption

namespace Store
variable {s s' : Store}

theorem intent_mem {id : IntentId} {i : Intent} (h : s.intent id = some i) :
    i ∈ s.intents ∧ i.intentId = id := by
  have hid := List.find?_some h
  exact ⟨List.mem_of_find?_eq_some h, by simpa using hid⟩

theorem intent_of_mem {i : Intent} (h : i ∈ s.intents) : s.intent i.intentId = some i := by
  cases hi : s.intent i.intentId with
  | none => exact absurd (List.mem_map_of_mem h) (intent_eq_none.mp hi)
  | some j =>
    obtain ⟨hj, hid⟩ := intent_mem hi
    rw [List.inj_on_of_nodup_map s.intents_nodup hj h hid]

theorem intent_eq_some {id : IntentId} {i : Intent} :
    s.intent id = some i ↔ i ∈ s.intents ∧ i.intentId = id :=
  ⟨intent_mem, fun ⟨h, hid⟩ => hid ▸ intent_of_mem h⟩

theorem trade_mem {id : TradeId} {r : TradeRow} (h : s.trade id = some r) :
    r ∈ s.trades ∧ r.tradeId = id := by
  have hid := List.find?_some h
  exact ⟨List.mem_of_find?_eq_some h, by simpa using hid⟩

theorem trade_of_mem {r : TradeRow} (h : r ∈ s.trades) : s.trade r.tradeId = some r := by
  cases hr : s.trade r.tradeId with
  | none => exact absurd (List.mem_map_of_mem h) (trade_eq_none.mp hr)
  | some q =>
    obtain ⟨hq, hid⟩ := trade_mem hr
    rw [List.inj_on_of_nodup_map s.trades_nodup hq h hid]

theorem find?_map_of_key {α κ : Type} [DecidableEq κ] (key : α → κ) (f : α → α)
    (h : ∀ a, key (f a) = key a) (k : κ) (l : List α) :
    (l.map f).find? (fun a => key a = k) = (l.find? fun a => key a = k).map f := by
  rw [List.find?_map]
  congr 2
  funext a
  simp [h]

@[simp] theorem mapIntents_intent (f : Intent → Intent) (h : ∀ i, (f i).intentId = i.intentId)
    (id : IntentId) : (s.mapIntents f h).intent id = (s.intent id).map f :=
  find?_map_of_key Intent.intentId f h id s.intents

@[simp] theorem mapTrades_trade (f : TradeRow → TradeRow) (h : ∀ r, (f r).tradeId = r.tradeId)
    (id : TradeId) : (s.mapTrades f h).trade id = (s.trade id).map f :=
  find?_map_of_key TradeRow.tradeId f h id s.trades

theorem updateIntent_intent (id : IntentId) (f : Intent → Intent)
    (h : ∀ i, (f i).intentId = i.intentId) (id' : IntentId) :
    (s.updateIntent id f h).intent id' =
      if id' = id then (s.intent id').map f else s.intent id' := by
  rw [updateIntent, mapIntents_intent]
  cases hi : s.intent id' with
  | none => split <;> rfl
  | some i =>
    have hid := (intent_mem hi).2
    simp only [Option.map_some, hid]
    split <;> rfl

theorem updateTrade_trade (id : TradeId) (f : TradeRow → TradeRow)
    (h : ∀ r, (f r).tradeId = r.tradeId) (id' : TradeId) :
    (s.updateTrade id f h).trade id' = if id' = id then (s.trade id').map f else s.trade id' := by
  rw [updateTrade, mapTrades_trade]
  cases hr : s.trade id' with
  | none => split <;> rfl
  | some r =>
    have hid := (trade_mem hr).2
    simp only [Option.map_some, hid]
    split <;> rfl

theorem insertIntent_intent (i : Intent) (h : s.intent i.intentId = none) (id : IntentId) :
    (s.insertIntent i h).intent id = if id = i.intentId then some i else s.intent id := by
  simp only [intent, insertIntent, List.find?_append, List.find?_singleton, decide_eq_true_eq]
  by_cases hid : id = i.intentId
  · have hnone : s.intents.find? (fun j => j.intentId = i.intentId) = none := h
    simp [hid, hnone]
  · have hne : ¬i.intentId = id := fun h => hid h.symm
    simp [hid, hne]

theorem insertTrade_trade (r : TradeRow) (h : s.trade r.tradeId = none) (id : TradeId) :
    (s.insertTrade r h).trade id = if id = r.tradeId then some r else s.trade id := by
  simp only [trade, insertTrade, List.find?_append, List.find?_singleton, decide_eq_true_eq]
  by_cases hid : id = r.tradeId
  · have hnone : s.trades.find? (fun q => q.tradeId = r.tradeId) = none := h
    simp [hid, hnone]
  · have hne : ¬r.tradeId = id := fun h => hid h.symm
    simp [hid, hne]

/-- A parent that is closed with its child was PREPARED. -/
theorem any_prepared {id : IntentId} :
    (s.intents.any fun i => i.intentId = id && i.state = .prepared) = true ↔
      ∃ i, s.intent id = some i ∧ i.state = .prepared := by
  simp only [List.any_eq_true, Bool.and_eq_true, decide_eq_true_eq, intent_eq_some, and_assoc]

/-- What `prepare_intent` can do. -/
theorem prepareIntent_cases {d : IntentDraft} {b : Bool} (h : s.prepareIntent d = .ok (b, s')) :
    (b = false ∧ s' = s ∧ s.intent d.intentId ≠ none) ∨
    (b = true ∧ s.intent d.intentId = none ∧ s'.trades = s.trades ∧ s'.events = s.events ∧
      s'.data = s.data ∧
      ∀ id, s'.intent id =
        ((if id = d.intentId then some (d.row (s.clock + 1)) else s.intent id).map fun i =>
          if d.closeParentIntentId = some id then i.closedBy (s.clock + 1) else i)) := by
  unfold prepareIntent at h
  split at h
  · next hnone =>
    dsimp only at h
    have hins : ∀ id, (s.tick.insertIntent (d.row (s.clock + 1)) (tick_intent hnone)).intent id =
        if id = d.intentId then some (d.row (s.clock + 1)) else s.intent id :=
      fun id => insertIntent_intent (s := s.tick) (d.row (s.clock + 1)) (tick_intent hnone) id
    right
    split at h
    · next hparent =>
      cases h
      refine ⟨rfl, hnone, rfl, rfl, rfl, fun id => ?_⟩
      simp [hparent, hins]
    · next parent hparent =>
      split at h
      · cases h
        refine ⟨rfl, hnone, rfl, rfl, rfl, fun id => ?_⟩
        rw [updateIntent_intent, hins, hparent]
        by_cases hid : id = parent
        · simp [hid]
        · have hne : ¬parent = id := fun h => hid h.symm
          simp [hid, hne]
      · cases h
  · next hsome =>
    cases h
    exact .inl ⟨rfl, rfl, hsome⟩

/-- A new intent is in the ledger as it was drafted. -/
theorem prepareIntent_new {d : IntentDraft} (h : s.prepareIntent d = .ok (true, s')) :
    s.intent d.intentId = none ∧
      ∃ i, s'.intent d.intentId = some i ∧ i.draft = (d.row 0).draft := by
  rcases prepareIntent_cases h with ⟨hfalse, -⟩ | ⟨-, hnone, -, -, -, hs⟩
  · cases hfalse
  · refine ⟨hnone, if d.closeParentIntentId = some d.intentId then
      (d.row (s.clock + 1)).closedBy (s.clock + 1) else d.row (s.clock + 1), ?_, ?_⟩
    · rw [hs, if_pos rfl]
      rfl
    · split
      · exact Intent.closedBy_draft _ _
      · rfl

/-- What `mark_intent_submitting` does. -/
theorem markIntentSubmitting_ok {id : IntentId} (h : s.markIntentSubmitting id = .ok s') :
    (∃ i, s.intent id = some i ∧ i.state = .prepared) ∧ s'.trades = s.trades ∧
      s'.events = s.events ∧ s'.data = s.data ∧
      ∀ id', s'.intent id' =
        if id' = id then (s.intent id').map (Intent.marked (s.clock + 1)) else s.intent id' := by
  unfold markIntentSubmitting at h
  split at h
  · next hany =>
    cases h
    exact ⟨any_prepared.mp hany, rfl, rfl, rfl, fun id' => updateIntent_intent ..⟩
  · cases h

/-- What `finish_intent` does. -/
theorem finishIntent_ok {id : IntentId} {state : IntentState} {orderId listId : Ident}
    {error : Option String} (h : s.finishIntent id state orderId listId error = .ok s') :
    state.finished = true ∧ s'.trades = s.trades ∧ s'.events = s.events ∧ s'.data = s.data ∧
      ∀ id', s'.intent id' =
        if id' = id then
          (s.intent id').map (Intent.finish state orderId listId error (s.clock + 1))
        else s.intent id' := by
  unfold finishIntent at h
  split at h
  · cases h
  · next hfin =>
    split at h
    · cases h
      exact ⟨by simpa using hfin, rfl, rfl, rfl, fun id' => updateIntent_intent ..⟩
    · cases h

/-- What `upsert_trade` does. -/
theorem upsertTrade_trade (id : TradeId) (pair : Pair) (f : TradeFields) (id' : TradeId) :
    (s.upsertTrade id pair f).trade id' =
      if id' = id then
        some (((s.trade id).getD { tradeId := id, pair := pair }).set f (s.clock + 1))
      else s.trade id' := by
  unfold upsertTrade
  split
  · next h =>
    rw [insertTrade_trade, h]
    rfl
  · next h =>
    rw [updateTrade_trade]
    obtain ⟨r, hr⟩ := Option.ne_none_iff_exists'.mp h
    split
    · next hid =>
      subst hid
      have : s.tick.trade id' = s.trade id' := rfl
      rw [this, hr]
      rfl
    · rfl

/-- What the ledger stands for, without the states. -/
def drafts (s : Store) : List IntentDraft := s.intents.map Intent.draft

theorem mem_drafts {id : IntentId} {i : Intent} (h : s.intent id = some i) :
    i.draft ∈ s.drafts ∧ i.draft.intentId = id :=
  ⟨List.mem_map_of_mem (intent_mem h).1, (intent_mem h).2⟩

theorem drafts_mapIntents (f : Intent → Intent) (h : ∀ i, (f i).intentId = i.intentId)
    (hf : ∀ i, (f i).draft = i.draft) : (s.mapIntents f h).drafts = s.drafts := by
  rw [drafts, mapIntents, List.map_map, show Intent.draft ∘ f = Intent.draft from funext hf]
  rfl

theorem drafts_updateIntent (id : IntentId) (f : Intent → Intent)
    (h : ∀ i, (f i).intentId = i.intentId) (hf : ∀ i, (f i).draft = i.draft) :
    (s.updateIntent id f h).drafts = s.drafts :=
  drafts_mapIntents _ _ fun i => by
    split
    · exact hf i
    · rfl

/-- Only a new intent adds to what the ledger stands for. -/
theorem prepareIntent_drafts {d : IntentDraft} {b : Bool} (h : s.prepareIntent d = .ok (b, s')) :
    (b = false ∧ s' = s) ∨
      (b = true ∧ s.intent d.intentId = none ∧ s'.drafts = s.drafts ++ [(d.row 0).draft]) := by
  unfold prepareIntent at h
  split at h
  · next hnone =>
    dsimp only at h
    have hins : (s.tick.insertIntent (d.row (s.clock + 1)) (tick_intent hnone)).drafts =
        s.drafts ++ [(d.row 0).draft] := by
      rw [drafts, insertIntent, List.map_append]
      rfl
    split at h
    · cases h
      exact .inr ⟨rfl, hnone, hins⟩
    · split at h
      · cases h
        refine .inr ⟨rfl, hnone, ?_⟩
        rw [drafts_updateIntent _ _ _ (Intent.closedBy_draft _), hins]
      · cases h
  · cases h
    exact .inl ⟨rfl, rfl⟩

theorem markIntentSubmitting_drafts {id : IntentId} (h : s.markIntentSubmitting id = .ok s') :
    s'.drafts = s.drafts := by
  unfold markIntentSubmitting at h
  split at h
  · cases h
    exact drafts_updateIntent _ _ _ (Intent.marked_draft _)
  · cases h

theorem finishIntent_drafts {id : IntentId} {state : IntentState} {orderId listId : Ident}
    {error : Option String} (h : s.finishIntent id state orderId listId error = .ok s') :
    s'.drafts = s.drafts := by
  unfold finishIntent at h
  split at h
  · cases h
  · split at h
    · cases h
      exact drafts_updateIntent _ _ _ fun _ => rfl
    · cases h

/-- The ledger grows: no intent is lost, none changes what it stands for, and none that
has left PREPARED returns. -/
def LedgerLe (s s' : Store) : Prop :=
  ∀ id i, s.intent id = some i → ∃ j, s'.intent id = some j ∧ j.draft = i.draft ∧
    (i.state ≠ .prepared → j.state ≠ .prepared)

theorem LedgerLe.refl (s : Store) : LedgerLe s s := fun _ i h => ⟨i, h, rfl, id⟩

theorem LedgerLe.trans {s₁ s₂ s₃ : Store} (h : LedgerLe s₁ s₂) (h' : LedgerLe s₂ s₃) :
    LedgerLe s₁ s₃ := by
  intro id i hi
  obtain ⟨j, hj, hd, hs⟩ := h id i hi
  obtain ⟨k, hk, hd', hs'⟩ := h' id j hj
  exact ⟨k, hk, hd'.trans hd, fun hp => hs' (hs hp)⟩

/-- A store whose ledger is the image of another under a map that respects the order. -/
theorem ledgerLe_of_map {f : IntentId → Intent → Intent}
    (hf : ∀ id i, (f id i).draft = i.draft ∧ (i.state ≠ .prepared → (f id i).state ≠ .prepared))
    (h : ∀ id i, s.intent id = some i → s'.intent id = some (f id i)) : LedgerLe s s' :=
  fun id i hi => ⟨f id i, h id i hi, hf id i⟩

theorem ledgerLe_of_intents (h : s'.intents = s.intents) : LedgerLe s s' :=
  ledgerLe_of_map (f := fun _ i => i) (fun _ _ => ⟨rfl, id⟩) fun id i hi => by
    rwa [intent, h]

theorem prepareIntent_ledgerLe {d : IntentDraft} {b : Bool}
    (h : s.prepareIntent d = .ok (b, s')) : LedgerLe s s' := by
  rcases prepareIntent_cases h with ⟨_, rfl, _⟩ | ⟨_, hnone, _, _, _, hs⟩
  · exact .refl _
  · refine ledgerLe_of_map
      (f := fun id i => if d.closeParentIntentId = some id then i.closedBy (s.clock + 1) else i)
      (fun id i => ?_) fun id i hi => ?_
    · split
      · exact ⟨Intent.closedBy_draft _ _, Intent.closedBy_state_ne⟩
      · exact ⟨rfl, fun h => h⟩
    · have hne : id ≠ d.intentId := by
        rintro rfl
        simp [hnone] at hi
      rw [hs, if_neg hne, hi]
      rfl

theorem markIntentSubmitting_ledgerLe {id : IntentId} (h : s.markIntentSubmitting id = .ok s') :
    LedgerLe s s' := by
  obtain ⟨-, -, -, -, hs⟩ := markIntentSubmitting_ok h
  refine ledgerLe_of_map
    (f := fun id' i => if id' = id then i.marked (s.clock + 1) else i) (fun id' i => ?_)
    fun id' i hi => ?_
  · split
    · exact ⟨Intent.marked_draft _ _, fun _ => Intent.marked_state_ne⟩
    · exact ⟨rfl, fun h => h⟩
  · rw [hs, hi]
    split <;> rfl

theorem IntentState.ne_prepared_of_finished {state : IntentState} (h : state.finished = true) :
    state ≠ .prepared := by
  rintro rfl
  cases h

theorem finishIntent_ledgerLe {id : IntentId} {state : IntentState} {orderId listId : Ident}
    {error : Option String} (h : s.finishIntent id state orderId listId error = .ok s') :
    LedgerLe s s' := by
  obtain ⟨hfin, -, -, -, hs⟩ := finishIntent_ok h
  refine ledgerLe_of_map
    (f := fun id' i => if id' = id then i.finish state orderId listId error (s.clock + 1) else i)
    (fun id' i => ?_) fun id' i hi => ?_
  · split
    · exact ⟨rfl, fun _ => IntentState.ne_prepared_of_finished hfin⟩
    · exact ⟨rfl, fun h => h⟩
  · rw [hs, hi]
    split <;> rfl

end Store

theorem mem_activeTradeRows {s : Store} {row : TradeRow} :
    row ∈ s.activeTradeRows ↔ row ∈ s.trades ∧ row.lifecycle.terminal = false := by
  simp [Store.activeTradeRows, List.mem_insertionSort]

theorem activeTradeRows_congr {s s' : Store} (h : s.trades = s'.trades) :
    s.activeTradeRows = s'.activeTradeRows := by
  unfold Store.activeTradeRows
  rw [h]

/-- The open trade of a symbol is the one of its pair. -/
theorem activeTradeForPair_of_symbol {s : Store} {symbol : Symbol} {row : TradeRow}
    (h : s.activeTradeForSymbol symbol = .ok (some row)) :
    s.pairForSymbol symbol = .ok row.pair ∧ s.activeTradeForPair row.pair = some row := by
  unfold Store.activeTradeForSymbol at h
  obtain ⟨pair, hpair, hrow⟩ := except_map_eq_ok.mp h
  have hmem := List.mem_of_getLast? hrow
  have heq : row.pair = pair := by simpa using (List.mem_filter.mp hmem).2
  subst heq
  exact ⟨hpair, hrow⟩

/-- The row of an open position is in the table, and it is open. -/
theorem mem_of_activeTradeForSymbol {s : Store} {symbol : Symbol} {row : TradeRow}
    (h : s.activeTradeForSymbol symbol = .ok (some row)) :
    row ∈ s.trades ∧ row.lifecycle.terminal = false := by
  have hrow := (activeTradeForPair_of_symbol h).2
  exact mem_activeTradeRows.mp (List.mem_of_mem_filter (List.mem_of_getLast? hrow))

section acts
variable {σ : Type} {env : Env σ} {γ : Type}

/-- What an act does to the world, one case for each kind of act. -/
theorem Ask.exec_cases (env : Env σ) (a : Ask γ) (w : World σ) :
    (a.exec env γ w).2.store.trades = w.store.trades ∧
      (a.exec env γ w).2.store.intents = w.store.intents ∧
      (a.exec env γ w).2.store.events = w.store.events := by
  cases a with
  | call c =>
    simp only [Ask.exec]
    split <;> exact ⟨rfl, rfl, rfl⟩
  | _ => exact ⟨rfl, rfl, rfl⟩

/-- Questions leave the trade rows as they are. -/
theorem keeps_trades {α : Type} (m : Asking α) (t : List TradeRow) :
    Prog.Keeps (Ask.exec env) (fun w => w.store.trades = t) m :=
  Prog.keeps_of_exec (fun a w hw => (Ask.exec_cases env a w).1.trans hw) m

/-- A conversion is planned for a nonterminal row. -/
theorem triple_planned {cfg : Config} (symbol : Symbol) (args : ConvertArgs) :
    Prog.Triple (Ask.exec env) (fun _ => True) (planConversion cfg symbol args)
      (fun r w => ∀ c, r = .ok c → c.row ∈ w.store.activeTradeRows)
      (fun _ _ => True) (fun _ => True) := by
  have hno : ∀ (P : World σ → Prop) (detail : String), Prog.Triple (Ask.exec env) P
      (Pure.pure (.error detail) : Asking (Except String Conversion))
      (fun r w => ∀ c, r = .ok c → c.row ∈ w.store.activeTradeRows)
      (fun _ _ => True) (fun _ => True) :=
    fun _ _ => .pure fun _ _ _ h => nomatch h
  unfold planConversion
  have hstore : Prog.Triple (Ask.exec env) (fun _ => True) theStore
      (fun s w => w.store.trades = s.trades) (fun _ _ => True) (fun _ => True) :=
    fun w _ => ⟨trivial, (rfl : w.store.trades = w.store.trades)⟩
  refine Prog.Triple.bind hstore fun s => ?_
  have hask : ∀ {β : Type} (m : Asking β), Prog.Triple (Ask.exec env)
      (fun w => w.store.trades = s.trades) m (fun _ w => w.store.trades = s.trades)
      (fun _ _ => True) (fun _ => True) :=
    fun m => (keeps_trades m s.trades).conseq (fun _ hw => hw) (fun _ _ hw => hw)
      (fun _ _ _ => trivial) fun _ _ => trivial
  refine Prog.Triple.bind (Q := fun found w => w.store.trades = s.trades ∧
    s.activeTradeForSymbol symbol = .ok found) (.ofExcept (fun found hfound w hw => ⟨hw, hfound⟩)
    fun _ _ _ _ => trivial) fun found => Prog.Triple.assume_eq fun hfound => ?_
  split
  · exact hno _ _
  · next row =>
    have hactive := mem_of_activeTradeForSymbol hfound
    refine Prog.Triple.bind (hask _) fun s' => ?_
    split
    · exact hno _ _
    · split
      · exact hno _ _
      · refine Prog.Triple.bind (hask _) fun active => ?_
        split
        · exact hno _ _
        · refine Prog.Triple.bind (hask _) fun rules => ?_
          dsimp only
          refine Prog.Triple.bind (hask _) fun current => ?_
          split
          · exact hno _ _
          · refine Prog.Triple.bind (hask _) fun stopPrice => ?_
            split
            · exact hno _ _
            · refine Prog.Triple.bind (hask _) fun _ => Prog.Triple.bind (hask _) fun request => ?_
              refine Prog.Triple.bind (hask _) fun _ => .pure fun w hw c hc => ?_
              cases hc
              rw [mem_activeTradeRows, hw]
              exact hactive

theorem Store.recordExchangeEvent_intents (s : Store) (e : Event) :
    (s.recordExchangeEvent e).2.intents = s.intents := by
  unfold Store.recordExchangeEvent
  dsimp only
  split <;> rfl

theorem Store.replayExchangeEventsForTrade_intents (s : Store) (id : TradeId) :
    (s.replayExchangeEventsForTrade id).2.intents = s.intents := by
  unfold Store.replayExchangeEventsForTrade
  split <;> rfl

theorem Fold.exec_intents (f : Fold γ) (w : World σ) :
    (f.exec env γ w).2.store.intents = w.store.intents := by
  cases f with
  | ask a => exact (Ask.exec_cases env a w).2.1
  | recordExchangeEvent e => exact w.store.recordExchangeEvent_intents e
  | replayExchangeEventsForTrade id => exact w.store.replayExchangeEventsForTrade_intents id

theorem Store.upsertTrade_intents (s : Store) (id : TradeId) (pair : Pair) (f : TradeFields) :
    (s.upsertTrade id pair f).intents = s.intents := by
  unfold Store.upsertTrade
  split <;> rfl

theorem Act.exec_ledgerLe (a : Act γ) (w : World σ) :
    Store.LedgerLe w.store (a.exec env γ w).2.store := by
  cases a with
  | fold f => exact Store.ledgerLe_of_intents (Fold.exec_intents f w)
  | prepareIntent d =>
    simp only [Act.exec]
    split
    · exact Store.prepareIntent_ledgerLe ‹_›
    · exact .refl _
  | markIntentSubmitting id =>
    simp only [Act.exec]
    split
    · exact Store.markIntentSubmitting_ledgerLe ‹_›
    · exact .refl _
  | finishIntent id state orderId listId error =>
    simp only [Act.exec]
    split
    · exact Store.finishIntent_ledgerLe ‹_›
    · exact .refl _
  | upsertTrade id pair f =>
    exact Store.ledgerLe_of_intents (w.store.upsertTrade_intents id pair f)
  | post p => exact .refl _

theorem Act.exec_drafts (a : Act γ) (w : World σ) {d : IntentDraft} (hd : d ∈ w.store.drafts) :
    d ∈ (a.exec env γ w).2.store.drafts := by
  obtain ⟨i, hi, rfl⟩ := List.mem_map.mp hd
  have hle : Store.LedgerLe w.store (a.exec env γ w).2.store := Act.exec_ledgerLe a w
  obtain ⟨j, hj, hij, -⟩ := hle _ i (Store.intent_of_mem hi)
  exact hij ▸ (Store.mem_drafts hj).1

/-- The draft that an act may add to the ledger. -/
def Act.drafts : Act γ → List IntentDraft
  | .prepareIntent d => [(d.row 0).draft]
  | _ => []

theorem Act.mem_exec_drafts (a : Act γ) (w : World σ) {d : IntentDraft}
    (hd : d ∈ (a.exec env γ w).2.store.drafts) : d ∈ w.store.drafts ∨ d ∈ a.drafts := by
  cases a with
  | fold f =>
    refine .inl ?_
    rwa [Store.drafts, Act.exec, Fold.exec_intents] at hd
  | prepareIntent d' =>
    simp only [Act.exec] at hd
    split at hd
    · rcases Store.prepareIntent_drafts ‹_› with ⟨-, rfl⟩ | ⟨-, -, hdrafts⟩
      · exact .inl hd
      · rw [hdrafts] at hd
        exact List.mem_append.mp hd
    · exact .inl hd
  | markIntentSubmitting id =>
    simp only [Act.exec] at hd
    split at hd
    · exact .inl (Store.markIntentSubmitting_drafts ‹_› ▸ hd)
    · exact .inl hd
  | finishIntent id state orderId listId error =>
    simp only [Act.exec] at hd
    split at hd
    · exact .inl (Store.finishIntent_drafts ‹_› ▸ hd)
    · exact .inl hd
  | upsertTrade id pair f =>
    refine .inl ?_
    change d ∈ (w.store.upsertTrade id pair f).drafts at hd
    rwa [Store.drafts, Store.upsertTrade_intents] at hd
  | post p => exact .inl hd

end acts

/-- The requests of a history, newest first. -/
def requests (h : List Entry) : List Post :=
  h.filterMap fun e => match e.item with
    | .posted p _ => some p
    | _ => none

theorem requests_note {σ : Type} (w : World σ) {i : Item} (h : ∀ p r, i ≠ .posted p r) :
    requests (w.note i).history = requests w.history := by
  cases i with
  | posted p r => exact absurd rfl (h p r)
  | _ => rfl

/-- Questions are no requests. -/
theorem Ask.exec_requests {σ γ : Type} (env : Env σ) (a : Ask γ) (w : World σ) :
    requests (a.exec env γ w).2.history = requests w.history := by
  cases a with
  | call c =>
    simp only [Ask.exec]
    split
    · next item hitem =>
      refine requests_note w ?_
      rintro p r rfl
      cases c <;> simp [Call.item?] at hitem
    · rfl
  | _ => rfl

end SpotSidecar
