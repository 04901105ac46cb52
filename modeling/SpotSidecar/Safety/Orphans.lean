import SpotSidecar.Interaction.Eval
import SpotSidecar.Safety.Rows
import SpotSidecar.Safety.Sites

/-! Trade rows to which nothing at the exchange belongs, and what a submission makes of them. -/
namespace SpotSidecar
open Interaction Prog
variable {σ α γ : Type} {cfg : Config} {env : Env σ} {id : TradeId} {s s' : Store}

/-- An intent of the entry of this trade was prepared. -/
def Prepared (s : Store) (id : TradeId) : Prop :=
  ∃ i ∈ s.intents, i.tradeId = id ∧ i.operation = .entry

/-- The row of the trade is open only if an intent of its entry was prepared. -/
def Accounted (s : Store) (id : TradeId) : Prop :=
  (∀ row, s.trade id = some row → row.lifecycle.terminal = true) ∨ Prepared s id

instance (s : Store) (id : TradeId) : Decidable (Accounted s id) :=
  decidable_of_iff
    ((s.trade id).all (·.lifecycle.terminal) ∨
      s.intents.any fun i => i.tradeId = id ∧ i.operation = .entry)
    (by simp [Accounted, Prepared, Option.all_eq_true])

/-- A row that names nothing at the exchange. -/
structure Nameless (row : TradeRow) : Prop where
  entry : row.entryOrderId = none
  takeProfit : row.takeProfitOrderId = none
  stop : row.stopOrderId = none
  list : row.orderListId = none

/-- Nothing at the exchange belongs to the trade, and nothing was meant to. -/
structure Bare (s : Store) (id : TradeId) : Prop where
  row : ∀ row, s.trade id = some row → Nameless row
  intents : ∀ i ∈ s.intents, i.tradeId ≠ id

/-- Columns that give no row a name. -/
structure Anonymous (f : TradeFields) : Prop where
  entry : f.entryOrderId = none
  takeProfit : f.takeProfitOrderId = none
  stop : f.stopOrderId = none
  list : f.orderListId = none

theorem Nameless.common {row : TradeRow} (h : Nameless row) (e : Event) : row.common e = [] := by
  by_contra hne
  obtain ⟨n, hn⟩ := List.exists_mem_of_ne_nil _ hne
  rw [TradeRow.mem_common, h.entry, h.takeProfit, h.stop, h.list] at hn
  simp at hn

/-- No event is folded into a row that names nothing. -/
theorem Nameless.named {row : TradeRow} (h : Nameless row) {events : List StoredEvent}
    (hn : row.Named events) : events = [] := by
  by_contra hne
  obtain ⟨stored, hs⟩ := List.exists_mem_of_ne_nil _ hne
  exact hn stored hs (h.common _)

theorem Nameless.set {row : TradeRow} (h : Nameless row) {f : TradeFields} (hf : Anonymous f)
    (now : ℕ) : Nameless (row.set f now) where
  entry := by rw [TradeRow.set, hf.entry, Option.getD_none, h.entry]
  takeProfit := by rw [TradeRow.set, hf.takeProfit, Option.getD_none, h.takeProfit]
  stop := by rw [TradeRow.set, hf.stop, Option.getD_none, h.stop]
  list := by rw [TradeRow.set, hf.list, Option.getD_none, h.list]

theorem Prepared.of_ledgerLe (h : Prepared s id) (hle : s.LedgerLe s') : Prepared s' id := by
  obtain ⟨i, hi, htrade, hop⟩ := h
  obtain ⟨j, hj, hdraft, -⟩ := hle _ i (Store.intent_of_mem hi)
  have htrade' : j.tradeId = i.tradeId := congrArg IntentDraft.tradeId hdraft
  have hop' : j.operation = i.operation := congrArg IntentDraft.operation hdraft
  exact ⟨j, (Store.intent_mem hj).1, htrade'.trans htrade, hop'.trans hop⟩

/-- A bare row is left as it is, if it is only up to the events. -/
theorem Bare.trade_eq (h : Bare s id) {events : List StoredEvent} {now : ℕ}
    (hrow : s'.trade id = (s.trade id).map (foldEvents events now))
    (hnamed : ∀ row ∈ s.trade id, row.Named events) : s'.trade id = s.trade id := by
  rw [hrow]
  cases hr : s.trade id with
  | none => rfl
  | some row =>
    rw [(h.row row hr).named (hnamed row hr)]
    rfl

theorem Accounted.of_events (h : Accounted s id) (hle : s.LedgerLe s') {events : List StoredEvent}
    {now : ℕ} (hrow : s'.trade id = (s.trade id).map (foldEvents events now)) :
    Accounted s' id := by
  rcases h with hclosed | hprepared
  · refine .inl fun row' hr' => ?_
    rw [hrow] at hr'
    obtain ⟨row, hr, rfl⟩ := Option.map_eq_some_iff.mp hr'
    exact foldEvents_terminal _ _ (hclosed row hr)
  · exact .inr (hprepared.of_ledgerLe hle)

theorem Bare.upsert (h : Bare s id) (pair : Pair) {f : TradeFields} (hf : Anonymous f) :
    Bare (s.upsertTrade id pair f) id where
  row row hrow := by
    rw [Store.upsertTrade_trade, if_pos rfl] at hrow
    obtain rfl := Option.some.inj hrow
    refine Nameless.set ?_ hf _
    cases hr : s.trade id with
    | none => exact ⟨rfl, rfl, rfl, rfl⟩
    | some old => exact h.row old hr
  intents := by
    rw [Store.upsertTrade_intents]
    exact h.intents

section acts
variable (env) in
theorem Bare.exec_trade {a : Act γ} (hu : ¬a.upserts id) (w : World σ) (h : Bare w.store id) :
    (a.exec env γ w).2.store.trade id = w.store.trade id := by
  obtain ⟨events, hrow, hnamed⟩ := Act.exec_trade env a w id hu
  exact h.trade_eq hrow hnamed

variable (env) in
/-- The intents of a bare trade are those that the act prepares. -/
theorem Bare.exec_intents (a : Act γ) (w : World σ) (h : Bare w.store id) {i : Intent}
    (hi : i ∈ (a.exec env γ w).2.store.intents) (htrade : i.tradeId = id) : i.draft ∈ a.drafts := by
  rcases Act.mem_exec_drafts a w (List.mem_map_of_mem hi) with hold | hnew
  · obtain ⟨j, hj, heq⟩ := List.mem_map.mp hold
    exact absurd ((congrArg IntentDraft.tradeId heq).trans htrade) (h.intents j hj)
  · exact hnew

variable (env) in
/-- What neither writes the row nor prepares an intent of the trade leaves a bare row as it is. -/
theorem Bare.exec {a : Act γ} (hu : ¬a.upserts id) (hd : a.drafts = []) (w : World σ)
    (h : Bare w.store id) : Bare (a.exec env γ w).2.store id where
  row row hrow := h.row row (h.exec_trade env hu w ▸ hrow)
  intents i hi htrade := by
    have hmem := h.exec_intents env a w hi htrade
    rw [hd] at hmem
    exact absurd hmem List.not_mem_nil

variable (env) in
theorem Accounted.exec {a : Act γ} (hu : ¬a.upserts id) (w : World σ)
    (h : Accounted w.store id) : Accounted (a.exec env γ w).2.store id := by
  obtain ⟨events, hrow, -⟩ := Act.exec_trade env a w id hu
  exact h.of_events (Act.exec_ledgerLe a w) hrow

end acts

/-! ### A submission: what it reads, and what it does then -/

/-- The entry that `submit` goes on with. -/
structure EntryPlan where
  pair : Pair
  endpoint : Endpoint
  params : Params
  now : ℚ

/-- What `submit` reads before it writes anything: its checks, and the reads of the pair, the rules,
the balance, the prices, the filters and the clock for the entry. -/
def entryReads (cfg : Config) (symbol : Symbol) (tradeId : TradeId) :
    Asking (Except String EntryPlan) := do
  let m ← theMemory
  let s ← theStore
  if !m.started || !m.enabled || !s.data.entriesEnabled then
    return .error "entries are not armed"
  else
    let active ← call .activePair
    if symbol ≠ active.symbol then return .error "signal symbol is not the active BTC pair"
    else if tradeId = "" then return .error "trade_id is required for intent-first execution"
    else
      let s ← theStore
      if s.activeTradeRows.any (·.tradeId ≠ tradeId) then
        return .error "another BTC exposure is nonterminal"
      else if !s.unresolvedIntents.isEmpty then return .error "an operation intent is unresolved"
      else
        let plan ← planEntry cfg symbol active
        match plan with
        | .error detail => return .error detail
        | .ok (endpoint, params) =>
          let now ← call .time
          return .ok { pair := active, endpoint, params, now }

/-- The answer of the POST of an entry is written to the row. -/
def settleEntry (tradeId : TradeId) (p : EntryPlan) (submitted : Submitted) : Acting Verdict := do
  match submitted.state, submitted.response with
  | .definiteReject, _ =>
    upsert tradeId p.pair
      { lifecycle := some .entryRejected
        reconciliationStatus := some "ENTRY_DEFINITELY_REJECTED" }
    return (false, submitted.detail)
  | .confirmed, some response =>
    bindIntent submitted.intentId response p.params
    return (true, "entry confirmed")
  | .confirmed, none => .raise (.of .attribute "object has no attribute 'get'")
  | _, _ =>
    upsert tradeId p.pair
      { lifecycle := some .ambiguous
        reconciliationStatus := some "ENTRY_AMBIGUOUS_RECONCILE_REQUIRED" }
    return (false, "entry outcome ambiguous; entries paused and no retry permitted")

/-- `submit` from its first write on -/
def enter (cfg : Config) (tradeId : TradeId) (symbol : Symbol)
    (p : EntryPlan) : Acting Verdict := do
  let s ← theStore
  upsert tradeId p.pair
    { lifecycle := some .entrySubmitted
      entryClientOrderId := some p.params.workingClientOrderId
      entrySubmittedAt := some (some p.now)
      protectionMode := some (some s.data.protectionMode)
      trailingDelta := some (some cfg.settings.trailingDeltaBips)
      reconciliationStatus := some "ENTRY_INTENT_PREPARED" }
  let submitted ← submitOnce cfg .entry tradeId symbol p.endpoint p.params none
  settleEntry tradeId p submitted

/-- The digests are distinct: an intent that has the id of an entry of the trade is one. -/
def Digested (cfg : Config) (s : Store) (id : TradeId) : Prop :=
  ∀ i ∈ s.intents, ∀ symbol endpoint listClientId clientId,
    i.intentId = cfg.hash (.submission .entry id symbol endpoint listClientId clientId) →
      i.tradeId = id ∧ i.operation = .entry

variable (env) in
/-- Acts that prepare nothing leave the digests distinct. -/
theorem Digested.exec {a : Act γ} (ha : a.drafts = []) (w : World σ)
    (h : Digested cfg w.store id) : Digested cfg (a.exec env γ w).2.store id := by
  intro i hi symbol endpoint listClientId clientId hid
  rcases Act.mem_exec_drafts a w (List.mem_map_of_mem hi) with hold | hnew
  · obtain ⟨j, hj, heq⟩ := List.mem_map.mp hold
    have hid' : j.intentId = i.intentId := congrArg IntentDraft.intentId heq
    have htrade : j.tradeId = i.tradeId := congrArg IntentDraft.tradeId heq
    have hop : j.operation = i.operation := congrArg IntentDraft.operation heq
    rw [← htrade, ← hop]
    exact h j hj symbol endpoint listClientId clientId (hid'.trans hid)
  · rw [ha] at hnew
    exact absurd hnew List.not_mem_nil

theorem Digested.upsert (h : Digested cfg s id) (id' : TradeId) (pair : Pair) (f : TradeFields) :
    Digested cfg (s.upsertTrade id' pair f) id := by
  unfold Digested
  rw [Store.upsertTrade_intents]
  exact h

/-- An entry is prepared, or it was before. -/
theorem Digested.prepare (h : Digested cfg s id) (symbol : Symbol) (endpoint : Endpoint)
    (params : Params) :
    ∃ isNew s', s.prepareIntent (submissionDraft cfg .entry id symbol endpoint params none) =
      .ok (isNew, s') ∧ Prepared s' id := by
  rcases hprior : s.intent (submissionDraft cfg .entry id symbol endpoint params none).intentId
    with _ | prior
  · refine ⟨_, _, by rw [Store.prepareIntent, dif_pos hprior]; rfl, ?_⟩
    exact ⟨_, List.mem_append_right _ (List.mem_singleton_self _), rfl, rfl⟩
  · obtain ⟨hmem, hid⟩ := Store.intent_mem hprior
    obtain ⟨htrade, hop⟩ := h prior hmem _ _ _ _ hid
    refine ⟨false, s, ?_, prior, hmem, htrade, hop⟩
    rw [Store.prepareIntent, dif_neg (by simp [hprior])]

end SpotSidecar
