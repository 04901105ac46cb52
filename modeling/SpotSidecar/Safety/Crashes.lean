import SpotSidecar.Exchange.Desk
import SpotSidecar.Safety.Orphans
import SpotSidecar.Safety.Still

/-! What recovery makes of a submission that died before its POST. -/
namespace SpotSidecar
open Interaction Prog
variable {σ α β : Type} {cfg : Config} {env : Env σ} {id : TradeId} {i : Intent} {s : Store}
  {phase : IntentState}

/-- Nothing is open and nothing unresolved, and the trade was rejected. -/
structure Rejected (id : TradeId) (s : Store) : Prop where
  rows : s.activeTradeRows = []
  intents : s.unresolvedIntents = []
  trade : (s.trade id).map (·.lifecycle) = some .entryRejected

/-- The entry of this trade is the only intent that is unresolved, and no other trade is open. -/
structure Sole (cfg : Config) (phase : IntentState) (id : TradeId) (i : Intent) (s : Store) :
    Prop where
  intents : s.unresolvedIntents = [i]
  state : i.state = phase
  operation : i.operation = .entry
  trade : i.tradeId = id
  request : cfg.requestHash i.request = i.requestSha256
  rows : ∀ k row, s.trade k = some row → row.lifecycle.terminal = false → k = id
  row : (s.trade id).isSome

namespace Store

theorem activeTradeRows_eq_nil :
    s.activeTradeRows = [] ↔ ∀ id row, s.trade id = some row → row.lifecycle.terminal = true := by
  rw [List.eq_nil_iff_forall_not_mem]
  constructor
  · intro h id row hrow
    by_contra hopen
    exact h row (mem_activeTradeRows.mpr ⟨(trade_mem hrow).1, by simpa using hopen⟩)
  · intro h row hrow
    obtain ⟨hmem, hopen⟩ := mem_activeTradeRows.mp hrow
    rw [h _ row (trade_of_mem hmem)] at hopen
    cases hopen

theorem unresolvedIntents_eq_nil :
    s.unresolvedIntents = [] ↔ ∀ id i, s.intent id = some i → i.state.unresolved = false := by
  rw [List.eq_nil_iff_forall_not_mem]
  constructor
  · intro h id i hi
    by_contra hunresolved
    exact h i (List.mem_filter.mpr ⟨(intent_mem hi).1, by simpa using hunresolved⟩)
  · intro h i hi
    obtain ⟨hmem, hunresolved⟩ := List.mem_filter.mp hi
    rw [h _ i (intent_of_mem hmem)] at hunresolved
    cases hunresolved

theorem unresolvedIntents_eq_singleton (hi : s.intent i.intentId = some i)
    (hunresolved : i.state.unresolved = true)
    (honly : ∀ k j, s.intent k = some j → j.state.unresolved = true → j = i) :
    s.unresolvedIntents = [i] := by
  have hnodup : s.unresolvedIntents.Nodup := s.intents_nodup.of_map.filter _
  refine List.perm_singleton.mp
    ((List.perm_ext_iff_of_nodup hnodup (List.nodup_singleton i)).mpr ?_)
  intro j
  rw [unresolvedIntents, List.mem_filter, List.mem_singleton]
  constructor
  · rintro ⟨hmem, hj⟩
    exact honly _ j (intent_of_mem hmem) hj
  · rintro rfl
    exact ⟨(intent_mem hi).1, hunresolved⟩

end Store

theorem Sole.intent (h : Sole cfg phase id i s) : s.intent i.intentId = some i := by
  have hmem : i ∈ s.unresolvedIntents := by
    rw [h.intents]
    exact List.mem_singleton_self i
  exact Store.intent_of_mem (List.mem_filter.mp hmem).1

theorem Sole.eq_of_unresolved (h : Sole cfg phase id i s) {j : Intent} {k : IntentId}
    (hj : s.intent k = some j) (hunresolved : j.state.unresolved = true) : j = i := by
  have hmem : j ∈ s.unresolvedIntents :=
    List.mem_filter.mpr ⟨(Store.intent_mem hj).1, hunresolved⟩
  rw [h.intents] at hmem
  exact List.mem_singleton.mp hmem

theorem Rejected.of_tables {s' : Store} (h : Rejected id s) (htrades : s'.trades = s.trades)
    (hintents : s'.intents = s.intents) : Rejected id s' where
  rows := (activeTradeRows_congr htrades).trans h.rows
  intents := (congrArg (List.filter _) hintents).trans h.intents
  trade := by
    rw [show s'.trade id = s.trade id from congrArg (List.find? _) htrades]
    exact h.trade

section reconcile

theorem rejected_asking (m : Asking α) :
    Keeps (Act.exec env) (fun w => Rejected id w.store) (liftM m : Acting α) := by
  have hask : Keeps (Ask.exec env) (fun w => Rejected id w.store) m := by
    refine keeps_of_exec (fun a w hw => ?_) m
    obtain ⟨htrades, hintents, -⟩ := Ask.exec_cases env a w
    exact hw.of_tables htrades hintents
  exact Triple.asked hask

/-- The store is read while nothing is open. -/
theorem rejected_store : Triple (Act.exec env) (fun w => Rejected id w.store)
    (liftM theStore : Acting Store) (fun s w => Rejected id w.store ∧ Rejected id s)
    (fun _ w => Rejected id w.store) fun w => Rejected id w.store :=
  fun _ hw => ⟨hw, hw, hw⟩

theorem rejected_each (f : α → Acting β) {xs : List α} (h : xs = []) :
    Keeps (Act.exec env) (fun w => Rejected id w.store) (Prog.each f xs) := by
  subst h
  exact .pure

/-- Once the intents are dealt with, no plan is left. -/
theorem triple_resolve {P C : World σ → Prop} (hP : ∀ w, P w → C w)
    (hC : ∀ w, Rejected id w.store → C w)
    (hloop : ∀ s, Triple (Act.exec env) (fun w => P w ∧ s = w.store)
      (Prog.each (fun i => (resolveIntent cfg i).attempt) s.unresolvedIntents)
      (fun _ w => Rejected id w.store) (fun _ w => Rejected id w.store) C) :
    Triple (Act.exec env) P (resolveOperationIntents cfg) (fun _ w => Rejected id w.store)
      (fun _ w => Rejected id w.store) C := by
  unfold resolveOperationIntents
  refine Triple.bind (triple_theStore hP) fun s => Triple.bind (hloop s) fun answers => ?_
  refine Triple.conseq (Triple.bind rejected_store fun s' => Triple.assume_eq fun hs' => ?_)
    (fun _ hw => hw) (fun _ _ hw => hw) (fun _ _ hw => hw) hC
  have hplans : (s'.unresolvedIntents.filter fun i =>
      i.state = .prepared && i.operation = .replaceProtection) = [] := by
    rw [hs'.intents, List.filter_nil]
  refine Triple.bind (rejected_each _ hplans) fun answers' => ?_
  exact Keeps.bind (rejected_asking _) fun s'' => .pure

theorem rejected_resolve :
    Keeps (Act.exec env) (fun w => Rejected id w.store) (resolveOperationIntents cfg) := by
  refine triple_resolve (fun _ hw => hw) (fun _ hw => hw) fun s => ?_
  refine Triple.assume fun w hw => ?_
  obtain ⟨hw, rfl⟩ := hw
  exact (rejected_each _ hw.intents).weaken fun v hv => hv ▸ hw

theorem rejected_refresh : Keeps (Act.exec env) (fun w => Rejected id w.store)
    (liftM refreshDurableExchangeState : Acting Unit) := by
  have hstore :
      Triple (Fold.exec env) (fun w => Rejected id w.store) (liftM theStore : Folding Store)
      (fun s w => Rejected id w.store ∧ Rejected id s) (fun _ w => Rejected id w.store)
      fun w => Rejected id w.store := fun _ hw => ⟨hw, hw, hw⟩
  have hnone : ∀ {xs : List TradeRow}, xs = [] →
      Keeps (Fold.exec env) (fun w => Rejected id w.store) (Prog.each refreshTrade xs) := by
    rintro xs rfl
    exact .pure
  unfold refreshDurableExchangeState
  refine Triple.folded (Triple.bind hstore fun s => Triple.assume_eq fun hs => ?_)
  exact Triple.bind (hnone hs.rows) fun _ => Keeps.pure

theorem rejected_emergency :
    Keeps (Act.exec env) (fun w => Rejected id w.store) (reconcileConfirmedEmergencyExits cfg) := by
  unfold reconcileConfirmedEmergencyExits
  refine Triple.bind rejected_store fun s => Triple.assume_eq fun hs => ?_
  exact Triple.bind (rejected_each _ hs.rows) fun _ => .pure fun _ hw => hw

/-- No trade is there whose fill would need protection. -/
theorem rejected_recoverPartial (symbol : Symbol) :
    Keeps (Act.exec env) (fun w => Rejected id w.store) (recoverPartial cfg symbol) := by
  unfold recoverPartial placePartialProtection
  refine Keeps.bind (Keeps.attempt ?_) fun result => ?_
  · refine Triple.bind rejected_store fun s => Triple.assume_eq fun hs => ?_
    cases hfound : s.activeTradeForSymbol symbol with
    | error e => exact fun w hw => hw
    | ok found =>
      cases found with
      | none => exact fun w hw => hw
      | some row =>
        have hmem := mem_activeTradeRows.mpr (mem_of_activeTradeForSymbol hfound)
        rw [hs.rows] at hmem
        cases hmem
  · split
    · exact .bind (rejected_asking _) fun _ => .pure
    · exact .pure

/-- After the intents are dealt with, a reconciliation finds nothing to do. -/
theorem triple_reconcile {P C : World σ → Prop} (hC : ∀ w, Rejected id w.store → C w)
    (hresolve : Triple (Act.exec env) P (resolveOperationIntents cfg)
      (fun _ w => Rejected id w.store) (fun _ w => Rejected id w.store) C) :
    Triple (Act.exec env) P (verifiedReconcile cfg) (fun _ w => Rejected id w.store)
      (fun _ w => Rejected id w.store) C := by
  unfold verifiedReconcile
  refine Triple.bind hresolve fun resolution => ?_
  refine Triple.conseq (Keeps.bind rejected_refresh fun _ => ?_) (fun _ hw => hw)
    (fun _ _ hw => hw) (fun _ _ hw => hw) hC
  refine .bind rejected_emergency fun emergency => ?_
  refine Triple.bind rejected_store fun s => Triple.assume_eq fun hs => ?_
  have hstale : s.activeTradeRows.filter (·.lifecycle = .entrySubmitted) = [] := by
    rw [hs.rows, List.filter_nil]
  refine Triple.bind (rejected_each _ hstale) fun stale => ?_
  refine Keeps.bind (rejected_asking _) fun m => ?_
  refine .bind (Keeps.each fun symbol _ => rejected_recoverPartial symbol) fun partials => ?_
  exact rejected_asking _

end reconcile

section pending

/-- The intent is aborted, and the trade is still open. -/
structure Aborted (id : TradeId) (s : Store) : Prop where
  intents : s.unresolvedIntents = []
  rows : ∀ k row, s.trade k = some row → row.lifecycle.terminal = false → k = id
  row : (s.trade id).isSome

theorem Sole.aborted (h : Sole cfg phase id i s) (error : Option String) :
    ∃ s', s.finishIntent i.intentId .aborted .null .null error = .ok s' ∧ Aborted id s' := by
  have hany : s.intents.any (·.intentId = i.intentId) = true :=
    List.any_eq_true.mpr ⟨i, (Store.intent_mem h.intent).1, by simp⟩
  have hok : s.finishIntent i.intentId .aborted .null .null error = .ok
      (s.tick.updateIntent i.intentId (Intent.finish .aborted .null .null error (s.clock + 1))
        (Intent.finish_intentId _ _ _ _ _)) := by
    rw [Store.finishIntent, if_neg (by decide), if_pos hany]
  refine ⟨_, hok, ?_, ?_, ?_⟩
  · rw [Store.unresolvedIntents_eq_nil]
    intro k j hj
    rw [(Store.finishIntent_ok hok).2.2.2.2] at hj
    split at hj
    · obtain ⟨j', -, rfl⟩ := Option.map_eq_some_iff.mp hj
      rfl
    · next hk =>
      by_contra hunresolved
      have hji := h.eq_of_unresolved hj (by simpa using hunresolved)
      rw [hji] at hj
      exact hk (Store.intent_mem hj).2.symm
  · exact h.rows
  · exact h.row

theorem Aborted.rejected (h : Aborted id s) (pair : Pair) {f : TradeFields}
    (hf : f.lifecycle = some .entryRejected) : Rejected id (s.upsertTrade id pair f) where
  rows := by
    rw [Store.activeTradeRows_eq_nil]
    intro id' row hrow
    rw [Store.upsertTrade_trade] at hrow
    split at hrow
    · obtain rfl := Option.some.inj hrow
      rw [show (TradeRow.set _ f _).lifecycle = f.lifecycle.getD _ from rfl, hf]
      rfl
    · next hne =>
      by_contra hopen
      exact hne (h.rows id' row hrow (by simpa using hopen))
  intents := by
    rw [Store.unresolvedIntents, Store.upsertTrade_intents]
    exact h.intents
  trade := by
    rw [Store.upsertTrade_trade, if_pos rfl, Option.map_some]
    rw [show (TradeRow.set _ f _).lifecycle = f.lifecycle.getD _ from rfl, hf]
    rfl

variable (cfg) in
/-- An intent whose POST has not begun is aborted, and its trade rejected. -/
theorem triple_abortPrepared :
    Triple (Act.exec env) (fun w => Sole cfg .prepared id i w.store) (abortPrepared i)
      (fun _ w => Rejected id w.store) (fun _ w => Rejected id w.store) fun _ => True := by
  refine Triple.assume fun w hw => ?_
  unfold abortPrepared
  have hfinish : Triple (Act.exec env) (fun v => v = w)
      (finish i.intentId .aborted (some "startup proved POST was never begun"))
      (fun _ w => Aborted id w.store) (fun _ w => Rejected id w.store) fun _ => True := by
    obtain ⟨s', hok, haborted⟩ := hw.aborted (some "startup proved POST was never begun")
    rintro v rfl
    refine ⟨trivial, ?_⟩
    simp only [Act.exec, hok]
    exact haborted
  refine Triple.bind hfinish fun _ => ?_
  rw [if_pos hw.operation]
  refine Triple.bind (triple_theStore fun _ _ => trivial) fun s => ?_
  rw [hw.trade]
  refine Triple.assume fun v hv => ?_
  obtain ⟨haborted, rfl⟩ := hv
  obtain ⟨row, hrow⟩ := Option.isSome_iff_exists.mp haborted.row
  rw [hrow]
  rintro v rfl
  have hid := (Store.trade_mem hrow).2
  refine ⟨trivial, ?_⟩
  rw [hid]
  exact haborted.rejected row.pair rfl

theorem triple_resolve_pending :
    Triple (Act.exec env) (fun w => Sole cfg .prepared id i w.store) (resolveOperationIntents cfg)
      (fun _ w => Rejected id w.store) (fun _ w => Rejected id w.store) fun _ => True := by
  refine triple_resolve (fun _ _ => trivial) (fun _ _ => trivial) fun s => ?_
  refine Triple.assume fun w hw => ?_
  obtain ⟨hw, rfl⟩ := hw
  have hresolve : Triple (Act.exec env) (fun v => v = w) (resolveIntent cfg i)
      (fun _ w => Rejected id w.store) (fun _ w => Rejected id w.store) fun _ => True := by
    unfold resolveIntent
    refine Triple.bind (Q := fun _ v => v = w) ?_ fun request => ?_
    · unfold intentRequest
      unfold Prog.ensure
      rw [if_pos hw.request]
      exact fun v hv => hv
    · have hoperation : ¬i.operation = .replaceProtection ∧
          ¬(i.operation = .protection ∧ i.parentIntentId.isSome = true) := by
        rw [hw.operation]
        simp
      rw [if_pos hw.state, if_neg hoperation.1, if_neg hoperation.2]
      have habort : Triple (Act.exec env) (fun v => v = w) (abortPrepared i)
          (fun _ w => Rejected id w.store) (fun _ w => Rejected id w.store) fun _ => True :=
        (triple_abortPrepared cfg).weaken fun v hv => hv ▸ hw
      exact Triple.bind habort fun _ => .pure fun _ hv => hv
  rw [hw.intents]
  refine Triple.bind (Q := fun _ w => Rejected id w.store) ?_ fun answer => ?_
  · exact Triple.attempt hresolve
  · exact Triple.bind (.pure fun _ hv => hv) fun _ => .pure fun _ hv => hv

theorem pending_reconcile :
    Triple (Act.exec env) (fun w => Sole cfg .prepared id i w.store) (verifiedReconcile cfg)
      (fun _ w => Rejected id w.store) (fun _ w => Rejected id w.store) fun _ => True :=
  triple_reconcile (fun _ _ => trivial) triple_resolve_pending

theorem rejected_reconcile :
    Keeps (Act.exec env) (fun w => Rejected id w.store) (verifiedReconcile cfg) :=
  triple_reconcile (fun _ hw => hw) rejected_resolve

end pending

/-- Reconciliations that end, one or more; between two of them the exchange and the clock may do
anything. -/
inductive Reconciled (cfg : Config) (env : Env σ) : World σ → World σ → Prop
  | once {w : World σ} {n : ℕ} {o : Outcome Exc Reconciliation} {w' : World σ}
      (hrun : (verifiedReconcile cfg).run (Act.exec env) n w = (o, w')) (hended : o ≠ .crashed) :
      Reconciled cfg env w w'
  | again {w w' w'' : World σ} {n : ℕ} {o : Outcome Exc Reconciliation} (e : σ)
      (hbefore : Reconciled cfg env w w')
      (hrun : (verifiedReconcile cfg).run (Act.exec env) n { w' with env := e } = (o, w''))
      (hended : o ≠ .crashed) : Reconciled cfg env w w''

/-- What the first reconciliation establishes and every later one keeps. -/
theorem Reconciled.ends {P I : World σ → Prop} {w w' : World σ} (h : Reconciled cfg env w w')
    (hP : Triple (Act.exec env) P (verifiedReconcile cfg) (fun _ => I) (fun _ => I) fun _ => True)
    (hI : Triple (Act.exec env) I (verifiedReconcile cfg) (fun _ => I) (fun _ => I) fun _ => True)
    (henv : ∀ (w : World σ) (e : σ), I w → I { w with env := e }) (hw : P w) : I w' := by
  have hend : ∀ {P : World σ → Prop} {w w' : World σ} {n : ℕ} {o : Outcome Exc Reconciliation},
      Triple (Act.exec env) P (verifiedReconcile cfg) (fun _ => I) (fun _ => I) (fun _ => True) →
      (verifiedReconcile cfg).run (Act.exec env) n w = (o, w') → o ≠ .crashed → P w → I w' := by
    intro P w w' n o htriple hrun hended hw
    have hwp := wp_run (htriple w hw) n
    rw [hrun] at hwp
    cases o with
    | done r => exact hwp
    | raised e => exact hwp
    | crashed => exact absurd rfl hended
  induction h with
  | once hrun hended => exact hend hP hrun hended hw
  | again e hbefore hrun hended ih => exact hend hI hrun hended (henv _ e ih)

theorem Reconciled.rejected {w w' : World σ} (h : Reconciled cfg env w w')
    (hw : Sole cfg .prepared id i w.store) : Rejected id w'.store := by
  refine h.ends pending_reconcile (Triple.conseq rejected_reconcile (fun _ hw => hw)
    (fun _ _ hw => hw) (fun _ _ hw => hw) fun _ _ => trivial) (fun w e hw => hw) hw

section stuck
variable {w : World σ}

/-- The entry of a trade that was new, as its row and the ledger show it. -/
structure Entered (id : TradeId) (i : Intent) (s : Store) : Prop where
  endpoint : i.endpoint.isOrderList = true
  row : ∃ row, s.trade id = some row ∧ Nameless row ∧ row.lifecycle = .entrySubmitted ∧
    row.entryClientOrderId = i.request.workingClientOrderId
  own : ∀ j ∈ s.intents, j.tradeId = id → j.operation = .entry

/-- The entry was marked, and no answer about it came. -/
structure Stuck (cfg : Config) (id : TradeId) (i : Intent) (s : Store) : Prop where
  sole : Sole cfg .submitting id i s
  entered : Entered id i s

/-- An exchange that never saw the order raises when it is asked for it. -/
structure NeverSaw (env : Env σ) (i : Intent) : Prop where
  order : ∀ symbol e, ∃ x, (env.call _ (.getOrder symbol (.clientId
    (i.request.workingClientOrderId.getD ""))) e).1 = .error x
  list : ∀ e, ∃ x, (env.call _ (.getOrderList (.listClientId (i.listClientOrderId.getD ""))) e).1 =
    .error x

variable (env) in
theorem Stuck.fold (h : Stuck cfg id i w.store) {γ : Type} (f : Fold γ) :
    Stuck cfg id i (f.exec env γ w).2.store := by
  have hintents : (f.exec env γ w).2.store.intents = w.store.intents := Fold.exec_intents f w
  have hsame : (f.exec env γ w).2.store.trade id = w.store.trade id := by
    obtain ⟨row, hrow, hnameless, -, -⟩ := h.entered.row
    obtain ⟨events, hfold, hnamed⟩ := Fold.exec_trade env f w id
    rw [hfold, hrow, hnameless.named (hnamed row hrow)]
    rfl
  refine ⟨?_, ?_⟩
  · refine ⟨?_, h.sole.state, h.sole.operation, h.sole.trade, h.sole.request, ?_, ?_⟩
    · rw [Store.unresolvedIntents, hintents]
      exact h.sole.intents
    · intro k row hrow hopen
      obtain ⟨events, hfold, -⟩ := Fold.exec_trade env f w k
      rw [hfold] at hrow
      obtain ⟨old, hold, rfl⟩ := Option.map_eq_some_iff.mp hrow
      refine h.sole.rows k old hold ?_
      by_contra hclosed
      rw [foldEvents_terminal _ _ (by simpa using hclosed)] at hopen
      cases hopen
    · rw [hsame]
      exact h.sole.row
  · refine ⟨h.entered.endpoint, ?_, ?_⟩
    · rw [hsame]
      exact h.entered.row
    · rw [hintents]
      exact h.entered.own

theorem stuck_folding (m : Folding α) :
    Keeps (Act.exec env) (fun w => Stuck cfg id i w.store) (liftM m : Acting α) :=
  Triple.folded (keeps_of_exec (fun f _ hw => hw.fold env f) m)

theorem stuck_asking (m : Asking α) :
    Keeps (Act.exec env) (fun w => Stuck cfg id i w.store) (liftM m : Acting α) :=
  stuck_folding (liftM m)

/-- Questions about the order, which raise. -/
abbrev Raises (cfg : Config) (env : Env σ) (id : TradeId) (i : Intent) (m : Asking α) : Prop :=
  Triple (Ask.exec env) (fun w => Stuck cfg id i w.store) m (fun _ _ => False)
    (fun _ w => Stuck cfg id i w.store) fun w => Stuck cfg id i w.store

theorem raises_call {γ : Type} (c : Call γ) (h : ∀ e, ∃ x, (env.call γ c e).1 = .error x) :
    Raises cfg env id i (call c) := by
  refine Triple.perform (fun _ hw => hw) (fun w a w' hw heq => ?_) fun w e w' hw heq => ?_
  · obtain ⟨x, hx⟩ := h w.env
    have hanswer : (env.call γ c w.env).1 = .ok a := congrArg Prod.fst heq
    rw [hx] at hanswer
    cases hanswer
  · have hstuck := hw.fold env (.ask (.call c))
    rwa [show (Fold.exec env γ (.ask (.call c)) w) = (.error e, w') from heq] at hstuck

theorem raises_getOrder (h : NeverSaw env i) (symbol : Symbol) :
    Raises cfg env id i (getOrder symbol none (i.request.workingClientOrderId.getD "")) := by
  unfold getOrder
  dsimp only
  split
  · exact raises_call _ (h.order symbol)
  · exact fun w hw => hw

theorem raises_getOrderList (h : NeverSaw env i) :
    Raises cfg env id i (getOrderList none (i.listClientOrderId.getD "")) := by
  unfold getOrderList
  dsimp only
  split
  · exact raises_call _ h.list
  · exact fun w hw => hw

theorem raises_lookupEntry (h : NeverSaw env i) {row : TradeRow} (hnameless : Nameless row)
    (hclient : row.entryClientOrderId = i.request.workingClientOrderId) (symbol : Symbol) :
    Raises cfg env id i (lookupEntry row symbol) := by
  unfold lookupEntry
  rw [hnameless.entry, hclient]
  exact Triple.bind (raises_getOrder h symbol) fun _ _ hw => hw.elim

theorem raises_lookupPlaced (h : NeverSaw env i) (hlist : i.endpoint.isOrderList = true) :
    Raises cfg env id i (lookupPlaced i i.symbol) := by
  unfold lookupPlaced
  rw [if_pos hlist]
  exact raises_getOrderList h

/-- The row of the entry, found by any of its lookups. -/
theorem Stuck.row (h : Stuck cfg id i s) {k : TradeId} {row : TradeRow}
    (hrow : s.trade k = some row) (hopen : row.lifecycle.terminal = false) :
    Nameless row ∧ row.entryClientOrderId = i.request.workingClientOrderId ∧
      row.tradeId = id := by
  obtain rfl := h.sole.rows k row hrow hopen
  obtain ⟨row', hrow', hnameless, -, hclient⟩ := h.entered.row
  rw [hrow] at hrow'
  obtain rfl := Option.some.inj hrow'
  exact ⟨hnameless, hclient, (Store.trade_mem hrow).2⟩

/-- The look up of the placement fails, and the intent is left as it is. -/
theorem stuck_resolveIntent (h : NeverSaw env i) :
    Keeps (Act.exec env) (fun w => Stuck cfg id i w.store) (resolveIntent cfg i) := by
  refine Triple.assume fun w hw => ?_
  have hend :
      ∀ {γ : Type} {m : Acting γ}, Keeps (Act.exec env) (fun w => Stuck cfg id i w.store) m →
      Triple (Act.exec env) (fun v => v = w) m (fun _ w => Stuck cfg id i w.store)
        (fun _ w => Stuck cfg id i w.store) fun w => Stuck cfg id i w.store :=
    fun hm => hm.weaken fun v hv => hv ▸ hw
  apply hend
  unfold resolveIntent
  refine .bind (stuck_asking _) fun request => ?_
  have hmarked : ¬i.state = .prepared := by
    rw [hw.sole.state]
    decide
  have hplacement : ¬(i.endpoint = .deleteOrderList ∨ i.endpoint = .deleteOrder) := by
    rintro (hdelete | hdelete)
    all_goals
      have hlist := hw.entered.endpoint
      rw [hdelete] at hlist
      cases hlist
  rw [if_neg hmarked, if_neg hplacement]
  refine .bind ?_ fun _ => .pure
  unfold resolvePlacement
  exact Triple.bind (Triple.asked (raises_lookupPlaced h hw.entered.endpoint))
    fun _ _ hv => hv.elim

/-- The store is read while the entry is stuck. -/
theorem stuck_store : Triple (Act.exec env) (fun w => Stuck cfg id i w.store)
    (liftM theStore : Acting Store) (fun s w => Stuck cfg id i w.store ∧ Stuck cfg id i s)
    (fun _ w => Stuck cfg id i w.store) fun w => Stuck cfg id i w.store :=
  fun _ hw => ⟨hw, hw, hw⟩

theorem stuck_resolve (h : NeverSaw env i) :
    Keeps (Act.exec env) (fun w => Stuck cfg id i w.store) (resolveOperationIntents cfg) := by
  unfold resolveOperationIntents
  refine Triple.bind stuck_store fun s => Triple.assume_eq fun hs => ?_
  rw [hs.sole.intents]
  refine Keeps.bind (Keeps.each fun j hj => ?_) fun answers => ?_
  · obtain rfl := List.mem_singleton.mp hj
    exact .attempt (stuck_resolveIntent h)
  · refine Triple.bind stuck_store fun s' => Triple.assume_eq fun hs' => ?_
    have hplans : (s'.unresolvedIntents.filter fun i =>
        i.state = .prepared && i.operation = .replaceProtection) = [] := by
      rw [hs'.sole.intents]
      simp [hs'.sole.state]
    rw [hplans]
    exact Keeps.bind .pure fun answers' => .bind (stuck_asking _) fun s'' => .pure

/-- The rows that the loops of a reconciliation go over. -/
theorem Stuck.active (h : Stuck cfg id i s) {row : TradeRow} (hrow : row ∈ s.activeTradeRows) :
    Nameless row ∧ row.entryClientOrderId = i.request.workingClientOrderId ∧ row.tradeId = id := by
  obtain ⟨hmem, hopen⟩ := mem_activeTradeRows.mp hrow
  exact h.row (Store.trade_of_mem hmem) hopen

theorem stuck_emergency :
    Keeps (Act.exec env) (fun w => Stuck cfg id i w.store)
      (reconcileConfirmedEmergencyExits cfg) := by
  unfold reconcileConfirmedEmergencyExits
  refine Triple.bind stuck_store fun s => Triple.assume_eq fun hs => ?_
  refine Keeps.bind (Keeps.each fun row hrow => ?_) fun _ => .pure
  have hid := (hs.active hrow).2.2
  unfold reconcileExits
  refine Triple.bind stuck_store fun s' => Triple.assume_eq fun hs' => ?_
  have hnone : (s'.intentsForTrade row.tradeId).filter (fun i =>
      i.operation = .emergencyExit && i.state = .confirmed) = [] := by
    rw [List.filter_eq_nil_iff]
    intro j hj
    obtain ⟨hmem, htrade⟩ := List.mem_filter.mp hj
    have hentry := hs'.entered.own j hmem ((of_decide_eq_true htrade).trans hid)
    simp [hentry]
  dsimp only
  rw [hnone]
  exact Keeps.pure

theorem stuck_controlStaleEntry (h : NeverSaw env i) {row : TradeRow} (hnameless : Nameless row)
    (hclient : row.entryClientOrderId = i.request.workingClientOrderId) :
    Keeps (Act.exec env) (fun w => Stuck cfg id i w.store) (controlStaleEntry cfg row) := by
  have hlate : Keeps (Act.exec env) (fun w => Stuck cfg id i w.store)
      (expireLateEntry cfg row row.pair.symbol) := by
    unfold expireLateEntry
    exact Triple.bind (Triple.asked (raises_lookupEntry h hnameless hclient _))
      fun _ _ hw => hw.elim
  unfold controlStaleEntry
  refine Keeps.bind (Keeps.attempt (.bind (stuck_asking _) fun stale => ?_)) fun result => ?_
  · split
    · unfold expireStaleEntry
      split
      · exact .pure
      · refine .bind (stuck_asking _) fun now => ?_
        split
        · exact .pure
        · exact hlate
    · exact .pure
  · split <;> exact .pure

theorem stuck_recoverPartial (h : NeverSaw env i) (symbol : Symbol) :
    Keeps (Act.exec env) (fun w => Stuck cfg id i w.store) (recoverPartial cfg symbol) := by
  unfold recoverPartial placePartialProtection
  refine Keeps.bind (Keeps.attempt ?_) fun result => ?_
  · refine Triple.bind stuck_store fun s => Triple.assume_eq fun hs => ?_
    cases hfound : s.activeTradeForSymbol symbol with
    | error e => exact fun w hw => hw
    | ok found =>
      cases found with
      | none => exact fun w hw => hw
      | some row =>
        have hactive := hs.active (mem_activeTradeRows.mpr (mem_of_activeTradeForSymbol hfound))
        change Keeps (Act.exec env) (fun w => Stuck cfg id i w.store)
          (liftM (call .activePair) >>= _)
        refine .bind (stuck_asking _) fun active => .bind (stuck_asking _) fun rules => ?_
        exact Triple.bind (Triple.asked (raises_lookupEntry h hactive.1 hactive.2.1 _))
          fun _ _ hw => hw.elim
  · split
    · exact .bind (stuck_asking _) fun _ => .pure
    · exact .pure

/-- Whatever it answers, an exchange that does not know the order settles nothing. -/
theorem stuck_reconcile (h : NeverSaw env i) :
    Keeps (Act.exec env) (fun w => Stuck cfg id i w.store) (verifiedReconcile cfg) := by
  unfold verifiedReconcile
  refine .bind (stuck_resolve h) fun resolution => .bind (stuck_folding _) fun _ => ?_
  refine .bind stuck_emergency fun emergency => ?_
  refine Triple.bind stuck_store fun s => Triple.assume_eq fun hs => ?_
  refine Keeps.bind (Keeps.each fun row hrow => ?_) fun stale => ?_
  · have hactive := hs.active (List.mem_of_mem_filter hrow)
    exact stuck_controlStaleEntry h hactive.1 hactive.2.1
  · refine .bind (stuck_asking _) fun m => ?_
    refine .bind (Keeps.each fun symbol _ => stuck_recoverPartial h symbol) fun partials => ?_
    exact stuck_asking _

theorem Reconciled.stuck (h : NeverSaw env i) {w' : World σ} (hrun : Reconciled cfg env w w')
    (hw : Stuck cfg id i w.store) : Stuck cfg id i w'.store := by
  have hkeep : Triple (Act.exec env) (fun w => Stuck cfg id i w.store) (verifiedReconcile cfg)
      (fun _ w => Stuck cfg id i w.store) (fun _ w => Stuck cfg id i w.store) fun _ => True :=
    Triple.conseq (stuck_reconcile h) (fun _ hw => hw) (fun _ _ hw => hw) (fun _ _ hw => hw)
      fun _ _ => trivial
  exact hrun.ends hkeep hkeep (fun _ _ hw => hw) hw

end stuck

section crash
variable {w v : World σ} {symbol : Symbol} {endpoint : Endpoint} {params : Params}

/-- The gate of `submit` is passed: nothing is unresolved, and no other trade is open. -/
structure Cleared (id : TradeId) (s : Store) : Prop where
  intents : s.unresolvedIntents = []
  rows : ∀ k row, s.trade k = some row → row.lifecycle.terminal = false → k = id

/-- The row says that an entry is being prepared, and the ledger is still as it was. -/
structure Written (id : TradeId) (params : Params) (s s' : Store) : Prop where
  intents : s'.intents = s.intents
  rows : ∀ k row, s'.trade k = some row → row.lifecycle.terminal = false → k = id
  row : ∃ row, s'.trade id = some row ∧ row.lifecycle = .entrySubmitted ∧
    row.entryClientOrderId = params.workingClientOrderId ∧ (Bare s id → Nameless row)

/-- The intent of the entry is in the ledger. -/
structure Begun (cfg : Config) (phase : IntentState) (id : TradeId) (i : Intent) (s s' : Store) :
    Prop where
  sole : Sole cfg phase id i s'
  entered : Bare s id → Entered id i s'

theorem Cleared.written (h : Cleared id s) (pair : Pair) {f : TradeFields}
    (hlifecycle : f.lifecycle = some .entrySubmitted)
    (hclient : f.entryClientOrderId = some params.workingClientOrderId) (hf : Anonymous f) :
    Written id params s (s.upsertTrade id pair f) where
  intents := s.upsertTrade_intents id pair f
  rows k row hrow hopen := by
    rw [Store.upsertTrade_trade] at hrow
    split at hrow
    · next hk => exact hk
    · exact h.rows k row hrow hopen
  row := by
    refine ⟨_, (s.upsertTrade_trade id pair f id).trans (if_pos rfl), ?_, ?_, fun hbare => ?_⟩
    · rw [TradeRow.set, hlifecycle]
      rfl
    · rw [TradeRow.set, hclient]
      rfl
    · refine Nameless.set ?_ hf _
      cases hr : s.trade id with
      | none => exact ⟨rfl, rfl, rfl, rfl⟩
      | some old => exact hbare.row old hr

/-- A new entry is prepared. -/
theorem Written.begun {s₀ s s' : Store} (h : Written id params s₀ s)
    (hclear : s₀.unresolvedIntents = []) (hlist : endpoint.isOrderList = true)
    (hprepare : s.prepareIntent (submissionDraft cfg .entry id symbol endpoint params none) =
      .ok (true, s')) : ∃ i, Begun cfg .prepared id i s₀ s' ∧
        i.intentId = (submissionDraft cfg .entry id symbol endpoint params none).intentId := by
  rcases Store.prepareIntent_cases hprepare with ⟨hfalse, -⟩ | ⟨-, hnew, htrades, -, -, hintent⟩
  · cases hfalse
  · let i := (submissionDraft cfg .entry id symbol endpoint params none).row (s.clock + 1)
    have hnone : s.unresolvedIntents = [] := by
      rw [Store.unresolvedIntents, h.intents]
      exact hclear
    have hlookup : ∀ k, s'.intent k = if k = i.intentId then some i else s.intent k := by
      intro k
      have hparent :
          ¬(submissionDraft cfg .entry id symbol endpoint params none).closeParentIntentId =
          some k := fun h => by cases h
      rw [hintent]
      simp only [hparent, if_false, Option.map_id']
      rfl
    have htrade : ∀ k, s'.trade k = s.trade k := fun k => by rw [Store.trade, htrades]; rfl
    refine ⟨i, ⟨⟨?_, rfl, rfl, rfl, rfl, ?_, ?_⟩, fun hbare => ⟨hlist, ?_, ?_⟩⟩, rfl⟩
    · refine Store.unresolvedIntents_eq_singleton ?_ rfl fun k j hj hunresolved => ?_
      · rw [hlookup, if_pos rfl]
      · rw [hlookup] at hj
        split at hj
        · exact (Option.some.inj hj).symm
        · rw [Store.unresolvedIntents_eq_nil.mp hnone k j hj] at hunresolved
          cases hunresolved
    · intro k row hrow hopen
      rw [htrade] at hrow
      exact h.rows k row hrow hopen
    · obtain ⟨row, hrow, -⟩ := h.row
      rw [htrade, hrow]
      rfl
    · obtain ⟨row, hrow, hlifecycle, hclient, hnameless⟩ := h.row
      exact ⟨row, (htrade id).trans hrow, hnameless hbare, hlifecycle, hclient⟩
    · intro j hj hid
      have hj' := Store.intent_of_mem hj
      rw [hlookup] at hj'
      split at hj'
      · rw [← Option.some.inj hj']
        rfl
      · have hold := (Store.intent_mem hj').1
        rw [h.intents] at hold
        exact absurd hid (hbare.intents j hold)

/-- The entry is marked. -/
theorem Begun.marked {s₀ s s' : Store} (h : Begun cfg .prepared id i s₀ s)
    (hmark : s.markIntentSubmitting i.intentId = .ok s') :
    ∃ i, Begun cfg .submitting id i s₀ s' := by
  obtain ⟨-, htrades, -, -, hintent⟩ := Store.markIntentSubmitting_ok hmark
  have htrade : ∀ k, s'.trade k = s.trade k := fun k => by rw [Store.trade, htrades]; rfl
  have hi := h.sole.intent
  have hmarked : i.marked (s.clock + 1) =
      { i with state := .submitting, updatedAt := s.clock + 1 } := if_pos h.sole.state
  refine ⟨{ i with state := .submitting, updatedAt := s.clock + 1 },
    ⟨?_, rfl, h.sole.operation, h.sole.trade, h.sole.request, ?_, ?_⟩,
    fun hbare => ⟨(h.entered hbare).endpoint, ?_, ?_⟩⟩
  · refine Store.unresolvedIntents_eq_singleton ?_ rfl fun k j hj hunresolved => ?_
    · rw [hintent, if_pos rfl, hi, Option.map_some, hmarked]
    · rw [hintent] at hj
      split at hj
      · next hk =>
        rw [hk, hi, Option.map_some, hmarked] at hj
        exact (Option.some.inj hj).symm
      · next hk =>
        have hji := h.sole.eq_of_unresolved hj hunresolved
        rw [hji] at hj
        exact absurd (Store.intent_mem hj).2.symm hk
  · intro k row hrow hopen
    rw [htrade] at hrow
    exact h.sole.rows k row hrow hopen
  · rw [htrade]
    exact h.sole.row
  · obtain ⟨row, hrow, hrest⟩ := (h.entered hbare).row
    exact ⟨row, (htrade id).trans hrow, hrest⟩
  · intro j hj hid
    have hj' := Store.intent_of_mem hj
    rw [hintent] at hj'
    split at hj'
    · next hk =>
      rw [hk, hi, Option.map_some, hmarked] at hj'
      rw [← Option.some.inj hj']
      exact h.sole.operation
    · exact (h.entered hbare).own j (Store.intent_mem hj').1 hid

/-- A request was made. -/
def Sent (w v : World σ) : Prop :=
  (requests w.history).length < (requests v.history).length

/-- Where a submission may stand while it has made no request. -/
def Unsent (cfg : Config) (id : TradeId) (w v : World σ) : Prop :=
  requests v.history = requests w.history →
    v.store.intents = w.store.intents ∨
      ∃ i phase, (phase = .prepared ∨ phase = .submitting) ∧ Begun cfg phase id i w.store v.store

theorem Sent.unsent (h : Sent w v) : Unsent cfg id w v := by
  intro hsame
  rw [Sent, hsame] at h
  exact absurd h (lt_irrefl _)

theorem sent_exec (h : Sent w v) {γ : Type} (a : Act γ) : Sent w (a.exec env γ v).2 := by
  refine lt_of_lt_of_le h (List.Sublist.length_le ?_)
  exact (Act.exec_suffix env a v).sublist.filterMap _

theorem keeps_sent (m : Acting α) : Triple (Act.exec env) (Sent w) m (fun _ => Sent w)
    (fun _ _ => True) (Unsent cfg id w) :=
  (keeps_of_exec (fun a _ hv => sent_exec hv a) m).conseq (fun _ hv => hv) (fun _ _ hv => hv)
    (fun _ _ _ => trivial) fun _ hv => hv.unsent

theorem Begun.unsent {i : Intent} (hphase : phase = .prepared ∨ phase = .submitting)
    (h : Begun cfg phase id i w.store v.store) : Unsent cfg id w v :=
  fun _ => .inr ⟨i, phase, hphase, h⟩

/-- The entry is marked, and no request was made yet. -/
theorem triple_markSubmitting_unsent {k : IntentId} :
    Triple (Act.exec env)
      (fun v => requests v.history = requests w.history ∧
        ∃ i, Begun cfg .prepared id i w.store v.store ∧ i.intentId = k)
      (markSubmitting k)
      (fun _ v => requests v.history = requests w.history ∧
        ∃ i, Begun cfg .submitting id i w.store v.store)
      (fun _ _ => True) (Unsent cfg id w) := by
  refine Triple.perform (fun v hv => ?_) (fun v a v' hv heq => ?_) fun _ _ _ _ _ => trivial
  · obtain ⟨-, i, hi, -⟩ := hv
    exact hi.unsent (.inl rfl)
  · obtain ⟨hsame, i, hi, rfl⟩ := hv
    simp only [Act.exec] at heq
    split at heq
    · next s' hmark =>
      obtain ⟨-, rfl⟩ := Prod.mk.inj heq
      refine ⟨?_, hi.marked hmark⟩
      exact (requests_note v fun p r h => by cases h).trans hsame
    · cases (Prod.mk.inj heq).1

/-- The POST is the request. -/
theorem triple_post_sent (p : Post) :
    Triple (Act.exec env)
      (fun v => requests v.history = requests w.history ∧
        ∃ i, Begun cfg .submitting id i w.store v.store)
      (post p).attempt (fun _ => Sent w) (fun _ _ => True) (Unsent cfg id w) := by
  have hsent : ∀ v : World σ, requests v.history = requests w.history →
      Sent w ((Act.post p).exec env Reply v).2 := by
    intro v hsame
    change (requests w.history).length < (p :: requests v.history).length
    rw [hsame]
    exact Nat.lt_succ_self _
  refine Triple.attempt (Triple.perform (fun v hv => ?_) (fun v a v' hv heq => ?_)
    fun v a v' hv heq => ?_)
  · obtain ⟨-, i, hi⟩ := hv
    exact hi.unsent (.inr rfl)
  · have h := hsent v hv.1
    rwa [heq] at h
  · have h := hsent v hv.1
    rwa [heq] at h

theorem triple_prepare_unsent (hclear : w.store.unresolvedIntents = [])
    (hlist : endpoint.isOrderList = true) :
    Triple (Act.exec env)
      (fun v => Written id params w.store v.store ∧ requests v.history = requests w.history)
      (prepare (submissionDraft cfg .entry id symbol endpoint params none))
      (fun isNew v => if isNew = true then requests v.history = requests w.history ∧
          ∃ i, Begun cfg .prepared id i w.store v.store ∧
            i.intentId = (submissionDraft cfg .entry id symbol endpoint params none).intentId
        else v.store.intents = w.store.intents)
      (fun _ _ => True) (Unsent cfg id w) := by
  refine Triple.perform (fun v hv _ => .inl hv.1.intents) (fun v isNew v' hv heq => ?_)
    fun _ _ _ _ _ => trivial
  simp only [Act.exec] at heq
  split at heq
  · next b s' hprepare =>
    obtain ⟨hb, rfl⟩ := Prod.mk.inj heq
    obtain rfl := Except.ok.inj hb
    cases b with
    | true => exact ⟨hv.2, hv.1.begun hclear hlist hprepare⟩
    | false =>
      rcases Store.prepareIntent_cases hprepare with ⟨-, rfl, -⟩ | ⟨htrue, -⟩
      · exact hv.1.intents
      · cases htrue
  · cases (Prod.mk.inj heq).1

theorem triple_submitOnce_unsent (hclear : w.store.unresolvedIntents = [])
    (hlist : endpoint.isOrderList = true) :
    Triple (Act.exec env)
      (fun v => Written id params w.store v.store ∧ requests v.history = requests w.history)
      (submitOnce cfg .entry id symbol endpoint params none)
      (fun r v => Sent w v ∨ v.store.intents = w.store.intents ∧ r.response = none)
      (fun _ _ => True) (Unsent cfg id w) := by
  unfold submitOnce
  refine Triple.bind (triple_prepare_unsent hclear hlist) fun isNew => ?_
  cases isNew with
  | true =>
    refine Triple.bind triple_markSubmitting_unsent fun _ => ?_
    refine Triple.bind (triple_post_sent _) fun answer => ?_
    exact (keeps_sent _).post fun _ _ hv => .inl hv
  | false =>
    refine Triple.bind (triple_theStore fun v hv _ => .inl hv) fun s => ?_
    cases s.intent (submissionDraft cfg .entry id symbol endpoint params none).intentId with
    | some prior => exact .pure fun v hv => .inr ⟨hv.1, rfl⟩
    | none => exact .raise fun _ _ => trivial

/-- Nothing was written yet. -/
structure Untouched (w v : World σ) : Prop where
  trades : v.store.trades = w.store.trades
  intents : v.store.intents = w.store.intents
  requests : requests v.history = requests w.history

theorem untouched_asking (m : Asking α) :
    Triple (Act.exec env) (Untouched w) (liftM m : Acting α) (fun _ => Untouched w)
      (fun _ _ => True) (Unsent cfg id w) := by
  have hask : Keeps (Ask.exec env) (Untouched w) m := by
    refine keeps_of_exec (fun a v hv => ?_) m
    obtain ⟨htrades, hintents, -⟩ := Ask.exec_cases env a v
    exact ⟨htrades.trans hv.trades, hintents.trans hv.intents,
      (Ask.exec_requests env a v).trans hv.requests⟩
  exact (Triple.asked hask).conseq (fun _ hv => hv) (fun _ _ hv => hv) (fun _ _ _ => trivial)
    fun _ hv _ => .inl hv.intents

theorem Cleared.of_untouched (h : Cleared id w.store) (hv : Untouched w v) :
    Cleared id v.store where
  intents := (congrArg (List.filter _) hv.intents).trans h.intents
  rows k row hrow hopen := by
    rw [Store.trade, hv.trades] at hrow
    exact h.rows k row hrow hopen

theorem Bare.of_untouched (h : Bare w.store id) (hv : Untouched w v) : Bare v.store id where
  row row hrow := by
    rw [Store.trade, hv.trades] at hrow
    exact h.row row hrow
  intents i hi := by
    rw [hv.intents] at hi
    exact h.intents i hi

theorem Written.of_untouched {s' : Store} (h : Written id params v.store s') (hv : Untouched w v) :
    Written id params w.store s' where
  intents := h.intents.trans hv.intents
  rows := h.rows
  row := by
    obtain ⟨row, hrow, hlifecycle, hclient, hnameless⟩ := h.row
    exact ⟨row, hrow, hlifecycle, hclient, fun hbare => hnameless (hbare.of_untouched hv)⟩

/-- What follows an entry without an answer leaves the ledger alone. -/
theorem triple_upsert_unsent (k : TradeId) (pair : Pair) (f : TradeFields) :
    Triple (Act.exec env) (fun v => Sent w v ∨ v.store.intents = w.store.intents) (upsert k pair f)
      (fun _ _ => True) (fun _ _ => True) (Unsent cfg id w) := by
  refine Triple.perform (fun v hv => ?_) (fun _ _ _ _ _ => trivial) fun _ _ _ _ _ => trivial
  rcases hv with hv | hv
  · exact hv.unsent
  · exact fun _ => .inl hv

theorem triple_submitEntry_unsent (hclear : Cleared id w.store) (pair : Pair)
    (hlist : endpoint.isOrderList = true) :
    Triple (Act.exec env) (Untouched w) (submitEntry cfg id symbol pair endpoint params)
      (fun _ _ => True) (fun _ _ => True) (Unsent cfg id w) := by
  unfold submitEntry
  refine Triple.bind (untouched_asking _) fun now => Triple.bind (untouched_asking _) fun s => ?_
  refine Triple.bind (Q := fun _ v => Written id params w.store v.store ∧
    requests v.history = requests w.history) ?_ fun _ => ?_
  · refine Triple.perform (fun v hv _ => .inl hv.intents) (fun v _ v' hv heq => ?_)
      fun _ _ _ _ _ => trivial
    obtain ⟨-, rfl⟩ := Prod.mk.inj heq
    refine ⟨((hclear.of_untouched hv).written pair rfl rfl
      ⟨rfl, rfl, rfl, rfl⟩).of_untouched hv, ?_⟩
    exact (requests_note v fun p r h => by cases h).trans hv.requests
  · refine Triple.bind (triple_submitOnce_unsent hclear.intents hlist) fun submitted => ?_
    have hupsert : ∀ (f : TradeFields) (r : Verdict), Triple (Act.exec env)
        (fun v => Sent w v ∨ v.store.intents = w.store.intents ∧ submitted.response = none)
        (upsert id pair f >>= fun _ => Pure.pure r) (fun _ _ => True) (fun _ _ => True)
        (Unsent cfg id w) := by
      intro f r
      refine Triple.bind ((triple_upsert_unsent id pair f).weaken fun v hv => ?_)
        fun _ => .pure fun _ _ => trivial
      exact hv.imp_right And.left
    split
    · exact hupsert _ _
    · next response hresponse =>
      refine Triple.weaken (R := Sent w) ?_ fun v hv => ?_
      · exact Triple.conseq (keeps_sent _) (fun _ hv => hv) (fun _ _ _ => trivial)
          (fun _ _ _ => trivial) fun _ hv => hv
      · refine hv.resolve_right fun hnone => ?_
        rw [hnone.2] at hresponse
        cases hresponse
    · exact .raise fun _ _ => trivial
    · exact hupsert _ _

/-- An entry is placed as a list. -/
theorem triple_planEntry_list (pair : Pair) :
    Triple (Ask.exec env) (fun _ => True) (planEntry cfg symbol pair)
      (fun plan _ => ∀ r, plan = .ok r → r.1.isOrderList = true) (fun _ _ => True)
      fun _ => True :=
  triple_planEntry_built (F := fun r => r.1.isOrderList = true)
    (fun mode _ _ _ _ _ => by cases mode <;> rfl) _ _

theorem cleared_of_gate {s : Store} (htrades : s.trades = w.store.trades)
    (hintents : s.intents = w.store.intents)
    (hrows : ¬(s.activeTradeRows.any (·.tradeId ≠ id)) = true)
    (hresolved : ¬(!s.unresolvedIntents.isEmpty) = true) : Cleared id w.store where
  intents := by
    have hnone : s.unresolvedIntents = [] := by simpa using hresolved
    rwa [Store.unresolvedIntents, hintents] at hnone
  rows k row hrow hopen := by
    rw [Store.trade, ← htrades] at hrow
    by_contra hne
    have hrow' : s.trade k = some row := hrow
    refine hrows (List.any_eq_true.mpr ⟨row, mem_activeTradeRows.mpr
      ⟨(Store.trade_mem hrow').1, hopen⟩, ?_⟩)
    rw [(Store.trade_mem hrow').2]
    simpa using hne

theorem triple_submit_unsent :
    Triple (Act.exec env) (fun v => v = w) (submit cfg symbol id) (fun _ _ => True)
      (fun _ _ => True) (Unsent cfg id w) := by
  have hask : ∀ {β : Type} (m : Asking β), Triple (Act.exec env) (Untouched w) (liftM m : Acting β)
      (fun _ => Untouched w) (fun _ _ => True) (Unsent cfg id w) := fun m => untouched_asking m
  have hstore : Triple (Act.exec env) (Untouched w) (liftM theStore : Acting Store)
      (fun s v => Untouched w v ∧ s.trades = w.store.trades ∧ s.intents = w.store.intents)
      (fun _ _ => True) (Unsent cfg id w) :=
    fun v hv => ⟨fun _ => .inl hv.intents, hv, hv.trades, hv.intents⟩
  have hpure : ∀ (r : Verdict), Triple (Act.exec env) (Untouched w) (Pure.pure r : Acting Verdict)
      (fun _ _ => True) (fun _ _ => True) (Unsent cfg id w) := fun _ => .pure fun _ _ => trivial
  refine Triple.weaken (R := Untouched w) ?_ fun v hv => hv ▸ ⟨rfl, rfl, rfl⟩
  unfold submit
  refine Triple.bind (hask _) fun m => Triple.bind (hask _) fun s => ?_
  split
  · exact hpure _
  · refine Triple.bind (hask _) fun active => ?_
    split
    · exact hpure _
    · split
      · exact hpure _
      · refine Triple.bind hstore fun s => Triple.assume_eq fun hs => ?_
        split
        · exact hpure _
        · next hrows =>
          split
          · exact hpure _
          · next hintents =>
            have hclear : Cleared id w.store := cleared_of_gate hs.1 hs.2 hrows hintents
            have hplan : Triple (Act.exec env) (Untouched w)
                (liftM (planEntry cfg symbol active) : Acting (Except String (Endpoint × Params)))
                (fun plan v => Untouched w v ∧ ∀ r, plan = .ok r → r.1.isOrderList = true)
                (fun _ _ => True) (Unsent cfg id w) :=
              ((hask _).and (Triple.asked (triple_planEntry_list active))).conseq
                (fun _ hv => ⟨hv, trivial⟩) (fun _ _ hv => hv) (fun _ _ _ => trivial)
                fun _ hv => hv.1
            refine Triple.bind hplan fun plan => Triple.assume_eq fun hlist => ?_
            cases plan with
            | error detail => exact hpure _
            | ok request => exact triple_submitEntry_unsent hclear active (hlist _ rfl)

end crash

/-- A submission that died after it had prepared its entry and before any request. If the entry was
not marked yet, recovery closes the trade. If it was, and the exchange never saw the order, it stays
unresolved. -/
theorem submit_recovered (cfg : Config) (env : Env σ) (symbol : Symbol) (id : TradeId)
    (w w₁ : World σ) (n : ℕ)
    (hcrashed : (submit cfg symbol id).run (Act.exec env) n w = (.crashed, w₁))
    (hunsent : requests w₁.history = requests w.history)
    (hprepared : w₁.store.intents ≠ w.store.intents) :
    ∃ i, w₁.store.unresolvedIntents = [i] ∧
      (i.state = .prepared ∧ (∀ e w₂, Reconciled cfg env { w₁.restart with env := e } w₂ →
          (w₂.store.trade id).map (·.lifecycle) = some .entryRejected ∧
            w₂.store.unresolvedIntents = []) ∨
        i.state = .submitting ∧ (Bare w.store id → NeverSaw env i →
          ∀ e w₂, Reconciled cfg env { w₁.restart with env := e } w₂ →
          (w₂.store.trade id).map (·.lifecycle) = some .entrySubmitted ∧
            w₂.store.unresolvedIntents = [i])) := by
  have hcrash : Unsent cfg id w w₁ := by
    have htriple : Triple (Act.exec env) (fun v => v = w) (submit cfg symbol id) (fun _ _ => True)
        (fun _ _ => True) (Unsent cfg id w) := triple_submit_unsent
    have hwp := wp_run (htriple w rfl) n
    rwa [hcrashed] at hwp
  obtain ⟨i, phase, hphase, hbegun⟩ := (hcrash hunsent).resolve_left hprepared
  refine ⟨i, hbegun.sole.intents, ?_⟩
  rcases hphase with rfl | rfl
  · refine .inl ⟨hbegun.sole.state, fun e w₂ hrun => ?_⟩
    have hrejected : Rejected id w₂.store := hrun.rejected hbegun.sole
    exact ⟨hrejected.trade, hrejected.intents⟩
  · refine .inr ⟨hbegun.sole.state, fun hbare hnever e w₂ hrun => ?_⟩
    have hstuck : Stuck cfg id i w₂.store :=
      hrun.stuck hnever ⟨hbegun.sole, hbegun.entered hbare⟩
    obtain ⟨row, hrow, -, hlifecycle, -⟩ := hstuck.entered.row
    exact ⟨by rw [hrow, Option.map_some, hlifecycle], hstuck.sole.intents⟩

/-- The process dies between the two writes to the ledger. -/
theorem submit_recovered_prepared :
    let armed := runSteps Desk.config Desk.env {} (Desk.opening.take 3)
    let died := (submit Desk.config "BTCUSDT" "t1").run (Act.exec Desk.env) 17 armed
    died.1 = .crashed ∧ ∃ w₂, Reconciled Desk.config Desk.env died.2.restart w₂ ∧
      (w₂.store.trade "t1").map (·.lifecycle) = some .entryRejected ∧
        w₂.store.unresolvedIntents = [] := by
  intro armed died
  have hcrashed : died.1 = .crashed := by decide +kernel
  have hintents : died.2.store.intents.length ≠ armed.store.intents.length := by decide +kernel
  have hrun : Reconciled Desk.config Desk.env died.2.restart
      ((verifiedReconcile Desk.config).run (Act.exec Desk.env) 10000 died.2.restart).2 :=
    .once (n := 10000) (o := ((verifiedReconcile Desk.config).run (Act.exec Desk.env) 10000
      died.2.restart).1) rfl fun h => by
        have hdone : ((verifiedReconcile Desk.config).run (Act.exec Desk.env) 10000
          died.2.restart).1.isDone = true := by decide +kernel
        rw [h] at hdone
        cases hdone
  obtain ⟨i, hi, ⟨-, hend⟩ | ⟨hstate, -⟩⟩ := submit_recovered Desk.config Desk.env "BTCUSDT" "t1"
    armed died.2 17 (Prod.ext hcrashed rfl) (by decide +kernel)
    fun h => hintents (congrArg List.length h)
  · exact ⟨hcrashed, _, hrun, hend died.2.restart.env _ hrun⟩
  · have hprepared : died.2.store.unresolvedIntents.map (·.state) = [.prepared] := by
      decide +kernel
    rw [hi, List.map_singleton, hstate] at hprepared
    cases hprepared

/-- The process dies after the mark: the exchange never saw the order, and recovery leaves the trade
open and its intent unresolved. -/
theorem submit_recovered_fails :
    let armed := runSteps Desk.config Desk.env {} (Desk.opening.take 3)
    let died := (submit Desk.config "BTCUSDT" "t1").run (Act.exec Desk.env) 18 armed
    let recovered := (verifiedReconcile Desk.config).run (Act.exec Desk.env) 10000 died.2.restart
    died.1 = .crashed ∧ requests died.2.history = requests armed.history ∧
      recovered.1.isDone = true ∧
      ¬((recovered.2.store.trade "t1").map (·.lifecycle) = some .entryRejected ∧
        recovered.2.store.unresolvedIntents = []) := by
  decide +kernel

end SpotSidecar
