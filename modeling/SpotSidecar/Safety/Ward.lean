import SpotSidecar.Safety.Answers
import SpotSidecar.Safety.Gate

/-! The walk through the operations that place and cancel orders, trade by trade: each writes
only of trades that it has read as open. -/
namespace SpotSidecar
open Interaction Prog
variable {σ α β γ : Type} {cfg : Config} {env : Env σ}

/-- A confirmed submission has its intent in the ledger. -/
theorem triple_submitOnce_holds {N : TradeId → Prop} (operation : Operation) {tradeId : TradeId}
    (hid : N tradeId) (symbol : Symbol) (endpoint : Endpoint) (params : Params)
    (parent : Option IntentId) :
    Triple (Act.exec env) (fun _ => True)
      (submitOnce cfg operation tradeId symbol endpoint params parent)
      (fun submitted w => submitted.state = .confirmed → submitted.response.isSome = true →
        w.store.Holds N submitted.intentId) (fun _ _ => True) (fun _ => True) := by
  refine (triple_submitOnce operation tradeId symbol endpoint params parent).post ?_
  rintro submitted w ⟨hintent, hconfirmed⟩ hstate hsome
  obtain ⟨r, hr⟩ := Option.isSome_iff_exists.mp hsome
  obtain ⟨⟨i, hi, hd⟩, -⟩ := hconfirmed hstate r hr
  have hkey : i.intentId = submitted.intentId :=
    (congrArg IntentDraft.intentId hd).trans hintent.symm
  have htrade : i.tradeId = tradeId := congrArg IntentDraft.tradeId hd
  exact ⟨i, hkey ▸ Store.intent_of_mem hi, htrade ▸ hid⟩

namespace Ward
variable {N : TradeId → Prop} {J : World σ → Prop} (h : Ward env N J)
include h

theorem act (a : Act γ) (ha : a.calm) (hin : ∀ w, J w → a.within N w.store) :
    Keeps (Act.exec env) J (.perform a : Acting γ) :=
  .perform fun w hw => h.exec a w ha (hin w hw) hw

theorem upsert {id : TradeId} (hid : N id) (pair : Pair) (f : TradeFields) :
    Keeps (Act.exec env) J (upsert id pair f) :=
  h.act _ trivial fun _ _ => hid

theorem post (p : Post) : Keeps (Act.exec env) J (post p) := h.act _ trivial fun _ _ => trivial

/-- What the ledger once holds it goes on to hold. -/
theorem holding (id : IntentId) : Ward env N (fun w => J w ∧ w.store.Holds N id) where
  exec a w ha hin hw := ⟨h.exec a w ha hin hw.1, hw.2.mono (Act.exec_ledgerLe a w)⟩
  memory m w hm hw := ⟨h.memory m w hm hw.1, hw.2⟩
  data d w hd hw := ⟨h.data d w hd hw.1, hw.2⟩
  mark id' i w hi hne hN hw :=
    ⟨h.mark id' i w hi hne hN hw.1, hw.2.mono (Act.exec_ledgerLe (.markIntentSubmitting id') w)⟩
  parented w hw := h.parented w hw.1
  row w hw := h.row w hw.1
  intent w hw := h.intent w hw.1

theorem finish (id : IntentId) (state : IntentState) (error : Option String) :
    Keeps (Act.exec env) (fun w => J w ∧ w.store.Holds N id) (finish id state error) :=
  (h.holding id).act _ trivial fun _ hw => hw.2

theorem finishWith (id : IntentId) (state : IntentState) (r : Response) (error : Option String) :
    Keeps (Act.exec env) (fun w => J w ∧ w.store.Holds N id) (finishWith id state r error) :=
  (h.holding id).act _ trivial fun _ hw => hw.2

/-- A new intent that is no entry is in the ledger as one. -/
theorem prepare (d : IntentDraft) (hd : d.operation ≠ .entry) (hN : N d.tradeId) :
    Triple (Act.exec env) J (prepare d)
      (fun isNew w => J w ∧ (isNew = true → ∃ i, w.store.intent d.intentId = some i ∧
        i.operation ≠ .entry ∧ N i.tradeId))
      (fun _ => J) J := by
  have hkeep := fun w hw => h.exec (.prepareIntent d) w hd hN hw
  refine Triple.perform (fun w hw => hw) (fun w b w' hw heq => ?_) fun w e w' hw heq => ?_
  · have hJ := hkeep w hw
    rw [heq] at hJ
    refine ⟨hJ, fun hb => ?_⟩
    subst hb
    simp only [Act.exec] at heq
    split at heq
    · next hok =>
      cases heq
      obtain ⟨i, hi, hdraft⟩ := (Store.prepareIntent_new hok).2
      have hop : i.operation = d.operation := congrArg IntentDraft.operation hdraft
      have hid : i.tradeId = d.tradeId := congrArg IntentDraft.tradeId hdraft
      exact ⟨i, hi, hop ▸ hd, hid ▸ hN⟩
    · cases heq
  · have hJ := hkeep w hw
    rwa [heq] at hJ

/-- The mark of an intent that is no entry. -/
theorem markSubmitting (id : IntentId) : Triple (Act.exec env)
    (fun w => J w ∧ ∃ i, w.store.intent id = some i ∧ i.operation ≠ .entry ∧ N i.tradeId)
    (markSubmitting id) (fun _ w => J w ∧ w.store.Holds N id) (fun _ => J) J := by
  have hmarked : Triple (Act.exec env)
      (fun w => J w ∧ ∃ i, w.store.intent id = some i ∧ i.operation ≠ .entry ∧ N i.tradeId)
      (SpotSidecar.markSubmitting id) (fun _ => J) (fun _ => J) J :=
    .perform_same (fun _ hw => hw.1) fun w ⟨hw, i, hi, hne, hN⟩ => h.mark id i w hi hne hN hw
  refine (hmarked.and (keeps_holds N id _)).conseq ?_ ?_ ?_ ?_
  · rintro w ⟨hw, i, hi, hne, hN⟩
    exact ⟨⟨hw, i, hi, hne, hN⟩, i, hi, hN⟩
  · exact fun _ w hw => hw
  · exact fun _ w hw => hw.1
  · exact fun w hw => hw.1

theorem pausing (reason : String) :
    Keeps (Act.exec env) J (liftM (SpotSidecar.pause reason) : Acting Unit) :=
  Keeps.asked (h.pause reason)

theorem concludeSubmission (endpoint : Endpoint) (symbol : Symbol) (params : Params)
    (id : IntentId) (answer : Response) :
    Keeps (Act.exec env) (fun w => J w ∧ w.store.Holds N id)
      (concludeSubmission endpoint symbol params id answer) := by
  unfold SpotSidecar.concludeSubmission
  refine .bind ((h.holding id).quiet (.identifiedAnswer _ _ _ _)) fun response => ?_
  split
  · exact .bind (h.finishWith _ _ _ _) fun _ => .pure
  · exact .bind (h.finish _ _ _) fun _ => .bind ((h.holding id).pausing _) fun _ => .pure

theorem recoverSubmission (endpoint : Endpoint) (symbol : Symbol) (params : Params)
    (id : IntentId) (e : Exc) :
    Keeps (Act.exec env) (fun w => J w ∧ w.store.Holds N id)
      (recoverSubmission cfg endpoint symbol params id e) := by
  unfold SpotSidecar.recoverSubmission
  refine .bind ((h.holding id).quiet (.lookup _ _ _)) fun found => ?_
  split
  · exact h.concludeSubmission _ _ _ _ _
  · dsimp only
    split
    · exact .bind (h.finish _ _ _) fun _ => .pure
    · exact .bind (h.finish _ _ _) fun _ => .bind ((h.holding id).pausing _) fun _ => .pure

/-- A submission, by what its preparation and its mark need. -/
theorem submission {K : World σ → Prop} {operation : Operation} {tradeId : TradeId}
    (hid : N tradeId) {symbol : Symbol} {endpoint : Endpoint} {params : Params}
    {parent : Option IntentId}
    (hprepare : Triple (Act.exec env) J
      (SpotSidecar.prepare (submissionDraft cfg operation tradeId symbol endpoint params parent))
      (fun isNew w => J w ∧ (isNew = true → K w)) (fun _ => J) J)
    (hmark : ∀ id, id =
      (submissionDraft cfg operation tradeId symbol endpoint params parent).intentId →
      Triple (Act.exec env) (fun w => J w ∧ K w) (SpotSidecar.markSubmitting id)
        (fun _ w => J w ∧ w.store.Holds N id) (fun _ => J) J) :
    Triple (Act.exec env) J (submitOnce cfg operation tradeId symbol endpoint params parent)
      (fun submitted w => J w ∧ (submitted.state = .confirmed → submitted.response.isSome = true →
        w.store.Holds N submitted.intentId)) (fun _ => J) J := by
  have hkeep : Keeps (Act.exec env) J
      (SpotSidecar.submitOnce cfg operation tradeId symbol endpoint params parent) := by
    unfold SpotSidecar.submitOnce
    refine Triple.bind hprepare fun isNew => ?_
    split
    · next hnew =>
      refine Triple.bind ((hmark _ rfl).weaken fun w hw => ⟨hw.1, hw.2 hnew⟩) fun _ => ?_
      refine Keeps.within ?_ (fun _ hw => hw) fun _ hw => hw.1
      refine .bind (.attempt ((h.holding _).post _)) fun answer => ?_
      split
      · refine .bind ((h.holding _).quiet (.asObject _)) fun response => ?_
        exact h.concludeSubmission _ _ _ _ _
      · exact h.recoverSubmission _ _ _ _ _
    · refine Keeps.weaken ?_ fun w hw => hw.1
      refine .bind (h.quiet .theStore) fun s => ?_
      split
      · exact .pure
      · exact .raise
  refine (hkeep.and (triple_submitOnce_holds operation hid symbol endpoint params parent)).conseq
    ?_ ?_ ?_ ?_
  · exact fun _ hw => ⟨hw, trivial⟩
  · exact fun _ _ hw => hw
  · exact fun _ _ hw => hw.1
  · exact fun _ hw => hw.1

/-- A submission that is no entry. -/
theorem submitOnce {operation : Operation} (hop : operation ≠ .entry) {tradeId : TradeId}
    (hid : N tradeId) (symbol : Symbol) (endpoint : Endpoint) (params : Params)
    (parent : Option IntentId) :
    Triple (Act.exec env) J (submitOnce cfg operation tradeId symbol endpoint params parent)
      (fun submitted w => J w ∧ (submitted.state = .confirmed → submitted.response.isSome = true →
        w.store.Holds N submitted.intentId)) (fun _ => J) J :=
  h.submission hid (h.prepare _ hop hid) fun id hkey => hkey ▸ h.markSubmitting id

theorem concludeResumed (endpoint : Endpoint) (id : IntentId) (response : Response) :
    Keeps (Act.exec env) (fun w => J w ∧ w.store.Holds N id)
      (concludeResumed endpoint id response) := by
  unfold SpotSidecar.concludeResumed
  split
  · exact .bind (h.finishWith _ _ _ _) fun _ => .pure
  · exact .bind (h.finish _ _ _) fun _ => .pure

/-- The resumption of an intent of the ledger that is no entry. -/
theorem resumeExisting (i : Intent) (request : Params) (hop : i.operation ≠ .entry)
    (hid : N i.tradeId) : Triple (Act.exec env) (fun w => J w ∧ w.store.Knows i)
      (resumeExistingPreparedSubmission cfg i request)
      (fun _ w => J w ∧ w.store.Holds N i.intentId) (fun _ => J) J := by
  unfold resumeExistingPreparedSubmission
  refine Triple.bind ((h.markSubmitting _).weaken fun w hw => ⟨hw.1, ?_⟩) fun _ => ?_
  · obtain ⟨j, hj, hd, -⟩ := hw.2
    have hsame : j.operation = i.operation := congrArg IntentDraft.operation hd
    have htrade : j.tradeId = i.tradeId := congrArg IntentDraft.tradeId hd
    exact ⟨j, hj, hsame ▸ hop, htrade ▸ hid⟩
  · refine Keeps.along ?_
    refine Keeps.bind (.attempt ((h.holding _).post _)) fun answer => ?_
    split
    · refine .bind ((h.holding _).quiet (.asObject _)) fun response => ?_
      exact h.concludeResumed _ _ _
    · refine .bind ((h.holding _).quiet (.lookup _ _ _)) fun found => ?_
      split
      · exact h.concludeResumed _ _ _
      · dsimp only
        split <;> exact .bind (h.finish _ _ _) fun _ => .pure

theorem bindConfirmedIntent {i : Intent} (hid : N i.tradeId) (response : Response)
    (request : Params) : Keeps (Act.exec env) J (bindConfirmedIntent i response request) := by
  unfold SpotSidecar.bindConfirmedIntent
  refine .bind (h.quiet .theStore) fun s => ?_
  split
  · exact .pure
  · refine .bind .ofExcept fun ids => .bind .ofExcept fun fields => ?_
    refine .bind (h.upsert hid _ _) fun _ => ?_
    exact .bind (Keeps.folded (h.recordResponseEvents _ _)) fun _ => Keeps.folded (h.replayTrade _)

/-- The bind of the intent that the ledger holds under an id. -/
theorem bindIntent (id : IntentId) (response : Response) (request : Params) :
    Triple (Act.exec env) (fun w => J w ∧ w.store.Holds N id) (bindIntent id response request)
      (fun _ => J) (fun _ => J) J := by
  unfold SpotSidecar.bindIntent
  refine Triple.bind (triple_theStore fun _ hw => hw.1) fun s => ?_
  cases hi : s.intent id with
  | none => exact .raise fun w hw => hw.1.1
  | some i =>
    refine Triple.weaken (R := fun w => J w ∧ N i.tradeId) ?_ ?_
    · exact Triple.assume_eq fun hid => h.bindConfirmedIntent hid _ _
    · rintro w ⟨⟨hw, j, hj, hid⟩, rfl⟩
      rw [hi] at hj
      exact ⟨hw, Option.some.inj hj ▸ hid⟩

theorem cancelEntryList {row : TradeRow} (hid : N row.tradeId) (symbol : Symbol)
    {operation : Operation} (hop : operation ≠ .entry) :
    Keeps (Act.exec env) J (cancelEntryList cfg row symbol operation) := by
  unfold SpotSidecar.cancelEntryList
  split
  · exact .pure
  · refine Triple.bind (h.prepare _ hop hid) fun isNew => ?_
    split
    · next hnew =>
      refine Triple.bind ((h.markSubmitting _).weaken fun w hw => ⟨hw.1, hw.2 hnew⟩) fun _ => ?_
      refine Keeps.within ?_ (fun _ hw => hw) fun _ hw => hw.1
      refine .bind (.attempt ((h.holding _).post _)) fun answer => ?_
      split
      · exact .bind (h.finish _ _ _) fun _ => .pure
      · exact .bind (h.finish _ _ _) fun _ => .pure
      · split
        · exact .bind ((h.holding _).act _ trivial fun _ hw => hw.2) fun _ => .pure
        · exact .bind (h.finish _ _ _) fun _ => .pure
    · refine Keeps.weaken ?_ fun w hw => hw.1
      refine .bind (h.quiet .theStore) fun s => ?_
      split <;> exact .pure

theorem cancelProtection {row : TradeRow} (hid : N row.tradeId) (symbol : Symbol) :
    Keeps (Act.exec env) J (cancelProtection cfg row symbol) := by
  unfold SpotSidecar.cancelProtection
  split
  · exact .pure
  · refine Triple.bind (h.prepare _ (fun heq => Operation.noConfusion heq) hid) fun isNew => ?_
    split
    · next hnew =>
      refine Triple.bind ((h.markSubmitting _).weaken fun w hw => ⟨hw.1, hw.2 hnew⟩) fun _ => ?_
      refine Keeps.within ?_ (fun _ hw => hw) fun _ hw => hw.1
      refine .bind (.attempt ((h.holding _).post _)) fun answer => ?_
      split
      · exact .bind (h.finish _ _ _) fun _ => .pure
      · exact .bind (h.finish _ _ _) fun _ => .pure
      · unfold concludeCancel
        refine .bind .ofExcept fun valid => ?_
        split
        · exact .bind (h.finishWith _ _ _ _) fun _ => .pure
        · exact .bind (h.finish _ _ _) fun _ => .pure
    · exact Keeps.weaken (h.quiet (.reobserveCancel _ _ _)) fun w hw => hw.1

theorem recordRecovered {tradeId : TradeId} (hid : N tradeId) (pair : Pair)
    (mode : ProtectionMode) (status : String) :
    Keeps (Act.exec env) J (recordRecovered tradeId pair mode status) :=
  h.upsert hid _ _

/-- The bind of a recovered submission; only a confirmed one has its intent in the ledger. -/
theorem bindRecovered (state : IntentState) (response : Option Response) (id : IntentId)
    {tradeId : TradeId} (hid : N tradeId) (pair : Pair) (mode : ProtectionMode) (request : Params)
    (status : String) :
    Triple (Act.exec env)
      (fun w => J w ∧ (state = .confirmed → response.isSome = true → w.store.Holds N id))
      (bindRecovered state response id tradeId pair mode request status) (fun _ => J) (fun _ => J)
      J := by
  unfold SpotSidecar.bindRecovered
  split
  · refine Triple.bind ((h.bindIntent _ _ _).weaken fun w hw => ⟨hw.1, hw.2 rfl rfl⟩) fun _ => ?_
    exact h.recordRecovered hid _ _ _
  · exact .pure fun w hw => hw.1

/-- An intent of the ledger that has a parent is no entry. -/
theorem child_ne_entry {i : Intent} (hparent : i.parentIntentId.isSome = true) :
    ∀ w, J w ∧ w.store.Knows i → i.operation ≠ .entry :=
  fun w hw => h.parented w hw.1 _ hw.2.mem_drafts hparent

/-- What is known of an intent stays known while the adapter asks. -/
theorem knowing (i : Intent) {m : Asking α} (hm : Calm m) :
    Triple (Act.exec env) (fun w => J w ∧ w.store.Knows i) (liftM m : Acting α)
      (fun _ w => J w ∧ w.store.Knows i) (fun _ => J) J :=
  (h.quiet hm).framed (keeps_knows i _)

section plan
variable {plan : Intent} (hid : N plan.tradeId)
  (hplan : ∀ w, J w → w.store.Holds N plan.intentId)
include hplan

theorem closePlan (error : String) : Keeps (Act.exec env) J (closePlan plan error) :=
  (h.finish _ _ _).within (fun w hw => ⟨hw, hplan w hw⟩) fun _ hw => hw.1

include hid

theorem resumeChild (row : TradeRow) (rules : SymbolRules) {child : Intent}
    (hchild : child.tradeId = plan.tradeId) (hparent : child.parentIntentId.isSome = true) :
    Triple (Act.exec env) (fun w => J w ∧ w.store.Knows child)
      (resumeChild cfg plan row rules child) (fun _ => J) (fun _ => J) J := by
  refine Triple.assume fun w₀ hw₀ => ?_
  have hop := h.child_ne_entry hparent w₀ hw₀
  refine Triple.weaken (R := fun w => J w ∧ w.store.Knows child) ?_ fun w hw => hw ▸ hw₀
  unfold SpotSidecar.resumeChild
  refine Triple.bind (h.knowing child (.intentRequest _)) fun request => ?_
  refine Triple.bind (h.knowing child (.call _)) fun _ => ?_
  refine Triple.bind (h.resumeExisting child request hop (hchild ▸ hid)) ?_
  rintro ⟨state, response⟩
  refine Triple.bind ((h.bindRecovered state response _ hid _ _ _ _).weaken ?_) fun _ => ?_
  · exact fun w hw => ⟨hw.1, fun _ _ => hw.2⟩
  · exact h.closePlan hplan _

theorem rebindChild (row : TradeRow) {child : Intent} (hchild : child.tradeId = plan.tradeId) :
    Keeps (Act.exec env) J (rebindChild cfg plan row child) := by
  unfold SpotSidecar.rebindChild
  refine .bind (h.quiet (.lookupPlaced _ _)) fun reply => ?_
  refine .bind (h.quiet (.intentRequest _)) fun request => ?_
  refine .bind (h.quiet (.asObject _)) fun response => ?_
  refine .bind (h.bindConfirmedIntent (hchild ▸ hid) _ _) fun _ => ?_
  exact .bind (h.recordRecovered hid _ _ _) fun _ => h.closePlan hplan _

theorem submitPlan (request : Params) (row : TradeRow) (rules : SymbolRules) :
    Keeps (Act.exec env) J (submitPlan cfg plan request row rules) := by
  unfold SpotSidecar.submitPlan
  refine .bind .ensure fun _ => .bind (h.quiet (.freeBalance _)) fun free => ?_
  dsimp only
  split
  · refine .bind (h.quiet .accountBalances) fun balances => .bind .ensure fun _ => ?_
    exact .bind (h.closePlan hplan _) fun _ => .bind (h.upsert hid _ _) fun _ => .pure
  · refine .bind (h.quiet (.call _)) fun _ => ?_
    refine Triple.bind (h.submitOnce (fun heq => Operation.noConfusion heq) hid _ _ _ _) ?_
    intro submitted
    refine Triple.bind ((h.closePlan hplan _).framed (.given fun _ => .given fun _ =>
      keeps_holds N submitted.intentId _)) fun _ => ?_
    exact Triple.bind (h.bindRecovered _ _ _ hid _ _ _ _) fun _ => .pure fun _ hw => hw

theorem resumeAfterCancel (request : Params) (related : List Intent)
    (hrelated : ∀ i ∈ related, i.tradeId = plan.tradeId) :
    Triple (Act.exec env) (fun w => J w ∧ ∀ i ∈ related, w.store.Knows i)
      (resumeAfterCancel cfg plan request related) (fun _ => J) (fun _ => J) J := by
  unfold SpotSidecar.resumeAfterCancel
  refine Triple.bind ((h.quiet .theStore).framed (keeps_allKnown related _)) fun s => ?_
  split
  · exact .raise fun w hw => hw.1
  · refine Triple.bind ((h.quiet (.call _)).framed (keeps_allKnown related _)) fun active => ?_
    refine Triple.bind ((h.quiet (.rulesOf _)).framed (keeps_allKnown related _)) fun rules => ?_
    split
    · exact Keeps.weaken (h.submitPlan hid hplan _ _ _) fun w hw => hw.1
    · next child hchild =>
      obtain ⟨hmem, hparent⟩ := List.mem_filter.mp (List.mem_of_getLast? hchild)
      have hsome : child.parentIntentId.isSome = true := by
        rw [of_decide_eq_true hparent]
        rfl
      have htrade := hrelated child hmem
      split
      · refine Triple.bind (Triple.weaken (h.resumeChild hid hplan _ _ htrade hsome) ?_)
          fun _ => Keeps.pure
        exact fun w hw => ⟨hw.1, hw.2 _ hmem⟩
      · exact Keeps.weaken (.bind (h.rebindChild hid hplan _ htrade) fun _ => .pure)
          fun w hw => hw.1
      · exact .pure fun w hw => hw.1
      · exact .pure fun w hw => hw.1
      · exact Keeps.weaken (.bind (h.closePlan hplan _) fun _ => .pure) fun w hw => hw.1
      · exact Keeps.weaken (.bind (h.closePlan hplan _) fun _ => .pure) fun w hw => hw.1

end plan

/-- The resumption of a plan that was read from the ledger. -/
theorem resumePreparedReplacement {plan : Intent} (hid : N plan.tradeId) :
    Triple (Act.exec env) (fun w => J w ∧ w.store.Knows plan)
      (resumePreparedReplacement cfg plan) (fun _ => J) (fun _ => J) J := by
  have hward := h.holding plan.intentId
  have hplan : ∀ w : World σ, (J w ∧ w.store.Holds N plan.intentId) →
      w.store.Holds N plan.intentId := fun _ hw => hw.2
  have hholds : ∀ w : World σ, J w ∧ w.store.Knows plan → J w ∧ w.store.Holds N plan.intentId :=
    fun w hw => ⟨hw.1, hw.2.holds hid⟩
  refine Keeps.within ?_ hholds fun _ hw => hw.1
  unfold SpotSidecar.resumePreparedReplacement
  refine .bind (hward.quiet (.intentRequest _)) fun request => ?_
  refine Triple.bind (triple_theStore fun _ hw => hw) fun s => ?_
  refine Triple.weaken (R := fun w => (J w ∧ w.store.Holds N plan.intentId) ∧
    ∀ i ∈ s.intentsForTrade plan.tradeId, w.store.Knows i) ?_ ?_
  · have hknows : ∀ {β : Type} (m : Acting β), Keeps (Act.exec env)
        (fun w => ∀ i ∈ s.intentsForTrade plan.tradeId, w.store.Knows i) m := keeps_allKnown _
    dsimp only
    split
    · exact Keeps.weaken (.bind (hward.closePlan hplan _) fun _ => .pure) fun w hw => hw.1
    · split
      · refine Triple.bind ((hward.quiet (.intentRequest _)).framed (hknows _)) fun request => ?_
        refine Triple.bind ((hward.quiet (.cancelLooksTerminal _ _ _)).framed (hknows _)) ?_
        intro terminal
        split
        · refine hward.resumeAfterCancel hid hplan _ _ fun i hi => ?_
          exact of_decide_eq_true (List.mem_filter.mp hi).2
        · exact .pure fun w hw => hw.1
      · exact .pure fun w hw => hw.1
  · rintro w ⟨hw, rfl⟩
    exact ⟨hw, fun i hi => Store.knows_of_mem (List.mem_of_mem_filter hi)⟩

theorem resolvePreparedChild {i : Intent} (hid : N i.tradeId) (request : Params)
    (hparent : i.parentIntentId.isSome = true) :
    Triple (Act.exec env) (fun w => J w ∧ w.store.Knows i)
      (resolvePreparedChild cfg i request) (fun _ => J) (fun _ => J) J := by
  refine Triple.assume fun w₀ hw₀ => ?_
  have hop := h.child_ne_entry hparent w₀ hw₀
  refine Triple.weaken (R := fun w => J w ∧ w.store.Knows i) ?_ fun w hw => hw ▸ hw₀
  unfold SpotSidecar.resolvePreparedChild
  refine Triple.bind (h.knowing i .theStore) fun s => ?_
  split
  · exact .raise fun w hw => hw.1
  · next row hrow =>
    have htrade : N row.tradeId := (Store.trade_mem hrow).2 ▸ hid
    refine Triple.bind (h.knowing i (.rulesOf _)) fun rules => ?_
    refine Triple.bind (h.knowing i (.call _)) fun _ => ?_
    refine Triple.bind (h.resumeExisting i request hop hid) ?_
    rintro ⟨state, response⟩
    refine (h.bindRecovered state response _ htrade _ _ _ _).weaken ?_
    exact fun w hw => ⟨hw.1, fun _ _ => hw.2⟩

theorem abortPrepared {i : Intent} (hid : N i.tradeId) :
    Triple (Act.exec env) (fun w => J w ∧ w.store.Holds N i.intentId) (abortPrepared i)
      (fun _ => J) (fun _ => J) J := by
  unfold SpotSidecar.abortPrepared
  have hward := h.holding i.intentId
  refine Keeps.within ?_ (fun _ hw => hw) fun _ hw => hw.1
  refine .bind (h.finish _ _ _) fun _ => ?_
  split
  · refine .bind (hward.quiet .theStore) fun s => ?_
    split
    · next row hrow => exact hward.upsert ((Store.trade_mem hrow).2 ▸ hid) _ _
    · exact .pure
  · exact .pure

theorem resolveCancel (i : Intent) (request : Params) :
    Keeps (Act.exec env) (fun w => J w ∧ w.store.Holds N i.intentId) (resolveCancel i request) := by
  have hward := h.holding i.intentId
  unfold SpotSidecar.resolveCancel
  dsimp only
  split
  · refine .bind (hward.quiet (.getOrderList _ _)) fun reply => ?_
    refine .bind (hward.quiet (.asObject _)) fun response => ?_
    exact .bind .ensure fun _ => hward.act _ trivial fun _ hw => hw.2
  · refine .bind (hward.quiet (.getOrder _ _ _)) fun reply => ?_
    refine .bind (hward.quiet (.asObject _)) fun response => ?_
    exact .bind .ensure fun _ => hward.act _ trivial fun _ hw => hw.2

theorem resolvePlacement (i : Intent) (request : Params) :
    Triple (Act.exec env) (fun w => J w ∧ w.store.Holds N i.intentId) (resolvePlacement i request)
      (fun _ => J) (fun _ => J) J := by
  have hward := h.holding i.intentId
  have hasks : ∀ {β : Type} {m : Asking β}, Calm m → Triple (Act.exec env)
      (fun w => J w ∧ w.store.Holds N i.intentId) (liftM m : Acting β)
      (fun _ w => J w ∧ w.store.Holds N i.intentId) (fun _ => J) J :=
        fun hm => (hward.quiet hm).along
  unfold SpotSidecar.resolvePlacement
  refine Triple.bind (hasks (.lookupPlaced _ _)) fun reply => ?_
  split
  · refine Triple.bind (Q := fun _ w => J w ∧ w.store.Holds N i.intentId)
      (.ensure (fun _ _ hw => hw) fun _ _ hw => hw.1) fun _ => ?_
    refine Triple.bind (h.finishWith _ _ _ _).along fun _ => ?_
    exact h.bindIntent _ _ _
  · exact .raise fun w hw => hw.1

theorem resolveIntent {i : Intent} (hid : N i.tradeId) :
    Triple (Act.exec env) (fun w => J w ∧ w.store.Knows i)
      (resolveIntent cfg i) (fun _ => J) (fun _ => J) J := by
  have hholds : ∀ w : World σ, J w ∧ w.store.Knows i → J w ∧ w.store.Holds N i.intentId :=
    fun w hw => ⟨hw.1, hw.2.holds hid⟩
  unfold SpotSidecar.resolveIntent
  refine Triple.bind (h.knowing i (.intentRequest _)) fun request => ?_
  split
  · split
    · exact .pure fun w hw => hw.1
    · split
      · next hchild => exact Triple.bind (h.resolvePreparedChild hid _ hchild.2) fun _ => Keeps.pure
      · exact Triple.bind ((h.abortPrepared hid).weaken hholds) fun _ => Keeps.pure
  · split
    · refine Triple.bind ((h.resolveCancel _ _).within hholds fun _ hw => hw.1) fun _ => Keeps.pure
    · exact Triple.bind ((h.resolvePlacement _ _).weaken hholds) fun _ => Keeps.pure

/-- The unresolved intents that are read are of the trades in `N`. -/
theorem readIntents : Triple (Act.exec env) J (liftM theStore : Acting Store)
    (fun s w => (J w ∧ ∀ i ∈ s.unresolvedIntents, w.store.Knows i) ∧
      ∀ i ∈ s.unresolvedIntents, N i.tradeId) (fun _ => J) J :=
  (triple_theStore fun _ hw => hw).post fun s w hw => by
    obtain ⟨hJ, rfl⟩ := hw
    exact ⟨⟨hJ, fun i hi => Store.knows_of_mem (List.mem_of_mem_filter hi)⟩, h.intent w hJ⟩

/-- The nonterminal rows that are read are of the trades in `N`. -/
theorem readRows : Triple (Act.exec env) J (liftM theStore : Acting Store)
    (fun s w => J w ∧ ∀ row ∈ s.activeTradeRows, N row.tradeId) (fun _ => J) J :=
  (triple_theStore fun _ hw => hw).post fun s w hw => by
    obtain ⟨hJ, rfl⟩ := hw
    exact ⟨hJ, h.row w hJ⟩

theorem resolveOperationIntents : Keeps (Act.exec env) J (resolveOperationIntents cfg) := by
  unfold SpotSidecar.resolveOperationIntents
  refine Triple.bind h.readIntents fun s => Triple.assume_eq fun hs => ?_
  refine Triple.bind (triple_eachIntent _ fun i hi => h.resolveIntent (hs i hi)) fun answers => ?_
  refine Triple.bind h.readIntents fun s => Triple.assume_eq fun hs => ?_
  have hplans : ∀ i ∈ s.unresolvedIntents.filter (fun i => i.state = .prepared &&
      i.operation = .replaceProtection), i ∈ s.unresolvedIntents :=
    fun i hi => List.mem_of_mem_filter hi
  refine Triple.bind (Triple.weaken (triple_eachIntent _ fun i hi =>
    h.resumePreparedReplacement (hs i (hplans i hi))) ?_) fun answers => ?_
  · exact fun w hw => ⟨hw.1, fun i hi => hw.2 i (hplans i hi)⟩
  · exact Keeps.bind (h.quiet .theStore) fun s => .pure

/-- The bind of a submission that ended confirmed. -/
theorem bindSubmitted {submitted : Submitted} {r : Response} (hstate : submitted.state = .confirmed)
    (hresponse : submitted.response = some r) (request : Params) :
    Triple (Act.exec env) (fun w => J w ∧ (submitted.state = .confirmed →
        submitted.response.isSome = true → w.store.Holds N submitted.intentId))
      (SpotSidecar.bindIntent submitted.intentId r request) (fun _ => J) (fun _ => J) J := by
  refine (h.bindIntent _ _ _).weaken fun w hw => ⟨hw.1, hw.2 hstate ?_⟩
  rw [hresponse]
  rfl

theorem protectFilled {row : TradeRow} (hid : N row.tradeId) (symbol : Symbol) (pair : Pair)
    (rules : SymbolRules) :
    Keeps (Act.exec env) J (protectFilled cfg row symbol pair rules) := by
  unfold SpotSidecar.protectFilled
  refine .bind (h.quiet (.freeBalance _)) fun held => ?_
  dsimp only
  split
  · exact .pure
  · refine .bind (h.quiet (.entryPriceOf _ _)) fun entryPrice => ?_
    refine .bind (h.quiet (.currentPrice _)) fun current => .bind (h.quiet .theStore) fun s => ?_
    refine .bind (h.quiet .ensure) fun _ => ?_
    refine .bind (h.quiet (.factoryReplacement _ _ _ _ _ _ _)) fun req => ?_
    refine .bind (h.quiet (.call _)) fun _ => ?_
    refine Triple.bind (h.submitOnce (fun heq => Operation.noConfusion heq) hid _ _ _ _) ?_
    intro submitted
    split
    · next hstate hresponse =>
      refine Triple.bind (h.bindSubmitted hstate hresponse _) fun _ => ?_
      exact Keeps.bind (h.upsert hid _ _) fun _ => .pure
    · exact .raise fun _ hw => hw.1
    · exact .pure fun _ hw => hw.1

/-- The row after the cancel is of the same trade. -/
theorem cancelPartialEntry {row : TradeRow} (hid : N row.tradeId) (symbol : Symbol) :
    Triple (Act.exec env) J (cancelPartialEntry cfg row symbol)
      (fun canceled w => J w ∧ ∀ row', canceled = .ok row' → N row'.tradeId) (fun _ => J) J := by
  have hnone : ∀ detail : String, Triple (Act.exec env) J
      (Pure.pure (.error detail) : Acting (Except String TradeRow))
      (fun canceled w => J w ∧ ∀ row', canceled = .ok row' → N row'.tradeId) (fun _ => J) J :=
    fun detail => .pure fun w hw => ⟨hw, fun row' h => by cases h⟩
  unfold SpotSidecar.cancelPartialEntry
  refine Triple.bind (h.cancelEntryList hid _ fun heq => Operation.noConfusion heq) ?_
  rintro ⟨canceled, detail⟩
  dsimp only
  split
  · refine Triple.bind (Keeps.ofExcept) fun id => ?_
    refine Triple.bind (h.quiet (.getOrder _ _ _)) fun reply => ?_
    refine Triple.bind Keeps.ofExcept fun event => ?_
    split
    · split
      · refine Triple.bind (Triple.folded (h.foldEntry _ _)) fun row' => .pure ?_
        rintro w ⟨hw, htrade⟩
        refine ⟨hw, fun row'' heq => ?_⟩
        cases heq
        rw [htrade]
        exact hid
      · exact hnone _
    · exact hnone _
  · exact hnone _

theorem settlePartial {row : TradeRow} (hid : N row.tradeId) (entry : Report) (symbol : Symbol)
    (pair : Pair) (rules : SymbolRules) :
    Keeps (Act.exec env) J (settlePartial cfg row entry symbol pair rules) := by
  unfold SpotSidecar.settlePartial
  refine .bind (h.quiet (.call _)) fun orders => .bind (h.quiet (.call _)) fun lists => ?_
  refine .bind (h.quiet (.filledAndProtected _ _ _ _)) fun isOpen => ?_
  split
  · exact .bind (h.upsert hid _ _) fun _ => .pure
  · split
    · exact .pure
    · refine .bind (h.quiet (.asList _)) fun lists => ?_
      refine .bind (h.quiet (.listStillOpen _ _)) fun originalOpen => ?_
      split
      · refine Triple.bind (h.cancelPartialEntry hid _) fun canceled => ?_
        refine Triple.assume_eq fun hcanceled => ?_
        split
        · next row' => exact h.protectFilled (hcanceled row' rfl) _ _ _
        · exact Keeps.pure
      · split
        · exact h.protectFilled hid _ _ _
        · exact .pure

/-- What a program does with the nonterminal row that it reads for a symbol. -/
theorem bindActive (symbol : Symbol) {f : Option TradeRow → Acting α}
    (hf : ∀ found : Option TradeRow, (∀ row, found = some row → N row.tradeId) →
      Keeps (Act.exec env) J (f found)) :
    Keeps (Act.exec env) J
      ((liftM theStore : Acting Store) >>= fun s =>
        Prog.ofExcept (s.activeTradeForSymbol symbol) >>= f) := by
  refine Triple.bind h.readRows fun s => Triple.assume_eq fun hs => ?_
  refine Triple.bind (Q := fun found w => J w ∧ s.activeTradeForSymbol symbol = .ok found)
    (.ofExcept (fun found hfound w hw => ⟨hw, hfound⟩) fun _ _ _ hw => hw) fun found => ?_
  refine Triple.assume_eq fun hfound => hf found fun row hrow => hs row ?_
  subst hrow
  exact mem_activeTradeRows.mpr (mem_of_activeTradeForSymbol hfound)

theorem placePartialProtection (symbol : Symbol) :
    Keeps (Act.exec env) J (placePartialProtection cfg symbol) := by
  unfold SpotSidecar.placePartialProtection
  refine h.bindActive symbol fun found hfound => ?_
  split
  · exact .pure
  · next row =>
    have hid := hfound row rfl
    refine .bind (h.quiet (.call _)) fun active => .bind (h.quiet (.rulesOf _)) fun rules => ?_
    refine .bind (h.quiet (.lookupEntry _ _)) fun entry => .bind .ofExcept fun id => ?_
    split
    · exact .pure
    · refine .bind .ofExcept fun event => ?_
      split
      · exact .pure
      · refine Triple.bind (Triple.folded (h.foldEntry _ _)) fun row' => ?_
        refine Triple.assume_eq fun htrade => h.settlePartial ?_ _ _ _ _
        rw [htrade]
        exact hid

theorem settleStale {row : TradeRow} (hid : N row.tradeId) (symbol : Symbol) (executed : ℚ)
    (status : OrderStatus) :
    Keeps (Act.exec env) J (settleStale cfg row symbol executed status) := by
  unfold SpotSidecar.settleStale
  split
  · refine .bind (Keeps.asked (h.setMemory _ fun _ hm => hm)) fun _ => ?_
    exact .bind (h.pausing _) fun _ => h.placePartialProtection _
  · refine .bind ?_ fun _ => .pure
    unfold rejectUnfilled
    refine .bind (h.quiet .theStore) fun s => ?_
    split
    · exact h.upsert hid _ _
    · exact .pure

theorem cancelStaleEntry {row : TradeRow} (hid : N row.tradeId) (symbol : Symbol) :
    Keeps (Act.exec env) J (cancelStaleEntry cfg row symbol) := by
  unfold SpotSidecar.cancelStaleEntry
  refine .bind (h.cancelEntryList hid _ fun heq => Operation.noConfusion heq) ?_
  rintro ⟨canceled, detail⟩
  dsimp only
  split
  · refine .bind .ofExcept fun id => .bind (h.quiet (.getOrder _ _ _)) fun reply => ?_
    refine .bind (h.quiet (.asObject _)) fun entry => ?_
    split
    · exact .pure
    · refine .bind .ofExcept fun event => ?_
      split
      · exact .pure
      · refine .bind (Keeps.folded (h.recordAuthenticatedEvent _)) fun _ => ?_
        refine .bind .ofExcept fun executed => ?_
        split
        · exact .pure
        · exact h.settleStale hid _ _ _
  · exact .pure

theorem expireStaleEntry {row : TradeRow} (hid : N row.tradeId) :
    Keeps (Act.exec env) J (expireStaleEntry cfg row) := by
  unfold SpotSidecar.expireStaleEntry
  split
  · exact .pure
  · refine .bind (h.quiet (.call _)) fun now => ?_
    split
    · exact .pure
    · unfold expireLateEntry
      refine .bind (h.quiet (.lookupEntry _ _)) fun entry => .bind .ofExcept fun id => ?_
      split
      · exact .pure
      · refine .bind .ofExcept fun event => ?_
        split
        · exact .pure
        · refine .bind (Keeps.folded (h.recordAuthenticatedEvent _)) fun _ => ?_
          refine .bind .ofExcept fun executed => ?_
          split
          · exact .pure
          · split
            · exact h.settleStale hid _ _ _
            · exact h.cancelStaleEntry hid _

/-- The row of a planned conversion was read as nonterminal. -/
theorem planConversion (symbol : Symbol) (args : ConvertArgs) :
    Triple (Act.exec env) J (liftM (planConversion cfg symbol args) : Acting _)
      (fun planned w => J w ∧ ∀ c, planned = .ok c → N c.row.tradeId) (fun _ => J) J := by
  refine ((h.quiet (.planConversion symbol args)).and
    (Triple.asked (triple_planned symbol args))).conseq ?_ ?_ ?_ ?_
  · exact fun _ hw => ⟨hw, trivial⟩
  · exact fun _ w hw => ⟨hw.1, fun c hc => h.row w hw.1 _ (hw.2 c hc)⟩
  · exact fun _ _ hw => hw.1
  · exact fun _ hw => hw.1

theorem finishConversion (args : ConvertArgs) {c : Conversion} (hid : N c.row.tradeId)
    (endpoint : Endpoint) (params : Params) (held : ℚ) (id : IntentId) (response : Response) :
    Triple (Act.exec env) (fun w => J w ∧ w.store.Holds N id)
      (finishConversion cfg args c endpoint params held id response) (fun _ => J) (fun _ => J)
      J := by
  unfold SpotSidecar.finishConversion
  refine Triple.bind (h.bindIntent _ _ _) fun _ => ?_
  exact Keeps.bind .ofExcept fun _ => .bind .ofExcept fun _ =>
    .bind (h.upsert hid _ _) fun _ => .pure

theorem submitReplacement (args : ConvertArgs) {c : Conversion} (hid : N c.row.tradeId)
    (planId : IntentId) (held : ℚ) :
    Keeps (Act.exec env) J (submitReplacement cfg args c planId held) := by
  unfold SpotSidecar.submitReplacement
  refine .bind (h.quiet (.replacementFor _ _ _)) fun req => .bind (h.quiet (.call _)) fun _ => ?_
  refine Triple.bind (h.submitOnce (fun heq => Operation.noConfusion heq) hid _ _ _ _) ?_
  intro submitted
  split
  · next hstate hresponse =>
    refine (h.finishConversion args hid _ _ _ _ _).weaken fun w hw => ⟨hw.1, hw.2 hstate ?_⟩
    rw [hresponse]
    rfl
  · exact .raise fun _ hw => hw.1
  · exact Keeps.weaken (.bind (h.upsert hid _ _) fun _ => .pure) fun _ hw => hw.1

theorem replaceCanceled (args : ConvertArgs) {c : Conversion} (hid : N c.row.tradeId)
    {planId : IntentId} (hplan : ∀ w, J w → w.store.Holds N planId) :
    Keeps (Act.exec env) J (replaceCanceled cfg args c planId) := by
  unfold SpotSidecar.replaceCanceled
  refine .bind (h.quiet (.freeBalance _)) fun free => ?_
  dsimp only
  split
  · refine .bind (h.quiet .accountBalances) fun balances => ?_
    split
    · exact .pure
    · refine .bind ?_ fun _ => .bind (h.upsert hid _ _) fun _ => .pure
      exact (h.finish _ _ _).within (fun w hw => ⟨hw, hplan w hw⟩) fun _ hw => hw.1
  · exact h.submitReplacement args hid _ _

theorem convert (symbol : Symbol) (args : ConvertArgs) :
    Keeps (Act.exec env) J (convert cfg symbol args) := by
  unfold SpotSidecar.convert
  refine Triple.bind (h.planConversion _ _) fun planned => Triple.assume_eq fun hplanned => ?_
  split
  · exact Keeps.pure
  · next c =>
    have hid := hplanned c rfl
    unfold executeConversion
    refine Triple.bind (h.prepare _ (fun heq => Operation.noConfusion heq) hid) fun isNew => ?_
    have hward := h.holding (planDraft cfg c).intentId
    split
    · next hnew =>
      refine Keeps.within (J := fun w => J w ∧ w.store.Holds N (planDraft cfg c).intentId) ?_ ?_
        fun _ hw => hw.1
      · refine .bind (Keeps.asked (hward.setMemory _ fun _ _ => rfl)) fun _ => ?_
        refine .bind (Keeps.asked (hward.setEntries _ _)) fun _ => ?_
        refine .bind (hward.cancelProtection hid _) ?_
        rintro ⟨canceled, detail⟩
        dsimp only
        split
        · exact hward.replaceCanceled args hid fun _ hw => hw.2
        · exact .pure
      · rintro w ⟨hw, hheld⟩
        obtain ⟨i, hi, -, hN⟩ := hheld hnew
        exact ⟨hw, i, hi, hN⟩
    · exact .pure fun w hw => hw.1

theorem exitCanceled {row : TradeRow} (hid : N row.tradeId) (symbol : Symbol) :
    Keeps (Act.exec env) J (exitCanceled cfg row symbol) := by
  unfold SpotSidecar.exitCanceled
  refine .bind (h.quiet (.call _)) fun active => .bind (h.quiet (.rulesOf _)) fun rules => ?_
  split
  · exact .pure
  · refine .bind (h.quiet (.freeBalance _)) fun free => ?_
    dsimp only
    split
    · exact .pure
    · unfold sellOut
      refine .bind (h.quiet (.bestBid _)) fun bid => .bind (h.quiet (.call _)) fun client => ?_
      refine .bind (h.quiet (.call _)) fun _ => ?_
      refine Triple.bind (h.submitOnce (fun heq => Operation.noConfusion heq) hid _ _ _ _) ?_
      intro submitted
      split
      · next hstate hresponse =>
        refine Triple.bind (h.bindSubmitted hstate hresponse _) fun _ => ?_
        unfold verifyExit
        refine Keeps.bind (Keeps.folded (.attempt (h.readExit _ _))) fun result => ?_
        split
        · exact .pure
        · split
          · exact .pure
          · refine .bind (h.quiet (.freeBalance _)) fun free => ?_
            split
            · exact .bind (h.upsert hid _ _) fun _ => .pure
            · exact .pure
      · exact .raise fun _ hw => hw.1
      · exact .pure fun _ hw => hw.1

theorem emergencyExit (symbol : Symbol) : Keeps (Act.exec env) J (emergencyExit cfg symbol) := by
  unfold SpotSidecar.emergencyExit
  refine h.bindActive symbol fun found hfound => ?_
  split
  · exact .pure
  · next row =>
    have hid := hfound row rfl
    refine .bind (h.pausing _) fun _ => .bind (h.cancelProtection hid _) ?_
    rintro ⟨canceled, detail⟩
    dsimp only
    split
    · exact h.exitCanceled hid _
    · exact .pure

theorem reconcileExit {row : TradeRow} (hid : N row.tradeId) (i : Intent) (orderId : ℤ) :
    Keeps (Act.exec env) J (reconcileExit cfg row i orderId) := by
  unfold SpotSidecar.reconcileExit
  refine .bind (h.quiet (.rulesOf _)) fun rules => .bind (h.quiet (.getOrder _ _ _)) ?_
  intro reply
  refine .bind (h.quiet (.asObject _)) fun order => .bind .ofExcept fun found => ?_
  refine .bind .ensure fun _ => .bind .ensure fun _ => .bind .ensure fun _ => ?_
  refine .bind .ofExcept fun executed => ?_
  split
  · exact .raise
  · refine .bind .ensure fun _ => .bind .ensure fun _ => .bind .ofExcept fun origQty => ?_
    split
    · refine .bind (Keeps.folded (h.recordRestEvent _ _)) fun _ => ?_
      exact .bind (h.upsert hid _ _) fun _ => .pure
    · exact .pure

theorem reconcileConfirmedEmergencyExits :
    Keeps (Act.exec env) J (reconcileConfirmedEmergencyExits cfg) := by
  unfold SpotSidecar.reconcileConfirmedEmergencyExits
  refine Triple.bind h.readRows fun s => Triple.assume_eq fun hs => ?_
  refine Keeps.bind (.each fun row hrow => ?_) fun _ => .pure
  unfold reconcileExits
  refine .bind (h.quiet .theStore) fun s => ?_
  dsimp only
  split
  · exact .pure
  · refine .bind .ofExcept fun id => ?_
    split
    · exact .pure
    · refine .bind (.attempt (h.reconcileExit (hs row hrow) _ _)) fun result => ?_
      split <;> exact .pure

theorem recoverPartial (symbol : Symbol) : Keeps (Act.exec env) J (recoverPartial cfg symbol) := by
  unfold SpotSidecar.recoverPartial
  refine .bind (.attempt (h.placePartialProtection _)) fun result => ?_
  split
  · exact .bind (Keeps.asked (h.setMemory _ fun _ hm => hm)) fun _ => .pure
  · exact .pure

theorem controlStaleEntry {row : TradeRow} (hid : N row.tradeId) :
    Keeps (Act.exec env) J (controlStaleEntry cfg row) := by
  unfold SpotSidecar.controlStaleEntry
  refine .bind (.attempt (.bind (h.quiet (.entryIsStale _)) fun stale => ?_)) fun result => ?_
  · split
    · exact h.expireStaleEntry hid
    · exact .pure
  · split <;> exact .pure

theorem verifiedReconcile : Keeps (Act.exec env) J (verifiedReconcile cfg) := by
  unfold SpotSidecar.verifiedReconcile
  refine .bind h.resolveOperationIntents fun resolution => ?_
  refine .bind (Keeps.folded h.refreshDurableExchangeState) fun _ => ?_
  refine .bind h.reconcileConfirmedEmergencyExits fun emergency => ?_
  refine Triple.bind h.readRows fun s => Triple.assume_eq fun hs => ?_
  refine Keeps.bind (.each fun row hrow => ?_) fun stale => ?_
  · exact h.controlStaleEntry (hs row (List.mem_of_mem_filter hrow))
  · refine .bind (h.quiet .theMemory) fun m => ?_
    refine .bind (.each fun symbol _ => h.recoverPartial symbol) fun partials => ?_
    exact Keeps.asked (h.judgeAccount _ _ _ _)

theorem tickRows : Keeps (Act.exec env) J (tickRows cfg) := by
  unfold SpotSidecar.tickRows
  refine Triple.bind h.readRows fun s => Triple.assume_eq fun hs => ?_
  refine Keeps.bind (.each fun row hrow => ?_) fun _ => ?_
  · unfold tickEntry
    refine .bind (.attempt (h.expireStaleEntry (hs row (List.mem_of_mem_filter hrow)))) ?_
    intro result
    split
    · exact .pure
    · exact h.pausing _
  · refine .bind (h.quiet .theMemory) fun m => .bind (h.quiet .theStore) fun s => ?_
    exact .bind (.each fun symbol _ => h.recoverPartial symbol) fun _ => .pure

theorem rejectUnsubmitted (symbol : Symbol) (pair : Pair) {id : TradeId} (hid : N id) :
    Keeps (Act.exec env) J (rejectUnsubmitted symbol pair id) := by
  unfold SpotSidecar.rejectUnsubmitted
  refine .bind (h.quiet .theStore) fun s => .bind .ofExcept fun current => ?_
  split
  · exact h.upsert hid _ _
  · exact .pure

end Ward

/-- What an invariant needs beside in order to be kept by the submission of an entry. -/
structure Entering (env : Env σ) (N : TradeId → Prop) (J : World σ → Prop) : Prop
    extends Ward env N J where
  enter : ∀ (d : IntentDraft) w, d.operation = .entry → d.parentIntentId = none → N d.tradeId →
    J w → J ((Act.prepareIntent d).exec env _ w).2
  sent : ∀ id w, w.store.Holds N id → J w → J ((Act.markIntentSubmitting id).exec env _ w).2

namespace Entering
variable {N : TradeId → Prop} {J : World σ → Prop} (h : Entering env N J)
include h

theorem prepare (d : IntentDraft) (hop : d.operation = .entry) (hparent : d.parentIntentId = none)
    (hN : N d.tradeId) : Triple (Act.exec env) J (prepare d)
      (fun isNew w => J w ∧ (isNew = true → w.store.Holds N d.intentId)) (fun _ => J) J := by
  have hkeep := fun w hw => h.enter d w hop hparent hN hw
  refine Triple.perform (fun w hw => hw) (fun w b w' hw heq => ?_) fun w e w' hw heq => ?_
  · have hJ := hkeep w hw
    rw [heq] at hJ
    refine ⟨hJ, fun hb => ?_⟩
    subst hb
    simp only [Act.exec] at heq
    split at heq
    · next hok =>
      cases heq
      obtain ⟨i, hi, hdraft⟩ := (Store.prepareIntent_new hok).2
      have hid : i.tradeId = d.tradeId := congrArg IntentDraft.tradeId hdraft
      exact ⟨i, hi, hid ▸ hN⟩
    · cases heq
  · have hJ := hkeep w hw
    rwa [heq] at hJ

theorem markSubmitting (id : IntentId) :
    Keeps (Act.exec env) (fun w => J w ∧ w.store.Holds N id) (markSubmitting id) :=
  .perform fun w hw => ⟨h.sent id w hw.2 hw.1, hw.2.mono (Act.exec_ledgerLe _ w)⟩

/-- The submission of an entry, where the invariant begins with the write of its row. -/
theorem submitEntry_from {I K : World σ → Prop} (hI : ∀ w, I w → K w) (hJ : ∀ w, J w → K w)
    (hask : ∀ {β : Type} {m : Asking β}, Calm m → Keeps (Act.exec env) I (liftM m : Acting β))
    {tradeId : TradeId} (hid : N tradeId) (hrow : ∀ (pair : Pair) (f : TradeFields),
      Triple (Act.exec env) I (upsert tradeId pair f) (fun _ => J) (fun _ => K) K)
    (symbol : Symbol) (pair : Pair) (endpoint : Endpoint) (params : Params) :
    Triple (Act.exec env) I (submitEntry cfg tradeId symbol pair endpoint params) (fun _ => K)
      (fun _ => K) K := by
  have hasks : ∀ {β : Type} {m : Asking β}, Calm m → Triple (Act.exec env) I
      (liftM m : Acting β) (fun _ => I) (fun _ => K) K := fun hm =>
    (hask hm).conseq (fun _ hw => hw) (fun _ _ hw => hw) (fun _ => hI) hI
  unfold SpotSidecar.submitEntry
  refine Triple.bind (hasks (.call _)) fun now => Triple.bind (hasks .theStore) fun s => ?_
  refine Triple.bind (hrow _ _) fun _ => ?_
  refine Triple.conseq ?_ (fun _ hw => hw) (fun _ => hJ) (fun _ => hJ) hJ
  refine Triple.bind (h.submission hid (h.prepare _ rfl rfl hid) fun id hkey =>
    hkey ▸ (h.markSubmitting id).along) fun submitted => ?_
  split
  · exact Keeps.weaken (.bind (h.upsert hid _ _) fun _ => .pure) fun _ hw => hw.1
  · next hstate hresponse =>
    exact Triple.bind (h.bindSubmitted hstate hresponse _) fun _ => Keeps.pure
  · exact .raise fun _ hw => hw.1
  · exact Keeps.weaken (.bind (h.upsert hid _ _) fun _ => .pure) fun _ hw => hw.1

theorem submitEntry {tradeId : TradeId} (hid : N tradeId) (symbol : Symbol) (pair : Pair)
    (endpoint : Endpoint) (params : Params) :
    Keeps (Act.exec env) J (submitEntry cfg tradeId symbol pair endpoint params) :=
  h.submitEntry_from (fun _ hw => hw) (fun _ hw => hw) h.quiet hid (fun _ _ => h.upsert hid _ _)
    _ _ _ _

end Entering

end SpotSidecar
