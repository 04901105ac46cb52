import SpotSidecar.Safety.Ledger
import Mathlib.Data.List.Induction

/-! The walk through the operations. An invariant of the sidecar has to be proved only at the
sites where the ledger, the exchange or the lifecycle of a trade is written. -/
namespace SpotSidecar
open Interaction Prog
variable {σ α β γ : Type} {cfg : Config} {env : Env σ} {I J : World σ → Prop}

/-- A program that only folds, among acts. -/
theorem Triple.folded {P : World σ → Prop} {Q : α → World σ → Prop} {E : Exc → World σ → Prop}
    {C : World σ → Prop} {m : Folding α} (h : Triple (Fold.exec env) P m Q E C) :
    Triple (Act.exec env) P (liftM m : Acting α) Q E C :=
  Triple.lift (fun _ _ => rfl) h

/-- A program that only asks, among acts. -/
theorem Triple.asked {P : World σ → Prop} {Q : α → World σ → Prop} {E : Exc → World σ → Prop}
    {C : World σ → Prop} {m : Asking α} (h : Triple (Ask.exec env) P m Q E C) :
    Triple (Act.exec env) P (liftM m : Acting α) Q E C :=
  Triple.folded (Triple.lift (fun _ _ => rfl) h)

/-- What the acts that touch no table keep, every question keeps. -/
theorem keeps_asking (h : ∀ {γ} (a : Ask γ) w, I w → I (a.exec env γ w).2) (m : Asking α) :
    Keeps (Act.exec env) I (liftM m : Acting α) :=
  Triple.asked (keeps_of_exec h m)

/-- What the acts that only fold events keep, every such program keeps. -/
theorem keeps_folding (h : ∀ {γ} (f : Fold γ) w, I w → I (f.exec env γ w).2) (m : Folding α) :
    Keeps (Act.exec env) I (liftM m : Acting α) :=
  Triple.folded (keeps_of_exec h m)

theorem triple_theStore {P C : World σ → Prop} {E : Exc → World σ → Prop} (hC : ∀ w, P w → C w) :
    Triple (Act.exec env) P (liftM theStore : Acting Store) (fun s w => P w ∧ s = w.store) E C :=
  fun w hw => ⟨hC w hw, hw, rfl⟩

/-- A row that is reread after its events were folded is the row of the table, where there is
one. -/
theorem triple_foldEntry_reread (row : TradeRow) (e : Event) :
    Triple (Fold.exec env) (fun _ => True) (foldEntry row e)
      (fun r w => r.tradeId = row.tradeId ∧
        ∀ row', w.store.trade r.tradeId = some row' → row' = r)
      (fun _ _ => True) (fun _ : World σ => True) := by
  unfold foldEntry
  refine Triple.bind Triple.top fun _ => Triple.bind Triple.top fun _ => ?_
  have hstore : Triple (Fold.exec env) (fun _ => True) (liftM theStore : Folding Store)
      (fun s w => s = w.store) (fun _ _ => True) (fun _ : World σ => True) :=
    fun w _ => ⟨trivial, rfl⟩
  refine Triple.bind hstore fun s => .pure ?_
  rintro w rfl
  cases hr : w.store.trade row.tradeId with
  | none =>
    refine ⟨rfl, fun row' hrow' => ?_⟩
    rw [Option.getD_none, hr] at hrow'
    cases hrow'
  | some current =>
    have hid : current.tradeId = row.tradeId := (Store.trade_mem hr).2
    refine ⟨hid, fun row' hrow' => ?_⟩
    rw [Option.getD_some, hid, hr] at hrow'
    exact (Option.some.inj hrow').symm

/-- What every request of an entry has, the planned one has. -/
theorem triple_planEntry_built {F : Endpoint × Params → Prop}
    (hF : ∀ mode rules qty entry pending ids,
      F (entryRequest cfg.settings mode rules qty entry pending ids)) (symbol : Symbol)
        (pair : Pair) :
    Triple (Ask.exec env) (fun _ => True) (planEntry cfg symbol pair)
      (fun plan _ => ∀ r, plan = .ok r → F r) (fun _ _ => True) fun _ => True := by
  have hask : ∀ {β : Type} (m : Asking β), Triple (Ask.exec env) (fun _ => True) m
      (fun _ _ => True) (fun _ _ => True) fun _ => True := fun _ => Triple.top
  have hfactory : ∀ mode rules qty entry, Triple (Ask.exec env) (fun _ => True)
      (factoryEntry cfg mode rules qty entry) (fun r _ => F r) (fun _ _ => True) fun _ => True := by
    intro mode rules qty entry
    unfold factoryEntry
    refine Triple.bind (hask _) fun pending => Triple.bind (hask _) fun _ => ?_
    refine Triple.bind (hask _) fun list => Triple.bind (hask _) fun working => ?_
    refine Triple.bind (hask _) fun first => Triple.bind (hask _) fun second => .pure fun _ _ => ?_
    exact hF _ _ _ _ _ _
  unfold planEntry
  refine Triple.bind (hask _) fun rules => Triple.bind (hask _) fun quoteFree => ?_
  refine Triple.bind (hask _) fun ask => Triple.bind (hask _) fun quantity => ?_
  obtain ⟨quantity, required⟩ := quantity
  dsimp only
  by_cases hfunds : quoteFree < required
  · rw [if_pos hfunds]
    exact .pure fun _ _ r hr => by cases hr
  · rw [if_neg hfunds]
    refine Triple.bind (hask _) fun s => Triple.bind (hask _) fun _ => ?_
    refine Triple.bind (hfactory _ _ _ _) fun request => ?_
    refine Triple.assume fun w hbuilt => ?_
    refine Triple.bind (Q := fun _ _ => True) (Triple.weaken Triple.top fun _ _ => trivial)
      fun _ => ?_
    refine .pure fun _ _ r hr => ?_
    obtain rfl := Except.ok.inj hr
    exact hbuilt

theorem triple_intentRequest {P C : World σ → Prop} (i : Intent) (hC : ∀ w, P w → C w) :
    Triple (Act.exec env) P (liftM (intentRequest cfg i) : Acting Params)
      (fun r w => P w ∧ r = i.request) (fun _ => C) C := by
  intro w hw
  unfold intentRequest Prog.ensure
  split
  · exact ⟨hw, rfl⟩
  · exact hC w hw

namespace Store

/-- The ledger holds what was once read as this intent. -/
def Knows (s : Store) (i : Intent) : Prop :=
  ∃ j, s.intent i.intentId = some j ∧ j.draft = i.draft ∧
    (i.state ≠ .prepared → j.state ≠ .prepared)

theorem knows_of_mem {s : Store} {i : Intent} (h : i ∈ s.intents) : s.Knows i :=
  ⟨i, intent_of_mem h, rfl, id⟩

theorem Knows.mem_drafts {s : Store} {i : Intent} (h : s.Knows i) : i.draft ∈ s.drafts := by
  obtain ⟨j, hj, hd, -⟩ := h
  exact hd ▸ (Store.mem_drafts hj).1

theorem Knows.mono {s s' : Store} {i : Intent} (h : s.Knows i) (hle : LedgerLe s s') :
    s'.Knows i := by
  obtain ⟨j, hj, hd, hs⟩ := h
  obtain ⟨k, hk, hd', hs'⟩ := hle _ j hj
  exact ⟨k, hk, hd'.trans hd, fun hp => hs' (hs hp)⟩

end Store

theorem keeps_knows (i : Intent) (m : Acting α) :
    Keeps (Act.exec env) (fun w => w.store.Knows i) m :=
  keeps_of_exec (fun a w h => h.mono (Act.exec_ledgerLe a w)) m

/-- A loop over intents that were read from the ledger. -/
theorem triple_eachIntent {f : Intent → Acting β} (intents : List Intent)
    (hf : ∀ i ∈ intents, Triple (Act.exec env) (fun w => J w ∧ w.store.Knows i) (f i)
      (fun _ => J) (fun _ => J) J) :
    Triple (Act.exec env) (fun w => J w ∧ ∀ i ∈ intents, w.store.Knows i)
      (Prog.each (fun i => (f i).attempt) intents) (fun _ => J) (fun _ => J) J := by
  have hall : ∀ i ∈ intents, Triple (Act.exec env)
      (fun w => J w ∧ ∀ i ∈ intents, w.store.Knows i) (f i).attempt
      (fun _ w => J w ∧ ∀ i ∈ intents, w.store.Knows i) (fun _ => J) J := by
    intro i hi
    have hknows : Keeps (Act.exec env) (fun w => ∀ i ∈ intents, w.store.Knows i) (f i) :=
      keeps_of_exec (fun a w hw i hi => (hw i hi).mono (Act.exec_ledgerLe a w)) _
    refine Triple.attempt (((hf i hi).and hknows).conseq ?_ ?_ ?_ ?_)
    · exact fun w hw => ⟨⟨hw.1, hw.2 i hi⟩, hw.2⟩
    · exact fun _ w hw => hw
    · exact fun _ w hw => hw
    · exact fun w hw => hw.1
  exact (Triple.each intents hall).post fun _ w hw => hw.1

theorem keeps_drop {m : Acting α} (hm : Keeps (Act.exec env) J m) :
    Keeps (Act.exec env) J (drop m) :=
  .bind hm fun _ => .pure

/-- A step keeps what its command keeps and what survives the death of the process. -/
theorem step_of_command {w : World σ} {s : Step} (hw : J (w.note .began))
    (hcommand : wp (Act.exec env) (s.command.program cfg) (Ends (fun _ => J) (fun _ => J) J)
      (w.note .began)) (hrestart : ∀ w, J w → J w.restart) : J (step cfg env w s) := by
  have hrun := wp_run hcommand s.budget
  unfold SpotSidecar.step
  dsimp only
  split
  · exact hrestart _ hw
  · split
    · next heq => rw [heq] at hrun; exact hrestart _ hrun
    · next o w' hne heq =>
      rw [heq] at hrun
      cases o with
      | done u => exact hrun
      | raised e => exact hrun
      | crashed => exact absurd rfl hne

/-- What every command keeps under a condition on it holds after every run of commands that meet
the condition. -/
theorem runSteps_of_triples {F : Command → World σ → Prop}
    (h : ∀ c : Command, Triple (Act.exec env) (fun w => J w ∧ F c w) (c.program cfg) (fun _ => J)
      (fun _ => J) J)
    (hF : ∀ c w, F c w → F c (w.note .began)) (e : σ) (steps : List Step) (hinit : J { env := e })
    (hbegan : ∀ w, J w → J (w.note .began)) (hrestart : ∀ w, J w → J w.restart)
    (hfits : ∀ before s, before ++ [s] <+: steps → F s.command (runSteps cfg env e before)) :
    J (runSteps cfg env e steps) := by
  induction steps using List.reverseRecOn with
  | nil => exact hinit
  | append_singleton steps s ih =>
    have hbefore := ih fun before s' hs' => hfits before s' (hs'.trans (List.prefix_append _ _))
    have hlast := hF _ _ (hfits steps s (List.prefix_refl _))
    rw [runSteps, List.foldl_append]
    exact step_of_command (hbegan _ hbefore) (h s.command _ ⟨hbegan _ hbefore, hlast⟩) hrestart

/-- A signal of this id would be approved: the id is new and entries are on. -/
def World.approves (w : World σ) (id : TradeId) : Bool :=
  (w.signals.lookup id).isNone && w.store.data.entriesEnabled

/-- `process_signal` asks, until it claims the signal and submits it. -/
theorem triple_processSignal {R : World σ → Prop} {symbol : Symbol} {pair : Pair} {id : TradeId}
    (hask : ∀ {γ} (a : Ask γ) w, J w → J (a.exec env γ w).2) (hI : ∀ w, I w → J w)
    (hclaim : ∀ w, I w → w.approves id = true → R (Ask.exec env _ (.claimSignal id) w).2)
    (hsubmit : Triple (Act.exec env) R (submitSignal cfg symbol pair id) (fun _ => J)
      (fun _ => J) J) :
    Triple (Act.exec env) I (processSignal cfg symbol pair id) (fun _ => J) (fun _ => J) J := by
  have hquestion : ∀ {β : Type} (m : Asking β), Keeps (Act.exec env) J (liftM m : Acting β) :=
    keeps_asking hask
  unfold processSignal
  refine Triple.bind (Q := fun prior w => I w ∧ prior = w.signals.lookup id)
    (fun w hw => ⟨hI w hw, hw, rfl⟩) fun prior => ?_
  cases prior with
  | some result =>
    refine Keeps.weaken ?_ fun w hw => hI w hw.1
    dsimp only
    split
    · exact .bind (hquestion _) fun _ => .pure
    · exact .pure
  | none =>
    refine Triple.bind (triple_theStore fun w hw => hI w hw.1) fun s => ?_
    split
    · refine Keeps.weaken ?_ fun w hw => hI w hw.1.1
      exact .bind (hquestion _) fun _ => .pure
    · next henabled =>
      refine Triple.bind (Q := fun isNew w => J w ∧ (isNew = true → R w)) ?_ fun isNew => ?_
      · rintro w ⟨⟨hw, hnew⟩, rfl⟩
        refine ⟨hI w hw, hask (.claimSignal id) w (hI w hw), fun _ => hclaim w hw ?_⟩
        simpa [World.approves, ← hnew] using henabled
      · cases isNew with
        | true => exact hsubmit.weaken fun w hw => hw.2 rfl
        | false => exact .pure fun w hw => hw.1

/-- The lifecycles that the operations write. -/
def Lifecycle.written : Lifecycle → Bool
  | .signalApproved | .reconciled | .error => false
  | _ => true

/-- What the operations write to a row: a lifecycle with its columns, or a status alone. -/
inductive RowWrite (f : TradeFields) : Prop where
  | lifecycle {l : Lifecycle} (h : f.lifecycle = some l) (hl : l.written = true)
  | status {status : String} (h : f = { reconciliationStatus := some status })

theorem ProtectionMode.lifecycle_written (mode : ProtectionMode) :
    mode.lifecycle.written = true := by
  cases mode <;> rfl

theorem ConvertArgs.lifecycle_written (args : ConvertArgs) (mode : ProtectionMode) :
    (args.lifecycle mode).written = true := by
  unfold lifecycle
  split
  · rfl
  · split
    · rfl
    · split <;> rfl

theorem bindFields_rowWrite {i : Intent} {response : Response} {request : Params}
    {row : TradeRow} {ids : ResponseIds} {fields : TradeFields}
    (h : bindFields i response request row ids = .ok fields) : RowWrite fields := by
  have hprotection : ∀ status, bindFields.protectionFields i response request row ids status =
      .ok fields → RowWrite fields := by
    intro status hstatus
    unfold bindFields.protectionFields at hstatus
    obtain ⟨stop, -, hrest⟩ := except_bind_eq_ok.mp hstatus
    cases hrest
    exact .lifecycle rfl (ProtectionMode.lifecycle_written _)
  unfold bindFields at h
  cases hop : i.operation <;> rw [hop] at h
  case entry =>
    cases h
    exact .lifecycle rfl rfl
  case protection => exact hprotection _ h
  case partialFillProtection => exact hprotection _ h
  all_goals
    cases h
    exact .status rfl

/-- Acts that ask, and acts that give an intent its last state. -/
def Act.finishing (γ : Type) : Act γ → Prop
  | .fold (.ask _) | .finishIntent _ _ _ _ _ => True
  | _ => False

/-- The program only asks and finishes intents. -/
abbrev Finishes (m : Acting α) : Prop := m.All Act.finishing

namespace Finishes

theorem asking (m : Asking α) : Finishes (liftM m : Acting α) :=
  All.lift_of (All.lift (fun _ => trivial) m) fun _ h => h

theorem finish (id : IntentId) (state : IntentState) (error : Option String) :
    Finishes (finish id state error) :=
  .perform trivial

theorem finishWith (id : IntentId) (state : IntentState) (r : Response) (error : Option String) :
    Finishes (finishWith id state r error) :=
  .perform trivial

theorem concludeSubmission (endpoint : Endpoint) (symbol : Symbol) (params : Params)
    (id : IntentId) (answer : Response) :
    Finishes (concludeSubmission endpoint symbol params id answer) := by
  unfold SpotSidecar.concludeSubmission
  refine .bind (asking _) fun response => ?_
  split
  · exact .bind (finishWith _ _ _ _) fun _ => .pure
  · exact .bind (finish _ _ _) fun _ => .bind (asking _) fun _ => .pure

theorem recoverSubmission (endpoint : Endpoint) (symbol : Symbol) (params : Params)
    (id : IntentId) (e : Exc) : Finishes (recoverSubmission cfg endpoint symbol params id e) := by
  unfold SpotSidecar.recoverSubmission
  refine .bind (asking _) fun found => ?_
  split
  · exact concludeSubmission _ _ _ _ _
  · dsimp only
    split
    · exact .bind (finish _ _ _) fun _ => .pure
    · exact .bind (finish _ _ _) fun _ => .bind (asking _) fun _ => .pure

theorem concludeResumed (endpoint : Endpoint) (id : IntentId) (response : Response) :
    Finishes (concludeResumed endpoint id response) := by
  unfold SpotSidecar.concludeResumed
  split
  · exact .bind (finishWith _ _ _ _) fun _ => .pure
  · exact .bind (finish _ _ _) fun _ => .pure

theorem concludeCancel (p : Protection) (id : IntentId) (response : Response) :
    Finishes (concludeCancel p id response) := by
  unfold SpotSidecar.concludeCancel
  refine .bind .ofExcept fun valid => ?_
  split
  · exact .bind (finishWith _ _ _ _) fun _ => .pure
  · exact .bind (finish _ _ _) fun _ => .pure

theorem resolveCancel (i : Intent) (request : Params) : Finishes (resolveCancel i request) := by
  unfold SpotSidecar.resolveCancel
  dsimp only
  split
  · refine .bind (asking _) fun reply => .bind (asking _) fun response => ?_
    exact .bind .ensure fun _ => .perform trivial
  · refine .bind (asking _) fun reply => .bind (asking _) fun response => ?_
    exact .bind .ensure fun _ => .perform trivial

end Finishes

/-- The acts that settle what was begun: no new intent, no mark, no request. -/
def Act.settling (γ : Type) : Act γ → Prop
  | .prepareIntent _ | .markIntentSubmitting _ | .post _ => False
  | .upsertTrade _ _ f => RowWrite f
  | _ => True

/-- The program only settles what was begun. -/
abbrev Settles (m : Acting α) : Prop := m.All Act.settling

namespace Settles

theorem folding (m : Folding α) : Settles (liftM m : Acting α) :=
  All.lift (fun _ => trivial) m

theorem asking (m : Asking α) : Settles (liftM m : Acting α) :=
  All.lift (fun _ => trivial) (m.lift fun _ => Fold.ask)

theorem finishes {m : Acting α} (h : Finishes m) : Settles m :=
  h.mono fun a ha => by cases a <;> trivial

theorem upsert (id : TradeId) (pair : Pair) {f : TradeFields} (h : RowWrite f) :
    Settles (upsert id pair f) :=
  .perform h

theorem finish (id : IntentId) (state : IntentState) (error : Option String) :
    Settles (finish id state error) :=
  .perform trivial

theorem finishWith (id : IntentId) (state : IntentState) (r : Response) (error : Option String) :
    Settles (finishWith id state r error) :=
  .perform trivial

theorem concludeSubmission (endpoint : Endpoint) (symbol : Symbol) (params : Params)
    (id : IntentId) (answer : Response) :
    Settles (concludeSubmission endpoint symbol params id answer) :=
  finishes (.concludeSubmission _ _ _ _ _)

theorem recoverSubmission (endpoint : Endpoint) (symbol : Symbol) (params : Params)
    (id : IntentId) (e : Exc) : Settles (recoverSubmission cfg endpoint symbol params id e) :=
  finishes (.recoverSubmission _ _ _ _ _)

theorem concludeResumed (endpoint : Endpoint) (id : IntentId) (response : Response) :
    Settles (concludeResumed endpoint id response) :=
  finishes (.concludeResumed _ _ _)

theorem concludeCancel (p : Protection) (id : IntentId) (response : Response) :
    Settles (concludeCancel p id response) :=
  finishes (.concludeCancel _ _ _)

theorem bindConfirmedIntent (i : Intent) (response : Response) (request : Params) :
    Settles (bindConfirmedIntent i response request) := by
  unfold SpotSidecar.bindConfirmedIntent
  refine .bind (asking _) fun s => ?_
  split
  · exact .pure
  · refine .bind .ofExcept fun ids => .bind_ofExcept fun fields hfields => ?_
    refine .bind (upsert _ _ (bindFields_rowWrite hfields)) fun _ => ?_
    exact .bind (folding _) fun _ => folding _

theorem bindIntent (id : IntentId) (response : Response) (request : Params) :
    Settles (bindIntent id response request) := by
  unfold SpotSidecar.bindIntent
  refine .bind (asking _) fun s => ?_
  split
  · exact bindConfirmedIntent _ _ _
  · exact .raise

theorem bindRecovered (state : IntentState) (response : Option Response) (id : IntentId)
    (tradeId : TradeId) (pair : Pair) (mode : ProtectionMode) (request : Params)
    (status : String) :
    Settles (bindRecovered state response id tradeId pair mode request status) := by
  unfold SpotSidecar.bindRecovered
  split
  · refine .bind (bindIntent _ _ _) fun _ => upsert _ _ ?_
    exact .lifecycle rfl (ProtectionMode.lifecycle_written _)
  · exact .pure

theorem rebindChild (plan : Intent) (row : TradeRow) (child : Intent) :
    Settles (rebindChild cfg plan row child) := by
  unfold SpotSidecar.rebindChild
  refine .bind (asking _) fun reply => .bind (asking _) fun request => ?_
  refine .bind (asking _) fun response => .bind (bindConfirmedIntent _ _ _) fun _ => ?_
  refine .bind (upsert _ _ ?_) fun _ => finish _ _ _
  exact .lifecycle rfl (ProtectionMode.lifecycle_written _)

theorem abortPrepared (i : Intent) : Settles (abortPrepared i) := by
  unfold SpotSidecar.abortPrepared
  refine .bind (finish _ _ _) fun _ => ?_
  split
  · refine .bind (asking _) fun s => ?_
    split
    · exact upsert _ _ (.lifecycle rfl rfl)
    · exact .pure
  · exact .pure

theorem resolveCancel (i : Intent) (request : Params) : Settles (resolveCancel i request) :=
  finishes (.resolveCancel _ _)

theorem resolvePlacement (i : Intent) (request : Params) :
    Settles (resolvePlacement i request) := by
  unfold SpotSidecar.resolvePlacement
  refine .bind (asking _) fun reply => ?_
  split
  · exact .bind .ensure fun _ => .bind (finishWith _ _ _ _) fun _ => bindIntent _ _ _
  · exact .raise

theorem finishConversion (args : ConvertArgs) (c : Conversion) (endpoint : Endpoint)
    (params : Params) (held : ℚ) (id : IntentId) (response : Response) :
    Settles (finishConversion cfg args c endpoint params held id response) := by
  unfold SpotSidecar.finishConversion
  refine .bind (bindIntent _ _ _) fun _ => .bind .ofExcept fun ids => .bind .ofExcept fun stop => ?_
  exact .bind (upsert _ _ (.lifecycle rfl (args.lifecycle_written _))) fun _ => .pure

theorem verifyExit (plan : ExitPlan) (response : Response) :
    Settles (verifyExit plan response) := by
  unfold SpotSidecar.verifyExit
  refine .bind (folding _) fun result => ?_
  split
  · exact .pure
  · split
    · exact .pure
    · refine .bind (asking _) fun free => ?_
      split
      · exact .bind (upsert _ _ (.lifecycle rfl rfl)) fun _ => .pure
      · exact .pure

end Settles

/-- The writes of a lifecycle outside the placement of orders. A signal is approved for a trade
that satisfies `P`. -/
inductive DirectWrite (P : TradeId → Store → Prop) (s : Store) (id : TradeId) :
    TradeFields → Prop where
  | closed {l : Lifecycle} (h : l.terminal = true) (status : String) :
      DirectWrite P s id { lifecycle := some l, reconciliationStatus := some status }
  | signal (h : P id s) (mode : ProtectionMode) : DirectWrite P s id
      { lifecycle := some .signalApproved
        protectionMode := some (some mode)
        reconciliationStatus := some "SIGNAL_ACCEPTED" }

/-- The trade that a signal is approved for. -/
def Command.approving (w : World σ) : Command → Option TradeId
  | .signal _ _ id => if w.approves id then some id else none
  | _ => none

/-- An entry is submitted, and a signal approved, only for a trade that satisfies `P`. -/
def Command.Fits (P : TradeId → Store → Prop) (w : World σ) (c : Command) : Prop :=
  (∀ id ∈ c.approving w, P id w.store) ∧
    match c with
    | .submit _ id => P id w.store
    | _ => True

/-- The sites at which an invariant has to be proved. An entry is submitted for a trade that
satisfies `P`. -/
structure Sites (cfg : Config) (env : Env σ) (J : World σ → Prop)
    (P : TradeId → Store → Prop := fun _ _ => True) : Prop where
  fold : ∀ {γ} (f : Fold γ) w, J w → J (f.exec env γ w).2
  write : ∀ id pair f w, DirectWrite P w.store id f → J w →
    J (Act.exec env _ (.upsertTrade id pair f) w).2
  admits : ∀ id pair mode w, J w → P id w.store → P id (w.store.upsertTrade id pair
    { lifecycle := some .signalApproved
      protectionMode := some (some mode)
      reconciliationStatus := some "SIGNAL_ACCEPTED" })
  tables : ∀ id {s s' : Store}, s'.trades = s.trades → P id s → P id s'
  submit : ∀ symbol id, Triple (Act.exec env) (fun w => J w ∧ P id w.store)
    (submit cfg symbol id) (fun _ => J) (fun _ => J) J
  convert : ∀ symbol args, Keeps (Act.exec env) J (convert cfg symbol args)
  emergencyExit : ∀ symbol, Keeps (Act.exec env) J (emergencyExit cfg symbol)
  placePartialProtection : ∀ symbol,
    Keeps (Act.exec env) J (placePartialProtection cfg symbol)
  cancelEntryList : ∀ row symbol operation, operation ≠ .replaceProtection →
    Keeps (Act.exec env) J (cancelEntryList cfg row symbol operation)
  resolveIntent : ∀ i, Triple (Act.exec env) (fun w => J w ∧ w.store.Knows i)
    (resolveIntent cfg i) (fun _ => J) (fun _ => J) J
  resumePreparedReplacement : ∀ i, i.operation = .replaceProtection → i.state = .prepared →
    Triple (Act.exec env) (fun w => J w ∧ w.store.Knows i)
      (resumePreparedReplacement cfg i) (fun _ => J) (fun _ => J) J

section partials
variable (hfold : ∀ {γ} (f : Fold γ) w, J w → J (f.exec env γ w).2)
  (hopen : ∀ id pair, Keeps (Act.exec env) J (upsert id pair
    { lifecycle := some .protectionActive
      reconciliationStatus := some "ENTRY_FILLED_AND_PENDING_PROTECTION_VERIFIED_OPEN" }))
  (hcancel : ∀ row symbol, Keeps (Act.exec env) J
    (cancelEntryList cfg row symbol .cancelPartialEntry))
  (hprotect : ∀ row symbol pair rules,
    Keeps (Act.exec env) J (protectFilled cfg row symbol pair rules))
include hfold

theorem keeps_cancelPartialEntry
    (hcancel : ∀ row symbol, Keeps (Act.exec env) J
      (cancelEntryList cfg row symbol .cancelPartialEntry))
    (row : TradeRow) (symbol : Symbol) :
    Keeps (Act.exec env) J (cancelPartialEntry cfg row symbol) := by
  unfold SpotSidecar.cancelPartialEntry
  refine .bind (hcancel _ _) ?_
  rintro ⟨canceled, detail⟩
  dsimp only
  split
  · refine .bind .ofExcept fun id =>
      .bind (keeps_asking (fun a => hfold (.ask a)) _) fun reply => ?_
    refine .bind Keeps.ofExcept fun event => ?_
    split
    · split
      · exact .bind (keeps_folding hfold _) fun row => .pure
      · exact .pure
    · exact .pure
  · exact .pure

include hopen hcancel hprotect

theorem keeps_settlePartial (row : TradeRow) (entry : Report) (symbol : Symbol) (pair : Pair)
    (rules : SymbolRules) :
    Keeps (Act.exec env) J (settlePartial cfg row entry symbol pair rules) := by
  have hask : ∀ {β : Type} (m : Asking β), Keeps (Act.exec env) J (liftM m : Acting β) :=
    fun m => keeps_asking (fun a => hfold (.ask a)) m
  unfold SpotSidecar.settlePartial
  refine .bind (hask _) fun orders => .bind (hask _) fun lists => ?_
  refine .bind (hask _) fun isOpen => ?_
  split
  · exact .bind (hopen _ _) fun _ => .pure
  · split
    · exact .pure
    · refine .bind (hask _) fun lists => .bind (hask _) fun originalOpen => ?_
      split
      · refine .bind (keeps_cancelPartialEntry hfold hcancel _ _) fun canceled => ?_
        split
        · exact hprotect _ _ _ _
        · exact .pure
      · split
        · exact hprotect _ _ _ _
        · exact .pure

/-- What keeps an invariant at the writes of `_place_partial_protection`. -/
theorem keeps_placePartialProtection (symbol : Symbol) :
    Keeps (Act.exec env) J (placePartialProtection cfg symbol) := by
  have hask : ∀ {β : Type} (m : Asking β), Keeps (Act.exec env) J (liftM m : Acting β) :=
    fun m => keeps_asking (fun a => hfold (.ask a)) m
  unfold SpotSidecar.placePartialProtection
  refine .bind (hask _) fun s => .bind .ofExcept fun found => ?_
  split
  · exact .pure
  · refine .bind (hask _) fun active => .bind (hask _) fun rules => ?_
    refine .bind (hask _) fun entry => .bind .ofExcept fun id => ?_
    split
    · exact .pure
    · refine .bind .ofExcept fun event => ?_
      split
      · exact .pure
      · refine .bind (keeps_folding hfold _) fun row => ?_
        exact keeps_settlePartial hfold hopen hcancel hprotect _ _ _ _ _

end partials

namespace Sites
variable {P : TradeId → Store → Prop} (h : Sites cfg env J P)
include h

theorem ask (a : Ask γ) (w : World σ) (hw : J w) : J (a.exec env γ w).2 := h.fold (.ask a) w hw

theorem asking (m : Asking α) : Keeps (Act.exec env) J (liftM m : Acting α) :=
  keeps_asking (fun a w hw => h.ask a w hw) m

theorem folding (m : Folding α) : Keeps (Act.exec env) J (liftM m : Acting α) :=
  keeps_folding (fun f w hw => h.fold f w hw) m

theorem upsert_closed {l : Lifecycle} (hl : l.terminal = true) (id : TradeId) (pair : Pair)
    (status : String) : Keeps (Act.exec env) J
      (upsert id pair { lifecycle := some l, reconciliationStatus := some status }) :=
  fun w hw => ⟨hw, h.write id pair _ w (.closed hl status) hw⟩

theorem settleStale (row : TradeRow) (symbol : Symbol) (executed : ℚ) (status : OrderStatus) :
    Keeps (Act.exec env) J (settleStale cfg row symbol executed status) := by
  unfold SpotSidecar.settleStale
  split
  · exact .bind (h.asking _) fun _ => .bind (h.asking _) fun _ => h.placePartialProtection _
  · refine .bind ?_ fun _ => .pure
    unfold rejectUnfilled
    refine .bind (h.asking _) fun s => ?_
    split
    · exact h.upsert_closed rfl _ _ _
    · exact .pure

theorem cancelStaleEntry (row : TradeRow) (symbol : Symbol) :
    Keeps (Act.exec env) J (cancelStaleEntry cfg row symbol) := by
  unfold SpotSidecar.cancelStaleEntry
  refine .bind (h.cancelEntryList _ _ _ (by decide)) ?_
  rintro ⟨canceled, detail⟩
  dsimp only
  split
  · refine .bind .ofExcept fun id => .bind (h.asking _) fun reply => ?_
    refine .bind (h.asking _) fun entry => ?_
    split
    · exact .pure
    · refine .bind .ofExcept fun event => ?_
      split
      · exact .pure
      · refine .bind (h.folding _) fun _ => .bind .ofExcept fun executed => ?_
        split
        · exact .pure
        · exact h.settleStale _ _ _ _
  · exact .pure

theorem expireLateEntry (row : TradeRow) (symbol : Symbol) :
    Keeps (Act.exec env) J (expireLateEntry cfg row symbol) := by
  unfold SpotSidecar.expireLateEntry
  refine .bind (h.asking _) fun entry => .bind .ofExcept fun id => ?_
  split
  · exact .pure
  · refine .bind .ofExcept fun event => ?_
    split
    · exact .pure
    · refine .bind (h.folding _) fun _ => .bind .ofExcept fun executed => ?_
      split
      · exact .pure
      · split
        · exact h.settleStale _ _ _ _
        · exact h.cancelStaleEntry _ _

theorem expireStaleEntry (row : TradeRow) : Keeps (Act.exec env) J (expireStaleEntry cfg row) := by
  unfold SpotSidecar.expireStaleEntry
  split
  · exact .pure
  · refine .bind (h.asking _) fun now => ?_
    split
    · exact .pure
    · exact h.expireLateEntry _ _

theorem resolveOperationIntents : Keeps (Act.exec env) J (resolveOperationIntents cfg) := by
  unfold SpotSidecar.resolveOperationIntents
  have hread : ∀ p : Intent → Bool, ∀ s : Store, ∀ w : World σ, J w ∧ s = w.store →
      J w ∧ ∀ i ∈ s.unresolvedIntents.filter p, w.store.Knows i := by
    rintro p s w ⟨hw, rfl⟩
    refine ⟨hw, fun i hi => ?_⟩
    exact Store.knows_of_mem (List.mem_of_mem_filter (List.mem_of_mem_filter hi))
  refine Triple.bind (triple_theStore fun _ hw => hw) fun s => ?_
  refine Triple.bind (Triple.weaken (triple_eachIntent _ fun i _ => h.resolveIntent i)
    fun w hw => ?_) fun answers => ?_
  · have := hread (fun _ => true) s w hw
    rwa [List.filter_true] at this
  · refine Triple.bind (triple_theStore fun _ hw => hw) fun s => ?_
    refine Triple.bind (Triple.weaken (triple_eachIntent _ fun i hi => ?_) fun w hw =>
      hread _ s w hw) fun answers => ?_
    · have hplan : i.state = .prepared ∧ i.operation = .replaceProtection := by
        simpa using List.of_mem_filter hi
      exact h.resumePreparedReplacement i hplan.2 hplan.1
    · exact Keeps.bind (h.asking _) fun s => .pure

theorem reconcileExit (row : TradeRow) (i : Intent) (orderId : ℤ) :
    Keeps (Act.exec env) J (reconcileExit cfg row i orderId) := by
  unfold SpotSidecar.reconcileExit
  refine .bind (h.asking _) fun rules => .bind (h.asking _) fun reply => ?_
  refine .bind (h.asking _) fun order => .bind .ofExcept fun found => ?_
  refine .bind (.ensure) fun _ => .bind (.ensure) fun _ => ?_
  refine .bind (.ensure) fun _ => .bind .ofExcept fun executed => ?_
  split
  · exact .raise
  · refine .bind (.ensure) fun _ => .bind (.ensure) fun _ => ?_
    refine .bind .ofExcept fun origQty => ?_
    split
    · exact .bind (h.folding _) fun _ => .bind (h.upsert_closed rfl _ _ _) fun _ => .pure
    · exact .pure

theorem reconcileConfirmedEmergencyExits :
    Keeps (Act.exec env) J (reconcileConfirmedEmergencyExits cfg) := by
  unfold SpotSidecar.reconcileConfirmedEmergencyExits
  refine .bind (h.asking _) fun s => .bind (.each fun row _ => ?_) fun _ => .pure
  unfold SpotSidecar.reconcileExits
  refine .bind (h.asking _) fun s => ?_
  dsimp only
  split
  · exact .pure
  · refine .bind .ofExcept fun id => ?_
    split
    · exact .pure
    · refine .bind (.attempt (h.reconcileExit _ _ _)) fun result => ?_
      split <;> exact .pure

theorem controlStaleEntry (row : TradeRow) :
    Keeps (Act.exec env) J (controlStaleEntry cfg row) := by
  unfold SpotSidecar.controlStaleEntry
  refine .bind (.attempt (.bind (h.asking _) fun stale => ?_)) fun result => ?_
  · split
    · exact h.expireStaleEntry _
    · exact .pure
  · split <;> exact .pure

theorem recoverPartial (symbol : Symbol) : Keeps (Act.exec env) J (recoverPartial cfg symbol) := by
  unfold SpotSidecar.recoverPartial
  refine .bind (.attempt (h.placePartialProtection _)) fun result => ?_
  split
  · exact .bind (h.asking _) fun _ => .pure
  · exact .pure

theorem verifiedReconcile : Keeps (Act.exec env) J (verifiedReconcile cfg) := by
  unfold SpotSidecar.verifiedReconcile
  refine .bind h.resolveOperationIntents fun resolution => .bind (h.folding _) fun _ => ?_
  refine .bind h.reconcileConfirmedEmergencyExits fun emergency => .bind (h.asking _) fun s => ?_
  refine .bind (.each fun row _ => h.controlStaleEntry row) fun stale => ?_
  refine .bind (h.asking _) fun m =>
    .bind (.each fun symbol _ => h.recoverPartial symbol) fun _ => ?_
  exact h.asking _

theorem tick : Keeps (Act.exec env) J (tick cfg) := by
  unfold SpotSidecar.tick
  refine .bind ?_ fun _ => .bind (h.asking _) fun s => ?_
  · unfold SpotSidecar.tickAccount
    refine .bind (h.asking _) fun m => ?_
    split
    · exact .pure
    · refine .bind (h.asking _) fun now => ?_
      split
      · exact .bind (h.asking _) fun _ => .bind h.verifiedReconcile fun _ => .pure
      · exact .pure
  · refine .bind (.each fun row _ => ?_) fun _ => .bind (h.asking _) fun m => ?_
    · unfold SpotSidecar.tickEntry
      refine .bind (.attempt (h.expireStaleEntry _)) fun result => ?_
      split
      · exact .pure
      · exact h.asking _
    · refine .bind (h.asking _) fun s => .bind (.each fun symbol _ => h.recoverPartial symbol) ?_
      exact fun _ => .pure

theorem start : Keeps (Act.exec env) J (start cfg) := by
  unfold SpotSidecar.start
  refine .bind (h.asking _) fun active => .bind (h.asking _) fun rules => ?_
  refine .bind (h.asking _) fun s => .bind (h.asking _) fun _ => .bind (h.asking _) fun _ => ?_
  refine .bind (h.asking _) fun _ => .bind (h.asking _) fun _ => ?_
  refine .bind h.verifiedReconcile fun result => ?_
  split
  · exact h.asking _
  · exact .raise

theorem setEnabled (on : Bool) : Keeps (Act.exec env) J (setEnabled cfg on) := by
  unfold SpotSidecar.setEnabled
  split
  · refine .bind (h.asking _) fun s => ?_
    split
    · exact .pure
    · refine .bind (h.asking _) fun risk => ?_
      split
      · exact .pure
      · refine .bind h.verifiedReconcile fun result => ?_
        split
        · exact .pure
        · refine .bind (h.asking _) fun s => ?_
          split
          · exact .pure
          · exact .bind (h.asking _) fun _ => .pure
  · exact .bind (h.asking _) fun _ => .pure

/-- The first write of an approved signal. -/
theorem upsert_signal (id : TradeId) (pair : Pair) (mode : ProtectionMode) :
    Triple (Act.exec env) (fun w => J w ∧ P id w.store)
      (upsert id pair
        { lifecycle := some .signalApproved
          protectionMode := some (some mode)
          reconciliationStatus := some "SIGNAL_ACCEPTED" })
      (fun _ w => J w ∧ P id w.store) (fun _ => J) J :=
  fun w hw =>
    ⟨hw.1, h.write id pair _ w (.signal hw.2 mode) hw.1, h.admits id pair mode w hw.1 hw.2⟩

theorem submitSignal (symbol : Symbol) (pair : Pair) (id : TradeId) :
    Triple (Act.exec env) (fun w => J w ∧ P id w.store) (submitSignal cfg symbol pair id)
      (fun _ => J) (fun _ => J) J := by
  have hask : ∀ {β : Type} (m : Asking β), Triple (Act.exec env) (fun w => J w ∧ P id w.store)
      (liftM m : Acting β) (fun _ w => J w ∧ P id w.store) (fun _ => J) J := by
    intro β m
    have hkeep : Keeps (Act.exec env) (fun w => J w ∧ P id w.store) (liftM m : Acting β) :=
      keeps_asking (fun a w hw => ⟨h.ask a w hw.1, h.tables id (Ask.exec_cases env a w).1 hw.2⟩) m
    exact hkeep.conseq (fun _ hw => hw) (fun _ _ hw => hw) (fun _ _ hw => hw.1) fun _ hw => hw.1
  unfold SpotSidecar.submitSignal
  refine Triple.bind (hask _) fun _ => Triple.bind (hask _) fun s => ?_
  refine Triple.bind (h.upsert_signal id pair _) fun _ => ?_
  refine Triple.bind (h.submit _ _) ?_
  rintro ⟨accepted, message⟩
  refine Keeps.bind (h.asking _) fun _ => .bind (h.asking _) fun _ => ?_
  dsimp only
  split
  · refine .bind ?_ fun _ => .pure
    unfold rejectUnsubmitted
    refine .bind (h.asking _) fun s => .bind .ofExcept fun current => ?_
    split
    · exact h.upsert_closed rfl _ _ _
    · exact .pure
  · exact .bind .pure fun _ => .pure

theorem processSignal (symbol : Symbol) (pair : Pair) (id : TradeId) :
    Triple (Act.exec env) (fun w => J w ∧ (w.approves id = true → P id w.store))
      (processSignal cfg symbol pair id) (fun _ => J) (fun _ => J) J :=
  triple_processSignal (fun a w hw => h.ask a w hw) (fun _ hw => hw.1)
    (fun w hw happroved => ⟨h.ask _ w hw.1, hw.2 happroved⟩) (h.submitSignal symbol pair id)

/-- An invariant of the sites is an invariant of every command. -/
theorem command (c : Command) : Triple (Act.exec env) (fun w => J w ∧ c.Fits P w)
    (c.program cfg) (fun _ => J) (fun _ => J) J := by
  have hkeep : ∀ {m : Acting Unit}, Keeps (Act.exec env) J m → Triple (Act.exec env)
      (fun w => J w ∧ c.Fits P w) m (fun _ => J) (fun _ => J) J :=
    fun hm => hm.weaken fun _ hw => hw.1
  cases c with
  | start => exact hkeep h.start
  | restart => exact hkeep .pure
  | setEnabled on => exact hkeep (keeps_drop (h.setEnabled on))
  | setEntries on => exact hkeep (h.asking _)
  | setMode mode => exact hkeep (h.asking _)
  | signal symbol pair id =>
    refine Triple.bind
      ((h.processSignal symbol pair id).weaken fun w hw => ⟨hw.1, fun happroved => ?_⟩)
      fun _ => .pure fun _ hw => hw
    exact hw.2.1 id (if_pos happroved)
  | submit symbol id =>
    exact Triple.bind ((h.submit symbol id).weaken fun w hw => ⟨hw.1, hw.2.2⟩)
      fun _ => .pure fun _ hw => hw
  | convert symbol args => exact hkeep (keeps_drop (h.convert symbol args))
  | tick => exact hkeep h.tick
  | emergencyExit symbol => exact hkeep (keeps_drop (h.emergencyExit symbol))
  | verifiedReconcile => exact hkeep (keeps_drop h.verifiedReconcile)
  | orderUpdate e => exact hkeep (h.folding _)
  | listUpdate e => exact hkeep (h.folding _)
  | accountUpdate => exact hkeep (h.asking _)
  | resync => exact hkeep (h.asking _)

/-- An invariant of the sites that holds at first and survives the beginning of a step and
the death of the process holds after every run of commands that fit. -/
theorem runSteps_of_fits (e : σ) (steps : List Step) (hinit : J { env := e })
    (hbegan : ∀ w, J w → J (w.note .began)) (hrestart : ∀ w, J w → J w.restart)
    (hfits : ∀ before s, before ++ [s] <+: steps →
      s.command.Fits P (SpotSidecar.runSteps cfg env e before)) :
    J (SpotSidecar.runSteps cfg env e steps) :=
  runSteps_of_triples (F := fun c w => c.Fits P w) h.command (fun _ _ hfit => hfit) e steps hinit
    hbegan hrestart hfits

end Sites

/-- An invariant of the sites holds after every run. -/
theorem Sites.runSteps (h : Sites cfg env J) (e : σ) (steps : List Step) (hinit : J { env := e })
    (hbegan : ∀ w, J w → J (w.note .began)) (hrestart : ∀ w, J w → J w.restart) :
    J (SpotSidecar.runSteps cfg env e steps) :=
  h.runSteps_of_fits e steps hinit hbegan hrestart fun _ s _ =>
    ⟨fun _ _ => trivial, by cases s.command <;> trivial⟩

end SpotSidecar
