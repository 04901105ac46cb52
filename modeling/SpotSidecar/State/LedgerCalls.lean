import SpotSidecar.Interaction.Transaction
import SpotSidecar.Safety.Ledger

/-! The calls that write the intent ledger, statement by statement, over whole runs with calls that
raise. -/
namespace SpotSidecar
open Transaction

/-- `sqlite3.Error` -/
def databaseError : Exc := { kind := .runtime, text := "database error" }

abbrev LedgerTx (α : Type) := Tx Exc Store α

namespace Store

/-- The store with the time of its last write. -/
def stamp (s : Store) (now : ℕ) : Store := { s with clock := now }

/-- The statement `INSERT OR IGNORE`, with its row count. -/
def insertOrIgnore (d : IntentDraft) (now : ℕ) (s : Store) : ℕ × Store :=
  if h : s.intent d.intentId = none then (1, (s.stamp now).insertIntent (d.row now) h) else (0, s)

/-- The statement `UPDATE operation_intents SET .. WHERE`, with its row count. -/
def updateWhere (p : Intent → Bool) (f : Intent → Intent) (h : ∀ i, (f i).intentId = i.intentId)
    (now : ℕ) (s : Store) : ℕ × Store :=
  (s.intents.countP p, if s.intents.any p then
    (s.stamp now).mapIntents (fun i => if p i then f i else i) fun i => by
      split
      · exact h i
      · rfl
    else s)

end Store

/-- `WHERE intent_id=? AND state='PREPARED'` -/
def Intent.preparedAs (id : IntentId) (i : Intent) : Bool := i.intentId = id && i.state = .prepared

/-- The body of `prepare_intent`. -/
def prepareIntentTx (d : IntentDraft) (now : ℕ) : LedgerTx Bool := do
  let cur ← statement databaseError (Store.insertOrIgnore d now)
  match d.closeParentIntentId with
  | none => return cur = 1
  | some parent =>
    if cur = 1 then
      let closed ← statement databaseError (Store.updateWhere (Intent.preparedAs parent)
        (Intent.closedBy now) (Intent.closedBy_intentId now) now)
      if closed ≠ 1 then
        raise { kind := .runtime
                text := "replacement parent was not uniquely PREPARED; child intent rolled back" }
      else return true
    else return false

/-- The body of `mark_intent_submitting`. -/
def markIntentSubmittingTx (id : IntentId) (now : ℕ) : LedgerTx Unit := do
  let cur ← statement databaseError (Store.updateWhere (Intent.preparedAs id)
    (Intent.marked now) (Intent.marked_intentId now) now)
  if cur ≠ 1 then raise { kind := .runtime, text := "intent is not uniquely PREPARED" }
  else return ()

/-- The body of `finish_intent`. -/
def finishIntentTx (id : IntentId) (state : IntentState) (orderId listId : Ident)
    (error : Option String) (now : ℕ) : LedgerTx Unit := do
  let cur ← statement databaseError (Store.updateWhere (·.intentId = id)
    (Intent.finish state orderId listId error now) (Intent.finish_intentId _ _ _ _ _) now)
  if cur ≠ 1 then raise { kind := .runtime, text := "unknown intent" }
  else return ()

/-- A call with what it is given. -/
inductive LedgerCall where
  | prepare (d : IntentDraft)
  | mark (id : IntentId)
  | finish (id : IntentId) (state : IntentState) (orderId listId : Ident) (error : Option String)
  deriving DecidableEq, Repr

/-- A call and the statement at which the database fails, if it does. The answer has what
`prepare_intent` returns. -/
def LedgerCall.exec (failsIn : Option ℕ) (s : Store) : LedgerCall → Except Exc (Option Bool) × Store
  | .prepare d =>
    let (answer, s) := connect databaseError failsIn (prepareIntentTx d (s.clock + 1)) s
    (answer.map some, s)
  | .mark id =>
    let (answer, s) := connect databaseError failsIn (markIntentSubmittingTx id (s.clock + 1)) s
    (answer.map fun _ => none, s)
  | .finish id state orderId listId error =>
    if !state.finished then
      (.error { kind := .value, text := "unsupported terminal intent state" }, s)
    else
      let (answer, s) := connect databaseError failsIn
        (finishIntentTx id state orderId listId error (s.clock + 1)) s
      (answer.map fun _ => none, s)

section refinement
variable {s s' : Store} {failsIn : Option ℕ}

/-- What a function of the store leaves when it raises. -/
def settled {α : Type} (s : Store) : Except Exc (α × Store) → Except Exc α × Store
  | .ok (a, s') => (.ok a, s')
  | .error e => (.error e, s)

/-- A row is found by its key once or not at all. -/
theorem Store.countP_intents (s : Store) (id : IntentId) {p : Intent → Bool}
    (hp : ∀ i, p i = true → i.intentId = id) :
    s.intents.countP p = if s.intents.any p then 1 else 0 := by
  have hle : s.intents.countP p ≤ 1 := by
    calc s.intents.countP p ≤ s.intents.countP (fun i => i.intentId == id) := by
          apply List.countP_mono_left
          intro i _ hi
          simpa using hp i hi
      _ = (s.intents.map (·.intentId)).count id := by
          rw [List.count, List.countP_map]
          rfl
      _ ≤ 1 := List.nodup_iff_count_le_one.mp s.intents_nodup id
  by_cases hany : s.intents.any p = true
  · have hpos : 0 < s.intents.countP p := by
      rw [List.countP_pos_iff]
      simpa using hany
    rw [if_pos hany]
    omega
  · have hzero : s.intents.countP p = 0 := by
      rw [List.countP_eq_zero]
      intro i hi hpi
      exact hany (List.any_eq_true.mpr ⟨i, hi, hpi⟩)
    rw [if_neg hany, hzero]

theorem Intent.preparedAs_id {id : IntentId} {i : Intent} (h : i.preparedAs id = true) :
    i.intentId = id := by
  simp only [Intent.preparedAs, Bool.and_eq_true, decide_eq_true_eq] at h
  exact h.1

/-- The `WHERE` of a statement and the condition of the model's row function are one. -/
theorem Store.updateWhere_prepared (s : Store) (id : IntentId) (f : Intent → Intent)
    (h : ∀ i, (f i).intentId = i.intentId) (hf : ∀ i, i.state ≠ .prepared → f i = i) (now : ℕ) :
    s.updateWhere (Intent.preparedAs id) f h now =
      if s.intents.any (Intent.preparedAs id) then (1, (s.stamp now).updateIntent id f h)
      else (0, s) := by
  unfold updateWhere
  rw [s.countP_intents id (fun i hi => Intent.preparedAs_id hi)]
  split
  · congr 1
    unfold updateIntent
    congr 1
    funext i
    by_cases hid : i.intentId = id
    · by_cases hstate : i.state = .prepared
      · simp [Intent.preparedAs, hid, hstate]
      · simp [Intent.preparedAs, hid, hstate, hf i hstate]
    · simp [Intent.preparedAs, hid]
  · rfl

theorem run_statement {α : Type} (run : Store → α × Store) (s : Store) :
    statement databaseError run ⟨s, none⟩ = (.ok (run s).1, ⟨(run s).2, none⟩) := rfl

theorem Store.insertOrIgnore_new (s : Store) {d : IntentDraft} (h : s.intent d.intentId = none) :
    s.insertOrIgnore d (s.clock + 1) =
      (1, s.tick.insertIntent (d.row (s.clock + 1)) (tick_intent h)) := by
  unfold insertOrIgnore
  rw [dif_pos h]
  rfl

theorem Store.insertOrIgnore_known (s : Store) {d : IntentDraft} (now : ℕ)
    (h : s.intent d.intentId ≠ none) : s.insertOrIgnore d now = (0, s) := by
  unfold insertOrIgnore
  rw [dif_neg h]

/-- Statement by statement, `prepare_intent` is the transaction of the store. -/
theorem connect_prepareIntentTx (s : Store) (d : IntentDraft) :
    connect databaseError none (prepareIntentTx d (s.clock + 1)) s =
      settled s (s.prepareIntent d) := by
  have hinsert := run_statement (Store.insertOrIgnore d (s.clock + 1)) s
  unfold connect prepareIntentTx
  rw [bind_ok hinsert]
  by_cases hnew : s.intent d.intentId = none
  · have hrow := s.insertOrIgnore_new hnew
    simp only [hrow, Store.prepareIntent, dif_pos hnew]
    cases hparent : d.closeParentIntentId with
    | none => rfl
    | some parent =>
      have hupdate := run_statement (Store.updateWhere (Intent.preparedAs parent)
        (Intent.closedBy (s.clock + 1)) (Intent.closedBy_intentId _) (s.clock + 1))
        (s.tick.insertIntent (d.row (s.clock + 1)) (Store.tick_intent hnew))
      rw [Store.updateWhere_prepared _ _ _ _ (fun i hi => by rw [Intent.closedBy, if_neg hi])]
        at hupdate
      simp only [if_true]
      by_cases hany : (s.tick.insertIntent (d.row (s.clock + 1))
          (Store.tick_intent hnew)).intents.any (Intent.preparedAs parent) = true
      · rw [if_pos hany] at hupdate
        rw [bind_ok hupdate]
        apply Eq.trans _ (congrArg (settled s) (if_pos hany).symm)
        rfl
      · rw [if_neg hany] at hupdate
        rw [bind_ok hupdate]
        apply Eq.trans _ (congrArg (settled s) (if_neg hany).symm)
        rfl
  · have hrow := s.insertOrIgnore_known (s.clock + 1) hnew
    simp only [hrow, Store.prepareIntent, dif_neg hnew]
    cases d.closeParentIntentId with
    | none => rfl
    | some parent => rfl

theorem connect_markIntentSubmittingTx (s : Store) (id : IntentId) :
    connect databaseError none (markIntentSubmittingTx id (s.clock + 1)) s =
      settled s ((s.markIntentSubmitting id).map fun s' => ((), s')) := by
  have hupdate := run_statement (Store.updateWhere (Intent.preparedAs id)
    (Intent.marked (s.clock + 1)) (Intent.marked_intentId _) (s.clock + 1)) s
  rw [Store.updateWhere_prepared _ _ _ _ (fun i hi => by rw [Intent.marked, if_neg hi])] at hupdate
  unfold connect markIntentSubmittingTx Store.markIntentSubmitting
  by_cases hany : s.intents.any (Intent.preparedAs id) = true
  · rw [if_pos hany] at hupdate
    rw [bind_ok hupdate]
    apply Eq.trans _ (congrArg (fun r => settled s (Except.map _ r)) (if_pos hany).symm)
    rfl
  · rw [if_neg hany] at hupdate
    rw [bind_ok hupdate]
    apply Eq.trans _ (congrArg (fun r => settled s (Except.map _ r)) (if_neg hany).symm)
    rfl

theorem connect_finishIntentTx (s : Store) (id : IntentId) {state : IntentState}
    (hstate : state.finished = true) (orderId listId : Ident) (error : Option String) :
    connect databaseError none (finishIntentTx id state orderId listId error (s.clock + 1)) s =
      settled s ((s.finishIntent id state orderId listId error).map fun s' => ((), s')) := by
  have hupdate := run_statement (Store.updateWhere (·.intentId = id)
    (Intent.finish state orderId listId error (s.clock + 1)) (Intent.finish_intentId _ _ _ _ _)
    (s.clock + 1)) s
  rw [Store.updateWhere, s.countP_intents id (fun i hi => by simpa using hi)] at hupdate
  unfold connect finishIntentTx Store.finishIntent
  have hfinished : ¬(!state.finished) = true := by simp [hstate]
  rw [if_neg hfinished]
  by_cases hany : s.intents.any (·.intentId = id) = true
  · rw [if_pos hany] at hupdate
    rw [bind_ok hupdate, if_pos hany]
    have hrows : (s.stamp (s.clock + 1)).mapIntents
        (fun i => if decide (i.intentId = id) = true then
          i.finish state orderId listId error (s.clock + 1) else i)
        (fun i => by split <;> rfl) =
        s.tick.updateIntent id (Intent.finish state orderId listId error (s.clock + 1))
          (Intent.finish_intentId _ _ _ _ _) := by
      unfold Store.updateIntent
      congr 1
      funext i
      simp
    rw [if_pos hany, hrows]
    rfl
  · rw [if_neg hany] at hupdate
    rw [bind_ok hupdate]
    apply Eq.trans _ (congrArg (fun r => settled s (Except.map _ r)) (if_neg hany).symm)
    rfl

theorem prepareIntentTx_robust (d : IntentDraft) (now : ℕ) :
    Robust databaseError (prepareIntentTx d now) := by
  apply Robust.bind (Robust.statement _)
  intro cur
  cases d.closeParentIntentId with
  | none => exact Robust.pure _
  | some parent =>
    by_cases hcur : cur = 1
    · simp only [hcur, if_true]
      apply Robust.bind (Robust.statement _)
      intro closed
      by_cases hclosed : closed = 1
      · simp only [hclosed, ne_eq, not_true, if_false]
        exact Robust.pure _
      · simp only [ne_eq, hclosed, not_false_iff, if_true]
        exact Robust.raise _
    · simp only [hcur, if_false]
      exact Robust.pure _

/-- One update that must find its row. -/
theorem robust_update (run : Store → ℕ × Store) (e : Exc) :
    Robust databaseError (do
      let cur ← statement databaseError run
      if cur ≠ 1 then raise e else pure () : LedgerTx Unit) := by
  apply Robust.bind (Robust.statement _)
  intro cur
  by_cases hcur : cur = 1
  · simp only [hcur, ne_eq, not_true, if_false]
    exact Robust.pure _
  · simp only [ne_eq, hcur, not_false_iff, if_true]
    exact Robust.raise _

/-- A transaction that succeeds has run as if nothing could fail. -/
theorem connect_ok {α : Type} {tx : LedgerTx α} {r : Except Exc (α × Store)} {a : α}
    (htx : Robust databaseError tx) (hnone : connect databaseError none tx s = settled s r)
    (h : connect databaseError failsIn tx s = (.ok a, s')) : r = .ok (a, s') := by
  rcases htx.connect failsIn s with hlost | hsame
  · rw [hlost] at h
    cases (Prod.mk.inj h).1
  · rw [hsame, hnone] at h
    cases r with
    | error e => cases (Prod.mk.inj h).1
    | ok p =>
      obtain ⟨a', s''⟩ := p
      obtain ⟨ha, hs⟩ := Prod.mk.inj h
      rw [Except.ok.inj ha, hs]

namespace LedgerCall

theorem exec_prepare {d : IntentDraft} {answer : Option Bool}
    (h : (prepare d).exec failsIn s = (.ok answer, s')) :
    ∃ b, answer = some b ∧ s.prepareIntent d = .ok (b, s') := by
  cases hc : connect databaseError failsIn (prepareIntentTx d (s.clock + 1)) s with
  | mk result t =>
    simp only [exec, hc] at h
    obtain ⟨hresult, rfl⟩ := Prod.mk.inj h
    cases result with
    | error e => cases hresult
    | ok b =>
      have hprepare := connect_ok (prepareIntentTx_robust d _) (connect_prepareIntentTx s d) hc
      exact ⟨b, (Except.ok.inj hresult).symm, hprepare⟩

theorem exec_mark {id : IntentId} {answer : Option Bool}
    (h : (mark id).exec failsIn s = (.ok answer, s')) :
    answer = none ∧ s.markIntentSubmitting id = .ok s' := by
  cases hc : connect databaseError failsIn (markIntentSubmittingTx id (s.clock + 1)) s with
  | mk result t =>
    simp only [exec, hc] at h
    obtain ⟨hresult, rfl⟩ := Prod.mk.inj h
    cases result with
    | error e => cases hresult
    | ok u =>
      have hmark := connect_ok (robust_update _ _) (connect_markIntentSubmittingTx s id) hc
      cases hstore : s.markIntentSubmitting id with
      | error e => simp [hstore, Except.map] at hmark
      | ok t' =>
        simp only [hstore, Except.map, Except.ok.injEq, Prod.mk.injEq] at hmark
        exact ⟨(Except.ok.inj hresult).symm, by rw [hmark.2]⟩

theorem exec_finish {id : IntentId} {state : IntentState} {orderId listId : Ident}
    {error : Option String} {answer : Option Bool}
    (h : (finish id state orderId listId error).exec failsIn s = (.ok answer, s')) :
    answer = none ∧ s.finishIntent id state orderId listId error = .ok s' := by
  by_cases hstate : state.finished = true
  · have hfinished : ¬(!state.finished) = true := by simp [hstate]
    cases hc : connect databaseError failsIn
        (finishIntentTx id state orderId listId error (s.clock + 1)) s with
    | mk result t =>
      simp only [exec, if_neg hfinished, hc] at h
      obtain ⟨hresult, rfl⟩ := Prod.mk.inj h
      cases result with
      | error e => cases hresult
      | ok u =>
        have hfinish := connect_ok (robust_update _ _)
          (connect_finishIntentTx s id hstate orderId listId error) hc
        cases hstore : s.finishIntent id state orderId listId error with
        | error e => simp [hstore, Except.map] at hfinish
        | ok t' =>
          simp only [hstore, Except.map, Except.ok.injEq, Prod.mk.injEq] at hfinish
          exact ⟨(Except.ok.inj hresult).symm, by rw [hfinish.2]⟩
  · have hunsupported : (!state.finished) = true := by simpa using hstate
    rw [exec, if_pos hunsupported] at h
    cases (Prod.mk.inj h).1

/-- A call that raises, of itself or by the database, leaves the store as it was. -/
theorem exec_error {c : LedgerCall} {e : Exc} (h : (c.exec failsIn s).1 = .error e) :
    (c.exec failsIn s).2 = s := by
  cases c with
  | prepare d =>
    simp only [exec] at h ⊢
    cases hresult : (connect databaseError failsIn (prepareIntentTx d (s.clock + 1)) s).1 with
    | error e' => exact connect_error hresult
    | ok b => simp [hresult, Except.map] at h
  | mark id =>
    simp only [exec] at h ⊢
    cases hresult : (connect databaseError failsIn
      (markIntentSubmittingTx id (s.clock + 1)) s).1 with
    | error e' => exact connect_error hresult
    | ok b => simp [hresult, Except.map] at h
  | finish id state orderId listId error =>
    simp only [exec] at h ⊢
    split at h
    · next hunsupported => rw [if_pos hunsupported]
    · next hfinished =>
      rw [if_neg hfinished]
      cases hresult : (connect databaseError failsIn
          (finishIntentTx id state orderId listId error (s.clock + 1)) s).1 with
      | error e' => exact connect_error hresult
      | ok b => simp [hresult, Except.map] at h

/-- No call loses an intent, changes its request or takes it back to PREPARED. -/
theorem exec_ledgerLe (c : LedgerCall) (failsIn : Option ℕ) (s : Store) :
    Store.LedgerLe s (c.exec failsIn s).2 := by
  cases hexec : c.exec failsIn s with
  | mk result s' =>
    cases result with
    | error e =>
      have hsame := exec_error (congrArg Prod.fst hexec)
      rw [hexec] at hsame
      rw [show s' = s from hsame]
      exact Store.LedgerLe.refl s
    | ok answer =>
      cases c with
      | prepare d =>
        obtain ⟨b, -, hprepare⟩ := exec_prepare hexec
        exact Store.prepareIntent_ledgerLe hprepare
      | mark id => exact Store.markIntentSubmitting_ledgerLe (exec_mark hexec).2
      | finish id state orderId listId error =>
        exact Store.finishIntent_ledgerLe (exec_finish hexec).2

end LedgerCall
end refinement

/-- One call of a run, between the ledgers before and after it. -/
structure LedgerEntry where
  before : Store
  call : LedgerCall
  answer : Except Exc (Option Bool)
  after : Store

def Store.ledgerTrace (s : Store) : List (LedgerCall × Option ℕ) → List LedgerEntry
  | [] => []
  | (c, failsIn) :: calls =>
    { before := s, call := c, answer := (c.exec failsIn s).1, after := (c.exec failsIn s).2 } ::
      ledgerTrace (c.exec failsIn s).2 calls

/-- The call has inserted a child that closes the parent. -/
def LedgerEntry.Closes (e : LedgerEntry) (d : IntentDraft) (parent : IntentId) : Prop :=
  e.call = .prepare d ∧ d.closeParentIntentId = some parent ∧ e.answer = .ok (some true)

/-- The child is new and the parent, PREPARED until then, is ABORTED with it. A child that names
itself as its parent is ABORTED at once. -/
structure LedgerEntry.Moved (e : LedgerEntry) (d : IntentDraft) (parent : IntentId) : Prop where
  fresh : e.before.intent d.intentId = none
  inserted : ∃ child, e.after.intent d.intentId = some child ∧ child.request = d.request ∧
    child.requestSha256 = d.requestSha256 ∧ (parent ≠ d.intentId → child.state = .prepared)
  prepared : parent ≠ d.intentId → ∃ i, e.before.intent parent = some i ∧ i.state = .prepared
  aborted : ∃ i, e.after.intent parent = some i ∧ i.state = .aborted

section runs
variable {s : Store} {calls : List (LedgerCall × Option ℕ)} {e : LedgerEntry} {d : IntentDraft}
  {parent : IntentId}

theorem LedgerEntry.exec_of_mem (h : e ∈ s.ledgerTrace calls) :
    ∃ failsIn, e.call.exec failsIn e.before = (e.answer, e.after) := by
  induction calls generalizing s with
  | nil => cases h
  | cons step calls ih =>
    rcases List.mem_cons.mp h with rfl | htail
    · exact ⟨step.2, rfl⟩
    · exact ih htail

/-- The ledger only grows from the start of a run to its calls. -/
theorem LedgerEntry.ledgerLe_before (h : e ∈ s.ledgerTrace calls) :
    Store.LedgerLe s e.before := by
  induction calls generalizing s with
  | nil => cases h
  | cons step calls ih =>
    rcases List.mem_cons.mp h with rfl | htail
    · exact Store.LedgerLe.refl s
    · exact (step.1.exec_ledgerLe step.2 s).trans (ih htail)

theorem LedgerEntry.ledgerLe (h : e ∈ s.ledgerTrace calls) :
    Store.LedgerLe e.before e.after := by
  obtain ⟨failsIn, hexec⟩ := LedgerEntry.exec_of_mem h
  have hle := e.call.exec_ledgerLe failsIn e.before
  rwa [hexec] at hle

/-- A child is inserted only over a PREPARED parent, which may be itself. -/
theorem Store.prepareIntent_parent {s s' : Store} (hclose : d.closeParentIntentId = some parent)
    (h : s.prepareIntent d = .ok (true, s')) :
    ∃ i, (if parent = d.intentId then some (d.row (s.clock + 1)) else s.intent parent) = some i ∧
      i.state = .prepared := by
  unfold prepareIntent at h
  split at h
  · next hnew =>
    simp only [hclose] at h
    split at h
    · next hany =>
      obtain ⟨i, hi, hstate⟩ := any_prepared.mp hany
      rw [insertIntent_intent] at hi
      exact ⟨i, hi, hstate⟩
    · cases h
  · cases h

theorem LedgerEntry.Closes.moved (hcloses : e.Closes d parent) (h : e ∈ s.ledgerTrace calls) :
    e.Moved d parent := by
  obtain ⟨failsIn, hexec⟩ := LedgerEntry.exec_of_mem h
  obtain ⟨hcall, hclose, hanswer⟩ := hcloses
  rw [hcall, hanswer] at hexec
  obtain ⟨b, hb, hprepare⟩ := LedgerCall.exec_prepare hexec
  obtain rfl := Option.some.inj hb
  obtain ⟨i, hi, hprepared⟩ := Store.prepareIntent_parent hclose hprepare
  rcases Store.prepareIntent_cases hprepare with ⟨hfalse, -⟩ | ⟨-, hfresh, -, -, -, hrows⟩
  · cases hfalse
  constructor
  · exact hfresh
  · have hchild := hrows d.intentId
    rw [if_pos rfl, Option.map_some] at hchild
    refine ⟨_, hchild, ?_, ?_, ?_⟩
    · split
      · rw [Intent.closedBy]
        split <;> rfl
      · rfl
    · split
      · rw [Intent.closedBy]
        split <;> rfl
      · rfl
    · intro hne
      have hother : d.closeParentIntentId ≠ some d.intentId := by
        rw [hclose]
        exact fun heq => hne (Option.some.inj heq)
      rw [if_neg hother]
      rfl
  · intro hne
    rw [if_neg hne] at hi
    exact ⟨i, hi, hprepared⟩
  · have hparent := hrows parent
    rw [hi, Option.map_some, if_pos hclose] at hparent
    exact ⟨_, hparent, by rw [Intent.closedBy, if_pos hprepared]⟩

/-- A parent that has been closed is never closed again. -/
theorem LedgerEntry.not_closes_again (hle : Store.LedgerLe e.after s)
    (hmoved : e.Moved d parent) {f : LedgerEntry} (hf : f ∈ s.ledgerTrace calls)
    (d' : IntentDraft) : ¬ f.Closes d' parent := by
  intro hcloses
  have hmoved' := hcloses.moved hf
  obtain ⟨i, hi, haborted⟩ := hmoved.aborted
  obtain ⟨j, hj, -, hleft⟩ := (hle.trans (LedgerEntry.ledgerLe_before hf)) parent i hi
  have hnot : j.state ≠ .prepared := hleft (by rw [haborted]; decide)
  by_cases hself : parent = d'.intentId
  · have hfresh := hmoved'.fresh
    rw [← hself, hj] at hfresh
    cases hfresh
  · obtain ⟨k, hk, hprepared⟩ := hmoved'.prepared hself
    rw [hj] at hk
    obtain rfl := Option.some.inj hk
    exact hnot hprepared

theorem LedgerEntry.closes_once {before middle after : List LedgerEntry} {f : LedgerEntry}
    (htrace : s.ledgerTrace calls = before ++ e :: (middle ++ f :: after)) {d' : IntentDraft}
    (he : e.Closes d parent) : ¬ f.Closes d' parent := by
  induction calls generalizing s before with
  | nil => cases before <;> cases htrace
  | cons step calls ih =>
    cases before with
    | nil =>
      obtain ⟨hhead, htail⟩ := List.cons.inj htrace
      have he' : e ∈ s.ledgerTrace (step :: calls) := by
        rw [htrace]
        exact List.mem_cons_self
      have hf : f ∈ (step.1.exec step.2 s).2.ledgerTrace calls := by
        rw [htail]
        exact List.mem_append_right _ List.mem_cons_self
      have hle : Store.LedgerLe e.after (step.1.exec step.2 s).2 := by
        rw [← hhead]
        exact Store.LedgerLe.refl _
      exact LedgerEntry.not_closes_again hle (he.moved he') hf d'
    | cons first before => exact ih (List.cons.inj htrace).2

/-- In every run of the calls that write the ledger, whatever their order and wherever the database
fails: a parent is closed once at most, together with the insertion of its child; a call that raises
changes nothing; and an intent that is in the ledger keeps its request and never returns to
PREPARED. -/
theorem ledger_exclusive (s : Store) (calls : List (LedgerCall × Option ℕ)) :
    (∀ before e middle f after d d' parent,
      s.ledgerTrace calls = before ++ e :: (middle ++ f :: after) →
        e.Closes d parent → ¬ f.Closes d' parent) ∧
    (∀ e ∈ s.ledgerTrace calls, ∀ d parent, e.Closes d parent → e.Moved d parent) ∧
    (∀ e ∈ s.ledgerTrace calls, ∀ x, e.answer = .error x → e.after = e.before) ∧
    (∀ e ∈ s.ledgerTrace calls, e.answer = .ok (some false) → e.after = e.before) ∧
    (∀ e ∈ s.ledgerTrace calls, ∀ id i, s.intent id = some i ∨ e.before.intent id = some i →
      ∃ j, e.after.intent id = some j ∧ j.request = i.request ∧
        j.requestSha256 = i.requestSha256 ∧ (i.state ≠ .prepared → j.state ≠ .prepared)) := by
  refine ⟨?_, ?_, ?_, ?_, ?_⟩
  · intro before e middle f after d d' parent htrace he
    exact LedgerEntry.closes_once htrace he
  · intro e he d parent hcloses
    exact hcloses.moved he
  · intro e he x hx
    obtain ⟨failsIn, hexec⟩ := LedgerEntry.exec_of_mem he
    have hsame : (e.call.exec failsIn e.before).2 = e.before :=
      LedgerCall.exec_error (by rw [hexec, hx])
    rwa [hexec] at hsame
  · intro e he hfalse
    obtain ⟨failsIn, hexec⟩ := LedgerEntry.exec_of_mem he
    rw [hfalse] at hexec
    cases hcall : e.call with
    | prepare d =>
      rw [hcall] at hexec
      obtain ⟨b, hb, hprepare⟩ := LedgerCall.exec_prepare hexec
      obtain rfl := Option.some.inj hb
      rcases Store.prepareIntent_cases hprepare with ⟨-, hsame, -⟩ | ⟨htrue, -⟩
      · exact hsame
      · cases htrue
    | mark id =>
      rw [hcall] at hexec
      cases (LedgerCall.exec_mark hexec).1
    | finish id state orderId listId error =>
      rw [hcall] at hexec
      cases (LedgerCall.exec_finish hexec).1
  · intro e he id i hi
    have hle := LedgerEntry.ledgerLe he
    obtain ⟨j, hj, hdraft, hleft⟩ : ∃ j, e.after.intent id = some j ∧ j.draft = i.draft ∧
        (i.state ≠ .prepared → j.state ≠ .prepared) := by
      rcases hi with hstart | hbefore
      · exact (LedgerEntry.ledgerLe_before he).trans hle id i hstart
      · exact hle id i hbefore
    exact ⟨j, hj, congrArg IntentDraft.request hdraft, congrArg IntentDraft.requestSha256 hdraft,
      hleft⟩

end runs
end SpotSidecar
