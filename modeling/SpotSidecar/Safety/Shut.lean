import SpotSidecar.Safety.Ward

/-! While the adapter is disabled, no operation of it enables it or sends an entry. -/
namespace SpotSidecar
open Interaction Prog

/-- The ENTRY intents that were marked SUBMITTING, newest first. -/
def entryMarks : List Entry → List IntentId
  | [] => []
  | e :: es =>
    match e.item with
    | .marked id =>
      if (e.store.intent id).any (·.operation = .entry) then id :: entryMarks es else entryMarks es
    | _ => entryMarks es

section entryMarks
variable {es : List Entry} {s : Store}

theorem entryMarks_of_quiet {item : Item} (h : ∀ id, item ≠ .marked id) :
    entryMarks (⟨s, item⟩ :: es) = entryMarks es := by
  cases item with
  | marked id => exact absurd rfl (h id)
  | _ => rfl

theorem entryMarks_marked {id : IntentId} {i : Intent} (hi : s.intent id = some i) :
    entryMarks (⟨s, .marked id⟩ :: es) =
      (if i.operation = .entry then [id] else []) ++ entryMarks es := by
  have hany : (s.intent id).any (·.operation = .entry) = decide (i.operation = .entry) := by
    rw [hi]
    rfl
  by_cases hop : i.operation = .entry
  · simp [entryMarks, hany, hop]
  · simp [entryMarks, hany, hop]

end entryMarks

variable {σ α β γ : Type} {cfg : Config} {env : Env σ}

theorem Call.item?_ne_marked {c : Call γ} {r : Except Exc γ} {item : Item}
    (h : c.item? r = some item) (id : IntentId) : item ≠ .marked id := by
  rintro rfl
  cases c <;> simp [Call.item?] at h

/-- Acts that mark no intent. -/
def Act.unmarking (γ : Type) : Act γ → Prop
  | .markIntentSubmitting _ => False
  | _ => True

theorem Act.exec_entryMarks (env : Env σ) {a : Act γ} (ha : a.unmarking) (w : World σ) :
    entryMarks (a.exec env γ w).2.history = entryMarks w.history := by
  cases a with
  | fold f =>
    cases f with
    | ask a =>
      cases a with
      | call c =>
        simp only [Act.exec, Fold.exec, Ask.exec]
        split
        · next item hitem => exact entryMarks_of_quiet (Call.item?_ne_marked hitem)
        · rfl
      | _ => rfl
    | _ => rfl
  | prepareIntent d =>
    simp only [Act.exec]
    split <;> rfl
  | markIntentSubmitting id => exact ha.elim
  | finishIntent id state orderId listId error =>
    simp only [Act.exec]
    split
    · exact entryMarks_of_quiet fun _ => Item.noConfusion
    · rfl
  | upsertTrade id pair f => exact entryMarks_of_quiet fun _ => Item.noConfusion
  | post p => exact entryMarks_of_quiet fun _ => Item.noConfusion

/-- A mark adds the intent to the marks of entries if it is an entry in PREPARED. -/
theorem exec_mark_entryMarks (env : Env σ) (id : IntentId) (w : World σ) :
    entryMarks ((Act.markIntentSubmitting id).exec env _ w).2.history =
      (if (w.store.intent id).any fun i => i.operation = .entry ∧ i.state = .prepared
        then [id] else []) ++ entryMarks w.history := by
  simp only [Act.exec]
  cases h : w.store.markIntentSubmitting id with
  | ok s =>
    obtain ⟨⟨i, hi, hprep⟩, -⟩ := Store.markIntentSubmitting_ok h
    simp only [World.note]
    rw [entryMarks_marked hi, hi]
    simp [hprep]
  | error e =>
    have hno : (w.store.intent id).any (fun i => i.operation = .entry ∧ i.state = .prepared) =
        false := by
      unfold Store.markIntentSubmitting at h
      split at h
      · cases h
      · next hany =>
        rw [Store.any_prepared] at hany
        cases hi : w.store.intent id with
        | none => rfl
        | some i =>
          have hprep : i.state ≠ .prepared := fun hprep => hany ⟨i, hi, hprep⟩
          simp [hprep]
    rw [hno]
    rfl

/-- What an act does to the flags, where it does not write them. -/
theorem Act.calm_flags (env : Env σ) {a : Act γ} (ha : a.calm) (w : World σ) :
    (a.exec env γ w).2.memory = w.memory ∧ (a.exec env γ w).2.store.data = w.store.data := by
  cases a with
  | fold f =>
    cases f with
    | ask a =>
      cases a with
      | setMemory m => exact ha.elim
      | setData d => exact ha.elim
      | call c =>
        simp only [Act.exec, Fold.exec, Ask.exec]
        split <;> exact ⟨rfl, rfl⟩
      | _ => exact ⟨rfl, rfl⟩
    | recordExchangeEvent e =>
      refine ⟨rfl, ?_⟩
      simp only [Act.exec, Fold.exec, Store.recordExchangeEvent]
      split <;> rfl
    | replayExchangeEventsForTrade id =>
      refine ⟨rfl, ?_⟩
      simp only [Act.exec, Fold.exec, Store.replayExchangeEventsForTrade]
      split <;> rfl
  | prepareIntent d =>
    simp only [Act.exec]
    split
    · rcases Store.prepareIntent_cases ‹_› with ⟨-, rfl, -⟩ | ⟨-, -, -, -, hdata, -⟩
      · exact ⟨rfl, rfl⟩
      · exact ⟨rfl, hdata⟩
    · exact ⟨rfl, rfl⟩
  | markIntentSubmitting id => exact ha.elim
  | finishIntent id state orderId listId error =>
    simp only [Act.exec]
    split
    · exact ⟨rfl, (Store.finishIntent_ok ‹_›).2.2.2.1⟩
    · exact ⟨rfl, rfl⟩
  | upsertTrade id pair f =>
    refine ⟨rfl, ?_⟩
    simp only [Act.exec, Store.upsertTrade]
    split <;> rfl
  | post p => exact ⟨rfl, rfl⟩

theorem mark_flags (env : Env σ) (id : IntentId) (w : World σ) :
    ((Act.markIntentSubmitting id).exec env _ w).2.memory = w.memory ∧
      ((Act.markIntentSubmitting id).exec env _ w).2.store.data = w.store.data := by
  simp only [Act.exec]
  split
  · exact ⟨rfl, (Store.markIntentSubmitting_ok ‹_›).2.2.2.1⟩
  · exact ⟨rfl, rfl⟩

/-- Every new intent of the act that has a parent is no entry. -/
def Act.parenting (γ : Type) : Act γ → Prop
  | .prepareIntent d => d.parentIntentId.isSome = true → d.operation ≠ .entry
  | _ => True

theorem Act.parenting_exec (env : Env σ) {a : Act γ} (ha : a.parenting) (w : World σ)
    (h : w.store.Parented) : (a.exec env γ w).2.store.Parented := by
  intro d hd
  rcases a.mem_exec_drafts w hd with hd | hd
  · exact h d hd
  · cases a with
    | prepareIntent d' =>
      cases List.mem_singleton.mp hd
      exact ha
    | _ => cases hd

theorem Act.calm_parenting {a : Act γ} (ha : a.calm) : a.parenting := by
  cases a with
  | prepareIntent d => exact fun _ => ha
  | _ => trivial

/-- The parents of the ledger survive whatever is no new entry with a parent. -/
theorem parented_gate : Gate env (fun w => w.store.Parented) where
  exec _ w ha hw := Act.parenting_exec env (Act.calm_parenting ha) w hw
  memory _ _ _ hw := hw
  data _ _ _ hw := hw
  mark id _ w _ _ hw := Act.parenting_exec env (a := .markIntentSubmitting id) trivial w hw
  parented _ hw := hw

/-- The adapter is disabled, a restart is required or not, and these entries were sent. -/
structure Shut (restart : Bool) (sent : List IntentId) (w : World σ) : Prop where
  disabled : w.memory.enabled = false
  restart : w.store.data.liveRestartRequired = restart
  sent : entryMarks w.history = sent
  parented : w.store.Parented

theorem Act.calm_unmarking {a : Act γ} (ha : a.calm) : a.unmarking := by
  cases a with
  | markIntentSubmitting id => exact ha.elim
  | _ => trivial

theorem shut_gate (restart : Bool) (sent : List IntentId) : Gate env (Shut restart sent) where
  exec a w ha hw := by
    obtain ⟨hmemory, hdata⟩ := Act.calm_flags env ha w
    refine ⟨?_, ?_, ?_, Act.parenting_exec env (Act.calm_parenting ha) w hw.parented⟩
    · rw [hmemory]
      exact hw.disabled
    · rw [hdata]
      exact hw.restart
    · rw [Act.exec_entryMarks env (Act.calm_unmarking ha)]
      exact hw.sent
  memory m w hm hw := ⟨hm hw.disabled, hw.restart, hw.sent, hw.parented⟩
  data d w hd hw := ⟨hw.disabled, hd.trans hw.restart, hw.sent, hw.parented⟩
  mark id i w hi hne hw := by
    obtain ⟨hmemory, hdata⟩ := mark_flags env id w
    refine ⟨?_, ?_, ?_, Act.parenting_exec env (a := .markIntentSubmitting id) trivial
      w hw.parented⟩
    · rw [hmemory]
      exact hw.disabled
    · rw [hdata]
      exact hw.restart
    · rw [exec_mark_entryMarks, hi]
      simp [hne, hw.sent]
  parented w hw := hw.parented

/-- A program that never enables the adapter, and that sends no entry while it is disabled. -/
structure Obedient (env : Env σ) (m : Acting α) : Prop where
  shut : ∀ restart sent, Keeps (Act.exec env) (Shut restart sent) m
  parented : Keeps (Act.exec env) (fun w => w.store.Parented) m

theorem Obedient.of_ward {m : Acting α} (h : ∀ J : World σ → Prop,
    Ward env (fun _ => True) J → Keeps (Act.exec env) J m) : Obedient env m where
  shut restart sent := h _ (shut_gate restart sent).ward
  parented := h _ parented_gate.ward

/-- A new entry has no parent. -/
theorem parented_entering : Entering env (fun _ => True) (fun w => w.store.Parented) where
  toWard := parented_gate.ward
  enter d w _ hparent _ hw := by
    refine Act.parenting_exec env (a := .prepareIntent d) (fun hsome => ?_) w hw
    rw [hparent] at hsome
    cases hsome
  sent id w _ hw := Act.parenting_exec env (a := .markIntentSubmitting id) trivial w hw

/-- Where the adapter is disabled, `submit` refuses before it does anything. -/
theorem Obedient.submit (symbol : Symbol) (id : TradeId) : Obedient env (submit cfg symbol id) where
  shut restart sent := by
    unfold SpotSidecar.submit
    refine Triple.bind (Q := fun m w => Shut restart sent w ∧ m.enabled = false)
      (fun w hw => ⟨hw, hw, hw.disabled⟩) fun m => ?_
    refine Triple.bind (Q := fun _ w => Shut restart sent w ∧ m.enabled = false)
      (fun w hw => ⟨hw.1, hw⟩) fun s => ?_
    refine Triple.assume_eq fun hdisabled => ?_
    simp only [hdisabled, Bool.not_false, Bool.or_true, Bool.true_or, if_true]
    exact Keeps.pure
  parented := by
    have h : Ward env (fun _ => True) (fun w : World σ => w.store.Parented) := parented_gate.ward
    unfold SpotSidecar.submit
    refine .bind (h.quiet .theMemory) fun m => .bind (h.quiet .theStore) fun s => ?_
    split
    · exact .pure
    · refine .bind (h.quiet (.call _)) fun active => ?_
      split
      · exact .pure
      · split
        · exact .pure
        · refine .bind (h.quiet .theStore) fun s => ?_
          split
          · exact .pure
          · split
            · exact .pure
            · refine .bind (h.quiet (.planEntry _ _)) fun plan => ?_
              split
              · exact .pure
              · exact parented_entering.submitEntry trivial _ _ _ _

end SpotSidecar
