import SpotSidecar.Safety.Sites

/-! Submissions and cancels: they write the ledger and make requests, and leave the trade rows
and the events as they are. -/
namespace SpotSidecar
open Interaction Prog

/-- Acts that leave the trade rows and the events as they are. -/
def Act.still (γ : Type) : Act γ → Prop
  | .fold (.ask _) => True
  | .fold _ | .upsertTrade _ _ _ => False
  | _ => True

section acts
variable {σ α γ : Type} {cfg : Config} {env : Env σ}

theorem Act.still_exec (env : Env σ) {a : Act γ} (ha : a.still) (w : World σ) :
    (a.exec env γ w).2.store.trades = w.store.trades ∧
      (a.exec env γ w).2.store.events = w.store.events := by
  cases a with
  | fold f =>
    cases f with
    | ask a => exact ⟨(Ask.exec_cases env a w).1, (Ask.exec_cases env a w).2.2⟩
    | recordExchangeEvent e => exact ha.elim
    | replayExchangeEventsForTrade id => exact ha.elim
  | prepareIntent d =>
    simp only [Act.exec]
    split
    · rcases Store.prepareIntent_cases ‹_› with ⟨-, rfl, -⟩ | ⟨-, -, ht, he, -⟩
      · exact ⟨rfl, rfl⟩
      · exact ⟨ht, he⟩
    · exact ⟨rfl, rfl⟩
  | markIntentSubmitting id =>
    simp only [Act.exec]
    split
    · have h := Store.markIntentSubmitting_ok ‹_›
      exact ⟨h.2.1, h.2.2.1⟩
    · exact ⟨rfl, rfl⟩
  | finishIntent id state orderId listId error =>
    simp only [Act.exec]
    split
    · have h := Store.finishIntent_ok ‹_›
      exact ⟨h.2.1, h.2.2.1⟩
    · exact ⟨rfl, rfl⟩
  | upsertTrade id pair f => exact ha.elim
  | post p => exact ⟨rfl, rfl⟩

/-- An act adds at most one entry to the history, with the store before it. -/
theorem Act.exec_history (env : Env σ) (a : Act γ) (w : World σ) :
    (a.exec env γ w).2.history = w.history ∨
      ∃ item, (a.exec env γ w).2.history = ⟨w.store, item⟩ :: w.history := by
  have hask : ∀ a : Ask γ, (a.exec env γ w).2.history = w.history ∨
      ∃ item, (a.exec env γ w).2.history = ⟨w.store, item⟩ :: w.history := by
    intro a
    cases a with
    | call c =>
      simp only [Ask.exec]
      split
      · exact .inr ⟨_, rfl⟩
      · exact .inl rfl
    | _ => exact .inl rfl
  cases a with
  | fold f =>
    cases f with
    | ask a => exact hask a
    | recordExchangeEvent e => exact .inl rfl
    | replayExchangeEventsForTrade id => exact .inl rfl
  | prepareIntent d =>
    simp only [Act.exec]
    split <;> exact .inl rfl
  | markIntentSubmitting id =>
    simp only [Act.exec]
    split
    · exact .inr ⟨_, rfl⟩
    · exact .inl rfl
  | finishIntent id state orderId listId error =>
    simp only [Act.exec]
    split
    · exact .inr ⟨_, rfl⟩
    · exact .inl rfl
  | upsertTrade id pair f => exact .inr ⟨_, rfl⟩
  | post p => exact .inr ⟨_, rfl⟩

theorem Act.exec_suffix (env : Env σ) (a : Act γ) (w : World σ) :
    w.history <:+ (a.exec env γ w).2.history := by
  rcases a.exec_history env w with h | ⟨item, h⟩
  · exact h ▸ List.suffix_refl _
  · rw [h]
    exact List.suffix_cons _ _

/-- The program leaves the trade rows and the events as they are. -/
abbrev Still (m : Acting α) : Prop := m.All Act.still

namespace Still

theorem asking (m : Asking α) : Still (liftM m : Acting α) :=
  All.lift_of (All.lift (fun _ => trivial) m) fun _ h => h

theorem finishes {m : Acting α} (h : Finishes m) : Still m :=
  h.mono fun a ha => by
    cases a with
    | fold f => cases f <;> trivial
    | _ => trivial

theorem submitOnce (operation : Operation) (tradeId : TradeId) (symbol : Symbol)
    (endpoint : Endpoint) (params : Params) (parent : Option IntentId) :
    Still (submitOnce cfg operation tradeId symbol endpoint params parent) := by
  unfold SpotSidecar.submitOnce
  refine .bind (.perform trivial) fun isNew => ?_
  split
  · refine .bind (.perform trivial) fun _ => .bind (.attempt (.perform trivial)) fun answer => ?_
    split
    · exact .bind (asking _) fun response => finishes (.concludeSubmission _ _ _ _ _)
    · exact finishes (.recoverSubmission _ _ _ _ _)
  · refine .bind (asking _) fun s => ?_
    split
    · exact .pure
    · exact .raise

theorem resumeExisting (i : Intent) (request : Params) :
    Still (resumeExistingPreparedSubmission cfg i request) := by
  unfold resumeExistingPreparedSubmission
  refine .bind (.perform trivial) fun _ => .bind (.attempt (.perform trivial)) fun answer => ?_
  split
  · exact .bind (asking _) fun response => finishes (.concludeResumed _ _ _)
  · refine .bind (asking _) fun found => ?_
    split
    · exact finishes (.concludeResumed _ _ _)
    · dsimp only
      split <;> exact .bind (finishes (.finish _ _ _)) fun _ => .pure

theorem cancelEntryList (row : TradeRow) (symbol : Symbol) (operation : Operation) :
    Still (cancelEntryList cfg row symbol operation) := by
  unfold SpotSidecar.cancelEntryList
  split
  · exact .pure
  · refine .bind (.perform trivial) fun isNew => ?_
    split
    · refine .bind (.perform trivial) fun _ => .bind (.attempt (.perform trivial)) fun answer => ?_
      split
      · exact .bind (finishes (.finish _ _ _)) fun _ => .pure
      · exact .bind (finishes (.finish _ _ _)) fun _ => .pure
      · split
        · exact .bind (.perform trivial) fun _ => .pure
        · exact .bind (finishes (.finish _ _ _)) fun _ => .pure
    · refine .bind (asking _) fun s => ?_
      split <;> exact .pure

theorem cancelProtection (row : TradeRow) (symbol : Symbol) :
    Still (cancelProtection cfg row symbol) := by
  unfold SpotSidecar.cancelProtection
  split
  · exact .pure
  · refine .bind (.perform trivial) fun isNew => ?_
    split
    · refine .bind (.perform trivial) fun _ => .bind (.attempt (.perform trivial)) fun answer => ?_
      split
      · exact .bind (finishes (.finish _ _ _)) fun _ => .pure
      · exact .bind (finishes (.finish _ _ _)) fun _ => .pure
      · exact finishes (.concludeCancel _ _ _)
    · exact asking _

end Still
end acts
end SpotSidecar
