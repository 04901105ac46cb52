import Mathlib.Data.List.Basic

/-! Transactions: statements on a working copy, any of which may fail, then a commit. What a
transaction has changed counts only when the commit succeeds. -/
namespace Transaction

/-- The working copy, and how many statements succeed before one fails. -/
structure Session (σ : Type) where
  working : σ
  failsIn : Option ℕ

/-- The body of a transaction. What it has changed is kept where it raises, until the rollback. -/
def Tx (ε σ α : Type) := Session σ → Except ε α × Session σ

variable {ε σ α β : Type}

instance : Monad (Tx ε σ) where
  pure a t := (.ok a, t)
  bind tx f t := match tx t with
    | (.ok a, t) => f a t
    | (.error e, t) => (.error e, t)

def raise (e : ε) : Tx ε σ α := fun t => (.error e, t)

/-- One statement; `lost` is raised by the database. -/
def statement (lost : ε) (run : σ → α × σ) : Tx ε σ α := fun t =>
  if t.failsIn = some 0 then (.error lost, t)
  else (.ok (run t.working).1, ⟨(run t.working).2, t.failsIn.map (· - 1)⟩)

/-- Run the body, commit, and roll back on an exception of either. -/
def connect (lost : ε) (failsIn : Option ℕ) (tx : Tx ε σ α) (s : σ) : Except ε α × σ :=
  match tx ⟨s, failsIn⟩ with
  | (.ok a, t) => if t.failsIn = some 0 then (.error lost, s) else (.ok a, t.working)
  | (.error e, _) => (.error e, s)

variable {lost e : ε} {failsIn : Option ℕ} {tx : Tx ε σ α} {f : α → Tx ε σ β} {s : σ}

theorem connect_error (h : (connect lost failsIn tx s).1 = .error e) :
    (connect lost failsIn tx s).2 = s := by
  unfold connect at h ⊢
  cases htx : tx ⟨s, failsIn⟩ with
  | mk result t =>
    cases result with
    | error e' => rfl
    | ok a =>
      by_cases hcommit : t.failsIn = some 0
      · simp [hcommit]
      · simp [htx, hcommit] at h

/-- A failing statement is all that sets a run apart from the run in which none fails. -/
def Robust (lost : ε) (tx : Tx ε σ α) : Prop :=
  ∀ w, (tx ⟨w, none⟩).2.failsIn = none ∧ ∀ n, (tx ⟨w, some n⟩).1 = .error lost ∨
    ∃ k, tx ⟨w, some n⟩ = ((tx ⟨w, none⟩).1, ⟨(tx ⟨w, none⟩).2.working, some k⟩)

theorem Robust.pure (a : α) : Robust lost (Pure.pure a : Tx ε σ α) :=
  fun _ => ⟨rfl, fun n => .inr ⟨n, rfl⟩⟩

theorem Robust.raise (e : ε) : Robust lost (Transaction.raise e : Tx ε σ α) :=
  fun _ => ⟨rfl, fun n => .inr ⟨n, rfl⟩⟩

theorem Robust.statement (run : σ → α × σ) : Robust lost (Transaction.statement lost run) := by
  intro w
  constructor
  · rfl
  · intro n
    cases n with
    | zero => exact .inl rfl
    | succ n => exact .inr ⟨n, rfl⟩

theorem bind_ok {a : α} {t t' : Session σ} (h : tx t = (.ok a, t')) : (tx >>= f) t = f a t' := by
  show (match tx t with
    | (.ok a, t) => f a t
    | (.error e, t) => (.error e, t)) = f a t'
  rw [h]

theorem bind_error {t t' : Session σ} (h : tx t = (.error e, t')) :
    (tx >>= f) t = (.error e, t') := by
  show (match tx t with
    | (.ok a, t) => f a t
    | (.error e, t) => (.error e, t)) = (.error e, t')
  rw [h]

theorem Robust.bind (h : Robust lost tx) (hf : ∀ a, Robust lost (f a)) :
    Robust lost (tx >>= f) := by
  intro w
  obtain ⟨hnone, hsome⟩ := h w
  cases hrun : tx ⟨w, none⟩ with
  | mk result t =>
    obtain ⟨working, left⟩ := t
    rw [hrun] at hnone hsome
    obtain rfl : left = none := hnone
    cases result with
    | error e =>
      rw [bind_error hrun]
      constructor
      · rfl
      · intro n
        rcases hsome n with hlost | ⟨k, hk⟩
        · left
          cases hn : tx ⟨w, some n⟩ with
          | mk result' t' =>
            rw [hn] at hlost
            obtain rfl : result' = .error lost := hlost
            rw [bind_error hn]
        · exact .inr ⟨k, bind_error hk⟩
    | ok a =>
      obtain ⟨hnone', hsome'⟩ := hf a working
      rw [bind_ok hrun]
      constructor
      · exact hnone'
      · intro n
        rcases hsome n with hlost | ⟨k, hk⟩
        · left
          cases hn : tx ⟨w, some n⟩ with
          | mk result' t' =>
            rw [hn] at hlost
            obtain rfl : result' = .error lost := hlost
            rw [bind_error hn]
        · rw [bind_ok hk]
          exact hsome' k

/-- A transaction in which a statement or the commit fails changes nothing. -/
theorem Robust.connect (h : Robust lost tx) (failsIn : Option ℕ) (s : σ) :
    Transaction.connect lost failsIn tx s = (.error lost, s) ∨
      Transaction.connect lost failsIn tx s = Transaction.connect lost none tx s := by
  obtain ⟨hnone, hsome⟩ := h s
  cases failsIn with
  | none => exact .inr rfl
  | some n =>
    rcases hsome n with hlost | ⟨k, hk⟩
    · left
      unfold Transaction.connect
      cases hn : tx ⟨s, some n⟩ with
      | mk result t =>
        rw [hn] at hlost
        obtain rfl : result = .error lost := hlost
        rfl
    · cases hrun : tx ⟨s, none⟩ with
      | mk result t =>
        rw [hrun] at hk hnone
        unfold Transaction.connect
        rw [hk, hrun]
        cases result with
        | error e => exact .inr rfl
        | ok a =>
          by_cases hcommit : k = 0
          · subst hcommit
            exact .inl rfl
          · right
            have hleft : t.failsIn = none := hnone
            simp [hcommit, hleft]

end Transaction
