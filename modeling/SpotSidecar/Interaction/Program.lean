import Mathlib.Data.Nat.Notation

/-! Programs that act on a world one step at a time. An act may answer with an
error, and the machine may stop before any act. -/
namespace Interaction

inductive Outcome (ε α : Type) where
  | done (a : α)
  | raised (e : ε)
  | crashed
  deriving DecidableEq

def Outcome.isDone {ε α : Type} : Outcome ε α → Bool
  | .done _ => true
  | _ => false

theorem Outcome.exists_of_isDone {ε α : Type} {o : Outcome ε α} (h : o.isDone = true) :
    ∃ a, o = .done a := by
  cases o with
  | done a => exact ⟨a, rfl⟩
  | raised e => cases h
  | crashed => cases h

/-- A tree of acts; every act is continued by its answer or by its error. -/
inductive Prog (ε : Type) (A : Type → Type 1) (α : Type) : Type 1 where
  | pure (a : α)
  | raise (e : ε)
  | act {β : Type} (op : A β) (next : Except ε β → Prog ε A α)

namespace Prog
variable {ε α β : Type} {A B : Type → Type 1}

def bind : Prog ε A α → (α → Prog ε A β) → Prog ε A β
  | .pure a, f => f a
  | .raise e, _ => .raise e
  | .act op next, f => .act op fun r => (next r).bind f

instance : Monad (Prog ε A) where
  pure := Prog.pure
  bind := Prog.bind

/-- Run `h` on the error of a failed program. A crash is not an error. -/
def handle : Prog ε A α → (ε → Prog ε A α) → Prog ε A α
  | .pure a, _ => .pure a
  | .raise e, h => h e
  | .act op next, h => .act op fun r => (next r).handle h

def perform (op : A α) : Prog ε A α :=
  .act op fun
    | .ok a => .pure a
    | .error e => .raise e

/-- The error of a failed program as a value. -/
def attempt (m : Prog ε A α) : Prog ε A (Except ε α) :=
  (m >>= fun a => Prog.pure (.ok a)).handle fun e => Prog.pure (.error e)

def ofExcept : Except ε α → Prog ε A α
  | .ok a => .pure a
  | .error e => .raise e

/-- Raise `e` unless `c` holds. -/
def ensure (c : Prop) [Decidable c] (e : ε) : Prog ε A Unit :=
  if c then .pure () else .raise e

/-- Run a program on every element and collect the answers. -/
def each (f : α → Prog ε A β) : List α → Prog ε A (List β)
  | [] => .pure []
  | x :: xs => do
    let y ← f x
    let ys ← each f xs
    return y :: ys

/-- A program over fewer acts, as a program over more. -/
def lift (emb : ∀ γ : Type, A γ → B γ) : Prog ε A α → Prog ε B α
  | .pure a => .pure a
  | .raise e => .raise e
  | .act op next => .act (emb _ op) fun r => (next r).lift emb

variable {W : Type}

/-- Execution with a budget of acts; the machine stops when the budget is spent. -/
def run (exec : ∀ γ : Type, A γ → W → Except ε γ × W) :
    ℕ → Prog ε A α → W → Outcome ε α × W
  | _, .pure a, w => (.done a, w)
  | _, .raise e, w => (.raised e, w)
  | 0, .act _ _, w => (.crashed, w)
  | n + 1, .act op next, w => run exec n (next (exec _ op w).1) (exec _ op w).2

end Prog
end Interaction
