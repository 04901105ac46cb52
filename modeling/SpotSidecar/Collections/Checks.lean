import Mathlib.Tactic.Common

/-! Computations that may raise, and the checks they are made of. -/

section Sequences
variable {ε α β : Type}

theorem except_bind_eq_ok {x : Except ε α} {f : α → Except ε β} {b : β} :
    (x >>= f) = .ok b ↔ ∃ a, x = .ok a ∧ f a = .ok b := by
  cases x with
  | error e => simp [bind, Except.bind]
  | ok a => simp [bind, Except.bind]

theorem except_map_eq_ok {x : Except ε α} {f : α → β} {b : β} :
    x.map f = .ok b ↔ ∃ a, x = .ok a ∧ f a = b := by
  cases x with
  | error e => simp [Except.map]
  | ok a => simp [Except.map]

theorem except_ok_of_toOption {x : Except ε α} {a : α} (h : x.toOption = some a) : x = .ok a := by
  cases x with
  | error e => cases h
  | ok b => exact congrArg Except.ok (Option.some.inj h)

theorem except_ok_of_isSome {x : Except ε α} (h : x.toOption.isSome = true) : ∃ a, x = .ok a := by
  obtain ⟨a, ha⟩ := Option.isSome_iff_exists.mp h
  exact ⟨a, except_ok_of_toOption ha⟩

end Sequences

namespace Checks
variable {ε α β : Type}

/-- Raises unless the condition holds. -/
def require (c : Prop) [Decidable c] (e : ε) : Except ε Unit := if c then .ok () else .error e

/-- Raises where the condition holds. -/
def refuseIf (c : Prop) [Decidable c] (e : ε) : Except ε Unit := if c then .error e else .ok ()

/-- Raises where there is no value. -/
def orRefuse (a : Option α) (e : ε) : Except ε α :=
  match a with
  | some a => .ok a
  | none => .error e

variable {c : Prop} [Decidable c] {e : ε}

theorem require_eq_ok {u : Unit} : require c e = .ok u ↔ c := by
  unfold require
  by_cases hc : c
  · simp [hc]
  · simp [hc]

theorem refuseIf_eq_ok {u : Unit} : refuseIf c e = .ok u ↔ ¬c := by
  unfold refuseIf
  by_cases hc : c
  · simp [hc]
  · simp [hc]

theorem orRefuse_eq_ok {a : Option α} {b : α} : orRefuse a e = .ok b ↔ a = some b := by
  cases a with
  | none => simp [orRefuse]
  | some a => simp [orRefuse]

theorem require_bind_eq_ok {f : Unit → Except ε α} {a : α} :
    (require c e >>= f) = .ok a ↔ c ∧ f () = .ok a := by
  rw [except_bind_eq_ok]
  constructor
  · rintro ⟨u, hu, hf⟩
    exact ⟨require_eq_ok.mp hu, hf⟩
  · rintro ⟨hc, hf⟩
    exact ⟨(), require_eq_ok.mpr hc, hf⟩

theorem refuseIf_bind_eq_ok {f : Unit → Except ε α} {a : α} :
    (refuseIf c e >>= f) = .ok a ↔ ¬c ∧ f () = .ok a := by
  rw [except_bind_eq_ok]
  constructor
  · rintro ⟨u, hu, hf⟩
    exact ⟨refuseIf_eq_ok.mp hu, hf⟩
  · rintro ⟨hc, hf⟩
    exact ⟨(), refuseIf_eq_ok.mpr hc, hf⟩

theorem orRefuse_bind_eq_ok {a : Option α} {f : α → Except ε β} {b : β} :
    (orRefuse a e >>= f) = .ok b ↔ ∃ x, a = some x ∧ f x = .ok b := by
  simp only [except_bind_eq_ok, orRefuse_eq_ok]

end Checks
