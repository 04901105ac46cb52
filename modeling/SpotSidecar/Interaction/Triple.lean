import SpotSidecar.Interaction.Program
import Mathlib.Tactic.Common

/-! Pre- and postconditions of interaction programs, with one postcondition for
each way a program can end. -/
namespace Interaction
namespace Prog
variable {ε α β W : Type} {A B : Type → Type 1}
  (exec : ∀ γ : Type, A γ → W → Except ε γ × W)

/-- What must hold of a world so that `m` ends in `Q`, whatever the budget. -/
def wp : Prog ε A α → (Outcome ε α → W → Prop) → W → Prop
  | .pure a, Q, w => Q (.done a) w
  | .raise e, Q, w => Q (.raised e) w
  | .act op next, Q, w => Q .crashed w ∧ wp (next (exec _ op w).1) Q (exec _ op w).2

/-- A budget that suffices. -/
theorem exists_run_ne_crashed (m : Prog ε A α) (w : W) : ∃ n, (run exec n m w).1 ≠ .crashed := by
  induction m generalizing w with
  | pure a => exact ⟨0, by simp [run]⟩
  | raise e => exact ⟨0, by simp [run]⟩
  | act op next ih =>
    obtain ⟨n, hn⟩ := ih (exec _ op w).1 (exec _ op w).2
    exact ⟨n + 1, hn⟩

/-- The outcome predicate of a postcondition, an error condition and a crash condition. -/
def Ends (Q : α → W → Prop) (E : ε → W → Prop) (C : W → Prop) : Outcome ε α → W → Prop
  | .done a => Q a
  | .raised e => E e
  | .crashed => C

/-- From `P`, the program ends in `Q`, fails in `E` or is stopped in `C`. -/
def Triple (P : W → Prop) (m : Prog ε A α) (Q : α → W → Prop) (E : ε → W → Prop)
    (C : W → Prop) : Prop :=
  ∀ w, P w → wp exec m (Ends Q E C) w

/-- `I` holds after the program however it ends. -/
def Keeps (I : W → Prop) (m : Prog ε A α) : Prop :=
  Triple exec I m (fun _ => I) (fun _ => I) I

variable {exec}

theorem wp_mono {m : Prog ε A α} {Q R : Outcome ε α → W → Prop} {w : W}
    (h : ∀ o w, Q o w → R o w) (hm : wp exec m Q w) : wp exec m R w := by
  induction m generalizing w with
  | pure a => exact h _ _ hm
  | raise e => exact h _ _ hm
  | act op next ih => exact ⟨h _ _ hm.1, ih _ hm.2⟩

theorem wp_and {m : Prog ε A α} {Q R : Outcome ε α → W → Prop} {w : W}
    (hQ : wp exec m Q w) (hR : wp exec m R w) : wp exec m (fun o w => Q o w ∧ R o w) w := by
  induction m generalizing w with
  | pure a => exact ⟨hQ, hR⟩
  | raise e => exact ⟨hQ, hR⟩
  | act op next ih => exact ⟨⟨hQ.1, hR.1⟩, ih _ hQ.2 hR.2⟩

/-- The weakest precondition bounds every execution. -/
theorem wp_run {m : Prog ε A α} {Q : Outcome ε α → W → Prop} {w : W} (hm : wp exec m Q w)
    (n : ℕ) : Q (run exec n m w).1 (run exec n m w).2 := by
  induction m generalizing n w with
  | pure a => cases n <;> exact hm
  | raise e => cases n <;> exact hm
  | act op next ih =>
    cases n with
    | zero => exact hm.1
    | succ n => exact ih _ hm.2 n

theorem wp_bind {m : Prog ε A α} {f : α → Prog ε A β} {Q : Outcome ε β → W → Prop} {w : W} :
    wp exec (m >>= f) Q w ↔
      wp exec m (Ends (fun a => wp exec (f a) Q) (fun e => Q (.raised e)) (Q .crashed)) w := by
  induction m generalizing w with
  | pure a => rfl
  | raise e => rfl
  | act op next ih => exact and_congr_right fun _ => ih _

theorem wp_handle {m : Prog ε A α} {h : ε → Prog ε A α} {Q : Outcome ε α → W → Prop} {w : W} :
    wp exec (m.handle h) Q w ↔
      wp exec m (Ends (fun a => Q (.done a)) (fun e => wp exec (h e) Q) (Q .crashed)) w := by
  induction m generalizing w with
  | pure a => rfl
  | raise e => rfl
  | act op next ih => exact and_congr_right fun _ => ih _

section rules
variable {P P' : W → Prop} {Q Q' : α → W → Prop} {R : β → W → Prop} {E E' : ε → W → Prop}
  {C C' I : W → Prop} {m : Prog ε A α}

theorem Triple.pure {a : α} (h : ∀ w, P w → Q a w) :
    Triple exec P (Pure.pure a : Prog ε A α) Q E C := h

theorem Triple.raise {e : ε} (h : ∀ w, P w → E e w) :
    Triple exec P (.raise e : Prog ε A α) Q E C := h

theorem Triple.conseq (h : Triple exec P' m Q' E' C') (hP : ∀ w, P w → P' w)
    (hQ : ∀ a w, Q' a w → Q a w) (hE : ∀ e w, E' e w → E e w) (hC : ∀ w, C' w → C w) :
    Triple exec P m Q E C := by
  intro w hw
  refine wp_mono ?_ (h w (hP w hw))
  rintro (a | e | _) w' hw'
  · exact hQ a w' hw'
  · exact hE e w' hw'
  · exact hC w' hw'

theorem Triple.weaken {R : W → Prop} (h : Triple exec R m Q E C) (hP : ∀ w, P w → R w) :
    Triple exec P m Q E C :=
  fun w hw => h w (hP w hw)

theorem Triple.post (h : Triple exec P m Q' E C) (hQ : ∀ a w, Q' a w → Q a w) :
    Triple exec P m Q E C :=
  h.conseq (fun _ h => h) hQ (fun _ _ h => h) (fun _ h => h)

theorem Triple.and {Q₂ : α → W → Prop} {E₂ : ε → W → Prop} {C₂ : W → Prop}
    (h : Triple exec P m Q E C) (h₂ : Triple exec P' m Q₂ E₂ C₂) :
    Triple exec (fun w => P w ∧ P' w) m (fun a w => Q a w ∧ Q₂ a w)
      (fun e w => E e w ∧ E₂ e w) (fun w => C w ∧ C₂ w) := by
  intro w hw
  refine wp_mono ?_ (wp_and (h w hw.1) (h₂ w hw.2))
  rintro (a | e | _) w' hw' <;> exact hw'

theorem Triple.bind {f : α → Prog ε A β} (hm : Triple exec P m Q E C)
    (hf : ∀ a, Triple exec (Q a) (f a) R E C) : Triple exec P (m >>= f) R E C := by
  intro w hw
  rw [wp_bind]
  refine wp_mono ?_ (hm w hw)
  rintro (a | e | _) w' hw'
  · exact hf a w' hw'
  · exact hw'
  · exact hw'

theorem Triple.handle {h : ε → Prog ε A α} (hm : Triple exec P m Q E' C)
    (hh : ∀ e, Triple exec (E' e) (h e) Q E C) : Triple exec P (m.handle h) Q E C := by
  intro w hw
  rw [wp_handle]
  refine wp_mono ?_ (hm w hw)
  rintro (a | e | _) w' hw'
  · exact hw'
  · exact hh e w' hw'
  · exact hw'

theorem Triple.attempt {Q : Except ε α → W → Prop}
    (hm : Triple exec P m (fun a => Q (.ok a)) (fun e => Q (.error e)) C) :
    Triple exec P m.attempt Q E C :=
  .handle (.bind hm fun _ => .pure fun _ h => h) fun _ => .pure fun _ h => h

theorem Triple.perform {op : A α} (hC : ∀ w, P w → C w)
    (hok : ∀ w a w', P w → exec _ op w = (.ok a, w') → Q a w')
    (herr : ∀ w e w', P w → exec _ op w = (.error e, w') → E e w') :
    Triple exec P (perform op) Q E C := by
  intro w hw
  refine ⟨hC w hw, ?_⟩
  rcases h : exec _ op w with ⟨r, w'⟩
  cases r with
  | ok a => exact hok w a w' hw h
  | error e => exact herr w e w' hw h

/-- One condition for however the act ends. -/
theorem Triple.perform_same {op : A α} (hC : ∀ w, P w → I w) (h : ∀ w, P w → I (exec _ op w).2) :
    Triple exec P (Prog.perform op) (fun _ => I) (fun _ => I) I := by
  refine .perform hC (fun w a w' hw heq => ?_) fun w e w' hw heq => ?_
  · have := h w hw
    rwa [heq] at this
  · have := h w hw
    rwa [heq] at this

theorem Triple.ite {c : Prop} [Decidable c] {m m' : Prog ε A α}
    (h : c → Triple exec P m Q E C) (h' : ¬c → Triple exec P m' Q E C) :
    Triple exec P (if c then m else m') Q E C := by
  split
  · exact h ‹_›
  · exact h' ‹_›

theorem Triple.ensure {c : Prop} [Decidable c] {e : ε} {Q : Unit → W → Prop}
    (h : c → ∀ w, P w → Q () w) (h' : ¬c → ∀ w, P w → E e w) :
    Triple exec P (ensure c e) Q E C :=
  .ite (fun hc => .pure (h hc)) fun hc => .raise (h' hc)

theorem Triple.ofExcept {r : Except ε α} (h : ∀ a, r = .ok a → ∀ w, P w → Q a w)
    (h' : ∀ e, r = .error e → ∀ w, P w → E e w) : Triple exec P (ofExcept r) Q E C := by
  cases r with
  | ok a => exact .pure (h a rfl)
  | error e => exact .raise (h' e rfl)

/-- A fact about the world before the program may be assumed while proving its triple. -/
theorem Triple.assume (h : ∀ w, P w → Triple exec (fun v => v = w) m Q E C) :
    Triple exec P m Q E C :=
  fun w hw => h w hw w rfl

/-- A fact of the precondition that is not about the world may be assumed. -/
theorem Triple.assume_eq {p : Prop} (h : p → Triple exec P m Q E C) :
    Triple exec (fun w => P w ∧ p) m Q E C :=
  fun w hw => h hw.2 w hw.1

theorem Triple.exists_pre {γ : Sort*} {P : γ → W → Prop}
    (h : ∀ x, Triple exec (P x) m Q E C) : Triple exec (fun w => ∃ x, P x w) m Q E C :=
  fun w ⟨x, hx⟩ => h x w hx

/-- The loop rule: an invariant of the body is an invariant of the whole loop. -/
theorem Triple.each {f : α → Prog ε A β} {I : W → Prop} (xs : List α)
    (h : ∀ x ∈ xs, Triple exec I (f x) (fun _ => I) E C) :
    Triple exec I (each f xs) (fun _ => I) E C := by
  induction xs with
  | nil => exact .pure fun _ h => h
  | cons x xs ih =>
    refine .bind (h x (by simp)) fun _ => .bind (ih fun y hy => h y (by simp [hy])) fun _ => ?_
    exact .pure fun _ h => h

theorem Keeps.bind {f : α → Prog ε A β} (hm : Keeps exec I m) (hf : ∀ a, Keeps exec I (f a)) :
    Keeps exec I (m >>= f) :=
  Triple.bind hm hf

theorem Keeps.weaken (h : Keeps exec I m) (hP : ∀ w, P w → I w) :
    Triple exec P m (fun _ => I) (fun _ => I) I :=
  Triple.weaken h hP

/-- A stronger invariant from where it holds. -/
theorem Keeps.within {J : W → Prop} (h : Keeps exec J m) (hP : ∀ w, P w → J w)
    (hJ : ∀ w, J w → I w) : Triple exec P m (fun _ => I) (fun _ => I) I :=
  Triple.conseq h hP (fun _ => hJ) (fun _ => hJ) hJ

theorem Keeps.pure {a : α} : Keeps exec I (Pure.pure a : Prog ε A α) := fun _ h => h

theorem Keeps.raise {e : ε} : Keeps exec I (.raise e : Prog ε A α) := fun _ h => h

theorem Keeps.handle {h : ε → Prog ε A α} (hm : Keeps exec I m) (hh : ∀ e, Keeps exec I (h e)) :
    Keeps exec I (m.handle h) :=
  Triple.handle hm hh

theorem Keeps.attempt (hm : Keeps exec I m) : Keeps exec I m.attempt :=
  Triple.attempt hm

theorem Keeps.each {f : α → Prog ε A β} {xs : List α} (h : ∀ x ∈ xs, Keeps exec I (f x)) :
    Keeps exec I (each f xs) :=
  Triple.each xs h

theorem Keeps.ite {c : Prop} [Decidable c] {m m' : Prog ε A α} (h : Keeps exec I m)
    (h' : Keeps exec I m') : Keeps exec I (if c then m else m') :=
  Triple.ite (fun _ => h) fun _ => h'

theorem Keeps.perform {op : A α} (h : ∀ w, I w → I (exec _ op w).2) :
    Keeps exec I (Prog.perform op) :=
  Triple.perform_same (fun _ h => h) h

theorem Keeps.ofExcept {r : Except ε α} : Keeps exec I (ofExcept r) :=
  Triple.ofExcept (fun _ _ _ h => h) fun _ _ _ h => h

theorem Keeps.ensure {c : Prop} [Decidable c] {e : ε} : Keeps exec I (ensure c e) :=
  Triple.ensure (fun _ _ h => h) fun _ _ h => h

theorem Keeps.both {K : W → Prop} (hI : Keeps exec I m) (hK : Keeps exec K m) :
    Keeps exec (fun w => I w ∧ K w) m :=
  Triple.and hI hK

theorem Keeps.either {K : W → Prop} (hI : Keeps exec I m) (hK : Keeps exec K m) :
    Keeps exec (fun w => I w ∨ K w) m := by
  intro w hw
  rcases hw with hw | hw
  · refine wp_mono ?_ (hI w hw)
    rintro (a | e | _) w' hw' <;> exact .inl hw'
  · refine wp_mono ?_ (hK w hw)
    rintro (a | e | _) w' hw' <;> exact .inr hw'

/-- Two invariants, one of them only for a program that goes on. -/
theorem Keeps.framed {K : W → Prop} (hI : Keeps exec I m) (hK : Keeps exec K m) :
    Triple exec (fun w => I w ∧ K w) m (fun _ w => I w ∧ K w) (fun _ => I) I :=
  (Triple.and hI hK).conseq (fun _ hw => hw) (fun _ _ hw => hw) (fun _ _ hw => hw.1)
    fun _ hw => hw.1

/-- An invariant with a frame, of which a caller needs the frame only where the program goes on. -/
theorem Keeps.along {K : W → Prop} (h : Keeps exec (fun w => I w ∧ K w) m) :
    Triple exec (fun w => I w ∧ K w) m (fun _ w => I w ∧ K w) (fun _ => I) I :=
  h.conseq (fun _ hw => hw) (fun _ _ hw => hw) (fun _ _ hw => hw.1) fun _ hw => hw.1

theorem Keeps.run (h : Keeps exec I m) (n : ℕ) {w : W} (hw : I w) :
    I (Prog.run exec n m w).2 := by
  have hrun := wp_run (h w hw) n
  revert hrun
  rcases Prog.run exec n m w with ⟨_ | _ | _, w'⟩ <;> exact id

/-- An invariant of every act is an invariant of every program. -/
theorem keeps_of_exec (h : ∀ {γ} (op : A γ) w, I w → I (exec _ op w).2) (m : Prog ε A α) :
    Keeps exec I m := by
  intro w hw
  induction m generalizing w with
  | pure a => exact hw
  | raise e => exact hw
  | act op next ih => exact ⟨hw, ih _ _ (h op w hw)⟩

/-- A program that cannot fail ends, with some budget, in its postcondition. -/
theorem Triple.completes {C : W → Prop} (h : Triple exec P m Q (fun _ _ => False) C) {w : W}
    (hw : P w) : ∃ n a w', Prog.run exec n m w = (.done a, w') ∧ Q a w' := by
  obtain ⟨n, hn⟩ : ∃ n, (Prog.run exec n m w).1 ≠ .crashed := exists_run_ne_crashed exec m w
  have hrun := wp_run (h w hw) n
  rcases heq : Prog.run exec n m w with ⟨a | e | _, w'⟩
  · rw [heq] at hrun
    exact ⟨n, a, w', heq, hrun⟩
  · rw [heq] at hrun
    exact hrun.elim
  · rw [heq] at hn
    exact absurd rfl hn

/-- Nothing is claimed. -/
theorem Triple.top : Triple exec P m (fun _ _ => True) (fun _ _ => True) fun _ => True :=
  Triple.weaken (keeps_of_exec (fun _ _ h => h) m) fun _ _ => trivial

/-- An invariant that is only claimed under a condition. -/
theorem Keeps.given {p : Prop} (h : p → Keeps exec I m) : Keeps exec (fun w => p → I w) m := by
  by_cases hp : p
  · exact (h hp).conseq (fun _ hw => hw hp) (fun _ _ hw _ => hw) (fun _ _ hw _ => hw)
      fun _ hw _ => hw
  · exact Triple.top.conseq (fun _ _ => trivial) (fun _ _ _ h => absurd h hp)
      (fun _ _ _ h => absurd h hp) fun _ _ h => absurd h hp

/-- An invariant of every embedded act is an invariant of every lifted program. -/
theorem keeps_lift {emb : ∀ γ : Type, B γ → A γ}
    (h : ∀ {γ} (op : B γ) w, I w → I (exec _ (emb _ op) w).2) (m : Prog ε B α) :
    Keeps exec I (m.lift emb) := by
  intro w hw
  induction m generalizing w with
  | pure a => exact hw
  | raise e => exact hw
  | act op next ih => exact ⟨hw, ih _ _ (h op w hw)⟩

/-- A triple of a program holds of the program lifted to more acts. -/
theorem Triple.lift {exec' : ∀ γ : Type, B γ → W → Except ε γ × W} {emb : ∀ γ : Type, B γ → A γ}
    (hemb : ∀ {γ} (op : B γ) w, exec _ (emb _ op) w = exec' _ op w) {m : Prog ε B α}
    (h : Triple exec' P m Q E C) : Triple exec P (m.lift emb) Q E C := by
  have hwp : ∀ w, wp exec' m (Ends Q E C) w → wp exec (m.lift emb) (Ends Q E C) w := by
    clear h
    intro w hw
    induction m generalizing w with
    | pure a => exact hw
    | raise e => exact hw
    | act op next ih =>
      refine ⟨hw.1, ?_⟩
      rw [hemb]
      exact ih _ _ hw.2
  exact fun w hw => hwp w (h w hw)

end rules

section acts
variable {P : ∀ γ : Type, A γ → Prop} {m : Prog ε A α}

/-- Every act that the program may ever perform satisfies `P`. -/
def All (P : ∀ γ : Type, A γ → Prop) : Prog ε A α → Prop
  | .pure _ => True
  | .raise _ => True
  | .act op next => P _ op ∧ ∀ r, (next r).All P

theorem All.pure {a : α} : (Pure.pure a : Prog ε A α).All P := trivial

theorem All.raise {e : ε} : (Prog.raise e : Prog ε A α).All P := trivial

theorem All.bind {f : α → Prog ε A β} (hm : m.All P) (hf : ∀ a, (f a).All P) :
    (m >>= f).All P := by
  induction m with
  | pure a => exact hf a
  | raise e => trivial
  | act op next ih => exact ⟨hm.1, fun r => ih r (hm.2 r)⟩

theorem All.handle {h : ε → Prog ε A α} (hm : m.All P) (hh : ∀ e, (h e).All P) :
    (m.handle h).All P := by
  induction m with
  | pure a => trivial
  | raise e => exact hh e
  | act op next ih => exact ⟨hm.1, fun r => ih r (hm.2 r)⟩

theorem All.attempt (hm : m.All P) : m.attempt.All P :=
  .handle (.bind hm fun _ => .pure) fun _ => .pure

theorem All.each {β : Type} {f : α → Prog ε A β} {xs : List α} (h : ∀ x ∈ xs, (f x).All P) :
    (each f xs).All P := by
  induction xs with
  | nil => trivial
  | cons x xs ih =>
    refine .bind (h x (by simp)) fun _ => .bind (ih fun y hy => h y (by simp [hy])) fun _ => ?_
    exact .pure

theorem All.perform {op : A α} (h : P _ op) : (Prog.perform op : Prog ε A α).All P := by
  refine ⟨h, fun r => ?_⟩
  cases r <;> trivial

theorem All.ofExcept {r : Except ε α} : (Prog.ofExcept r : Prog ε A α).All P := by
  cases r <;> trivial

/-- What follows a value may use what the value is. -/
theorem All.bind_ofExcept {r : Except ε α} {f : α → Prog ε A β} (h : ∀ a, r = .ok a → (f a).All P) :
    (Prog.ofExcept r >>= f).All P := by
  cases r with
  | ok a => exact h a rfl
  | error e => trivial

theorem All.mono {P' : ∀ γ : Type, A γ → Prop} (h : ∀ {γ} (op : A γ), P γ op → P' γ op)
    (hm : m.All P) : m.All P' := by
  induction m with
  | pure a => trivial
  | raise e => trivial
  | act op next ih => exact ⟨h op hm.1, fun r => ih r (hm.2 r)⟩

theorem All.ensure {c : Prop} [Decidable c] {e : ε} : (Prog.ensure c e : Prog ε A Unit).All P := by
  unfold Prog.ensure
  split <;> trivial

theorem All.lift {emb : ∀ γ : Type, B γ → A γ} (h : ∀ {γ} (op : B γ), P _ (emb γ op))
    (m : Prog ε B α) : (m.lift emb).All P := by
  induction m with
  | pure a => trivial
  | raise e => trivial
  | act op next ih => exact ⟨h op, fun r => ih r⟩

/-- What the embedded acts satisfy, the lifted program satisfies. -/
theorem All.lift_of {P' : ∀ γ : Type, B γ → Prop} {emb : ∀ γ : Type, B γ → A γ} {m : Prog ε B α}
    (hm : m.All P') (h : ∀ {γ} (op : B γ), P' γ op → P _ (emb γ op)) : (m.lift emb).All P := by
  induction m with
  | pure a => trivial
  | raise e => trivial
  | act op next ih => exact ⟨h op hm.1, fun r => ih r (hm.2 r)⟩

/-- What every act of a program keeps, the program keeps. -/
theorem All.keeps {I : W → Prop} (hm : m.All P)
    (h : ∀ {γ} (op : A γ), P _ op → ∀ w, I w → I (exec _ op w).2) : Keeps exec I m := by
  intro w hw
  induction m generalizing w with
  | pure a => exact hw
  | raise e => exact hw
  | act op next ih => exact ⟨hw, ih _ (hm.2 _) _ (h op hm.1 w hw)⟩

end acts
end Prog
end Interaction
