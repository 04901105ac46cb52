import SpotSidecar.Interaction.Triple

/-! What a program does when nothing stops the machine. -/
namespace Interaction

/-- The outcome of a program that ends. -/
def Outcome.ofExcept {ε α : Type} : Except ε α → Outcome ε α
  | .ok a => .done a
  | .error e => .raised e

namespace Prog
variable {ε α β W : Type} {A B : Type → Type 1}

/-- The answer or the error of a program, with the world it leaves. -/
def eval (exec : ∀ γ : Type, A γ → W → Except ε γ × W) : Prog ε A α → W → Except ε α × W
  | .pure a, w => (.ok a, w)
  | .raise e, w => (.error e, w)
  | .act op next, w => eval exec (next (exec _ op w).1) (exec _ op w).2

variable {exec : ∀ γ : Type, A γ → W → Except ε γ × W} {m : Prog ε A α} {w : W}

theorem bind_assoc {γ : Type} (m : Prog ε A α) (f : α → Prog ε A β) (g : β → Prog ε A γ) :
    m >>= f >>= g = m >>= fun a => f a >>= g := by
  induction m with
  | pure a => rfl
  | raise e => rfl
  | act op next ih => exact congrArg (Prog.act op) (funext fun r => ih r)

theorem eval_bind (f : α → Prog ε A β) : eval exec (m >>= f) w =
    match eval exec m w with
    | (.ok a, w') => eval exec (f a) w'
    | (.error e, w') => (.error e, w') := by
  induction m generalizing w with
  | pure a => rfl
  | raise e => rfl
  | act op next ih => exact ih _

theorem eval_bind_ok {f : α → Prog ε A β} {a : α} {w' : W} (h : eval exec m w = (.ok a, w')) :
    eval exec (m >>= f) w = eval exec (f a) w' := by
  rw [eval_bind, h]

theorem eval_handle (g : ε → Prog ε A α) : eval exec (m.handle g) w =
    match eval exec m w with
    | (.ok a, w') => (.ok a, w')
    | (.error e, w') => eval exec (g e) w' := by
  induction m generalizing w with
  | pure a => rfl
  | raise e => rfl
  | act op next ih => exact ih _

/-- An attempt ends as the program does, and never in an error. -/
theorem eval_attempt : eval exec m.attempt w = (.ok (eval exec m w).1, (eval exec m w).2) := by
  rw [attempt, eval_handle, eval_bind]
  rcases eval exec m w with ⟨a | e, w'⟩ <;> rfl

/-- What a triple says of the evaluation. -/
theorem Triple.eval {P : W → Prop} {Q : α → W → Prop} {E : ε → W → Prop} {C : W → Prop}
    (h : Triple exec P m Q E C) (hw : P w) :
    (∀ a w', Prog.eval exec m w = (.ok a, w') → Q a w') ∧
      (∀ e w', Prog.eval exec m w = (.error e, w') → E e w') := by
  have hm := h w hw
  clear h hw
  induction m generalizing w with
  | pure a =>
    refine ⟨fun b w' heq => ?_, fun e w' heq => ?_⟩
    · obtain ⟨hb, rfl⟩ := Prod.mk.inj heq
      exact Except.ok.inj hb ▸ hm
    · exact absurd (Prod.mk.inj heq).1 (by simp)
  | raise e =>
    refine ⟨fun b w' heq => ?_, fun e' w' heq => ?_⟩
    · exact absurd (Prod.mk.inj heq).1 (by simp)
    · obtain ⟨he, rfl⟩ := Prod.mk.inj heq
      exact Except.error.inj he ▸ hm
  | act op next ih => exact ih _ hm.2

theorem Keeps.eval {I : W → Prop} (h : Keeps exec I m) (hw : I w) : I (Prog.eval exec m w).2 := by
  obtain ⟨hok, herr⟩ := Triple.eval h hw
  rcases heq : Prog.eval exec m w with ⟨e | a, w'⟩
  · exact herr e w' heq
  · exact hok a w' heq

end Prog
end Interaction
