import SpotSidecar.Interaction.Triple

/-! Programs of a machine that is part of a larger one. -/
namespace Interaction
namespace Prog
variable {ε α V W : Type} {A B : Type → Type 1}
  {exec : ∀ γ : Type, A γ → W → Except ε γ × W} {exec' : ∀ γ : Type, B γ → V → Except ε γ × V}
  {emb : ∀ γ : Type, B γ → A γ} {get : W → V}

theorem lift_perform (op : B α) :
    (perform op : Prog ε B α).lift emb = perform (emb α op) :=
  congrArg (Prog.act (emb α op)) (funext fun r => by cases r <;> rfl)

/-- The larger machine answers as its part does, and does to its part what the part does. -/
def Contains (exec : ∀ γ : Type, A γ → W → Except ε γ × W)
    (exec' : ∀ γ : Type, B γ → V → Except ε γ × V) (emb : ∀ γ : Type, B γ → A γ)
    (get : W → V) : Prop :=
  ∀ (γ : Type) (op : B γ) (w : W), (exec γ (emb γ op) w).1 = (exec' γ op (get w)).1 ∧
    get (exec γ (emb γ op) w).2 = (exec' γ op (get w)).2

theorem wp_embed (h : Contains exec exec' emb get) {m : Prog ε B α}
    {Q : Outcome ε α → V → Prop} {w : W} (hm : wp exec' m Q (get w)) :
    wp exec (m.lift emb) (fun o w => Q o (get w)) w := by
  induction m generalizing w with
  | pure a => exact hm
  | raise e => exact hm
  | act op next ih =>
    refine ⟨hm.1, ?_⟩
    rw [(h _ op w).1]
    refine ih _ ?_
    rw [(h _ op w).2]
    exact hm.2

/-- A triple about the part is a triple about the part of the whole. -/
theorem Triple.embed (h : Contains exec exec' emb get) {m : Prog ε B α} {P : V → Prop}
    {Q : α → V → Prop} {E : ε → V → Prop} {C : V → Prop} (hm : Triple exec' P m Q E C) :
    Triple exec (fun w => P (get w)) (m.lift emb) (fun a w => Q a (get w))
      (fun e w => E e (get w)) (fun w => C (get w)) := by
  intro w hw
  refine wp_mono ?_ (wp_embed h (hm _ hw))
  rintro (a | e | _) w' hw' <;> exact hw'

theorem Keeps.embed (h : Contains exec exec' emb get) {m : Prog ε B α} {I : V → Prop}
    (hm : Keeps exec' I m) : Keeps exec (fun w => I (get w)) (m.lift emb) :=
  Triple.embed h hm

end Prog
end Interaction
