import SpotSidecar.Interaction.Triple

/-! A machine with a spectator: a record of the run that no act can read. -/
namespace Interaction
namespace Prog
variable {ε α W S : Type} {A B : Type → Type 1}
  (exec : ∀ γ : Type, A γ → W → Except ε γ × W)
  (see : ∀ γ : Type, A γ → W → Except ε γ → S → S)

/-- Every act as before, and then a look at the act, the world before it and its answer. -/
def watched (γ : Type) (op : A γ) (w : W × S) : Except ε γ × (W × S) :=
  let answer := exec γ op w.1
  (answer.1, answer.2, see γ op w.1 answer.1 w.2)

variable {exec see}

theorem wp_watched {m : Prog ε A α} {Q : Outcome ε α → W → Prop} {w : W} {s : S}
    (hm : wp exec m Q w) : wp (watched exec see) m (fun o v => Q o v.1) (w, s) := by
  induction m generalizing w s with
  | pure a => exact hm
  | raise e => exact hm
  | act op next ih => exact ⟨hm.1, ih _ hm.2⟩

/-- A triple of the machine is a triple of the machine with its spectator. -/
theorem Triple.watched {m : Prog ε A α} {P : W → Prop} {Q : α → W → Prop} {E : ε → W → Prop}
    {C : W → Prop} (hm : Triple exec P m Q E C) :
    Triple (watched exec see) (fun v => P v.1) m (fun a v => Q a v.1) (fun e v => E e v.1)
      (fun v => C v.1) := by
  rintro ⟨w, s⟩ hw
  refine wp_mono ?_ (wp_watched (hm w hw))
  rintro (a | e | _) v hv <;> exact hv

/-- What is not about the record holds without the spectator. -/
theorem wp_unwatched {m : Prog ε A α} {Q : Outcome ε α → W → Prop} {w : W} {s : S}
    (hm : wp (watched exec see) m (fun o v => Q o v.1) (w, s)) : wp exec m Q w := by
  induction m generalizing w s with
  | pure a => exact hm
  | raise e => exact hm
  | act op next ih => exact ⟨hm.1, ih _ hm.2⟩

/-- A triple of the machine with its spectator, from one record, that says nothing of the record. -/
theorem Triple.unwatched {m : Prog ε A α} {P : W × S → Prop} {Q : α → W → Prop}
    {E : ε → W → Prop} {C : W → Prop}
    (hm : Triple (Prog.watched exec see) P m (fun a v => Q a v.1) (fun e v => E e v.1)
      fun v => C v.1)
    (s : S) : Triple exec (fun w => P (w, s)) m Q E C := by
  intro w hw
  apply wp_unwatched
  refine wp_mono ?_ (hm (w, s) hw)
  rintro (a | e | _) v hv <;> exact hv

/-- What the spectator does not look at leaves the record as it is. -/
theorem All.keeps_record {unseen : ∀ γ : Type, A γ → Prop} {m : Prog ε A α} (hm : m.All unseen)
    (h : ∀ {γ} (op : A γ), unseen γ op → ∀ w r s, see γ op w r s = s) (R : S → Prop) :
    Keeps (watched exec see) (fun v => R v.2) m :=
  hm.keeps fun op hop v hv => by
    rw [Prog.watched, h op hop]
    exact hv

end Prog
end Interaction
