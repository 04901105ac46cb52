import SpotSidecar.PairControl.Switching
import Mathlib.Tactic.IntervalCases

/-! The published projections: when entries resume, both are those of the authoritative state. -/
namespace SpotSidecar.PairControl
open Interaction Prog
variable {σ : Type} {cfg : PairConfig} {env : PairEnv σ} {w : World σ}

/-- Both projections are derived from the authoritative state. -/
def Disk.Agrees (d : Disk) : Prop :=
  ∀ a, d.state = some a → d.pairlist = some a.toPairlist ∧ d.overlay = some a.toOverlay

/-- A projection has been written after the authoritative state was. -/
def halfPublished (history : List Event) : Bool :=
  match lastPublication history with
  | some (.pairlist _) | some (.overlay _) => true
  | _ => false

/-- The call gives a blocked switch up whose publication did not reach the authoritative state:
it names the pair that is still active. -/
def Abandons (cfg : PairConfig) (w : World σ) (s : Step) : Prop :=
  halfPublished w.history = true ∧ (∃ v, w.disk.switch = some v ∧ v.stage = .blocked) ∧
    ∃ requested hash a, s.op = .beginSwitch requested hash ∧ w.disk.state = some a ∧
      canonicalPair cfg requested = .ok a.pair

/-- The projections agree, or a publication stopped halfway and the stage tells so. -/
def Projected (w : World σ) : Prop :=
  w.disk.Agrees ∨ halfPublished w.history = true ∧ ∃ v, w.disk.switch = some v ∧
    v.stage.ready = false ∧ v.stage ≠ .verifyingPair

theorem step_earlier (s : Step) : (step cfg env w s).earlier = w.history := by
  have hkeep : Keeps (PairAct.exec env) (fun v => v.earlier = w.history) (s.op.program cfg) := by
    refine keeps_of_exec (fun {γ} a v hv => ?_) _
    cases a with
    | disk => exact hv
    | now => exact hv
    | requirePair pair => exact hv
    | write f => unfold PairAct.exec; dsimp only; split <;> exact hv
    | verifyFlat symbols => unfold PairAct.exec; dsimp only; split <;> exact hv
    | validateTarget pair => unfold PairAct.exec; dsimp only; split <;> exact hv
  exact hkeep.run s.budget rfl

variable (cfg) (env) in
theorem lastPublication_step (s : Step) : lastPublication (step cfg env w s).history =
    (lastPublication (step cfg env w s).log).or (lastPublication w.history) := by
  rw [World.history, step_earlier]
  exact List.findSome?_append

theorem agrees_published {d : Disk} {s : ActiveState} : (d.published s 3).Agrees := by
  rintro a ⟨⟩
  exact ⟨rfl, rfl⟩

theorem Disk.Agrees.replace_switch {d : Disk} (h : d.Agrees) (v : SwitchState) :
    (d.replace (.switch v)).Agrees := h

theorem Projected.step (h : Projected w) (s : Step) (hfits : ¬Abandons cfg w s) :
    Projected (step cfg env w s) := by
  have hmoved := moved_step cfg env w s
  have hlast := lastPublication_step cfg env (w := w) s
  -- what is left when only a stage that does not let entries resume has been written
  have hstays : ∀ {v : SwitchState} {stage : Stage} {a : ActiveState} {target : Option String},
      (PairControl.step cfg env w s).disk = w.disk.replace (.switch v) →
      v.Records stage a target → stage.ready = false → stage ≠ .verifyingPair →
      lastPublication (PairControl.step cfg env w s).log = none →
      Projected (PairControl.step cfg env w s) := by
    intro v stage a target hdisk hrecords hready hne hnone
    rw [hnone, Option.none_or] at hlast
    rcases h with hagrees | ⟨hhalf, -⟩
    · refine .inl ?_
      rw [hdisk]
      exact hagrees.replace_switch v
    · refine .inr ⟨?_, v, ?_, ?_, ?_⟩
      · rwa [halfPublished, hlast]
      · rw [hdisk]
        rfl
      · rwa [hrecords.stage]
      · rwa [hrecords.stage]
  have hresumes : ∀ {a : ActiveState} {st : SwitchStatus} {v : SwitchState},
      w.disk.Shows cfg a st →
      (PairControl.step cfg env w s).disk = w.disk.replace (.switch v) →
      (halfPublished w.history = true → ∀ v, w.disk.switch = some v → st.stage = v.stage →
        v.stage.ready = false → v.stage ≠ .verifyingPair → False) →
      Projected (PairControl.step cfg env w s) := by
    intro a st v hshows hdisk habsurd
    rcases h with hagrees | ⟨hhalf, v', hv', hready, hne⟩
    · refine .inl ?_
      rw [hdisk]
      exact hagrees.replace_switch v
    · rcases statusOf_eq_ok hshows.status with ⟨hnone, -⟩ | ⟨v'', hv'', hst, -⟩
      · rw [hnone] at hv'
        cases hv'
      · cases hv'.symm.trans hv''
        exact (habsurd hhalf v' hv' hst hready hne).elim
  generalize hd' : (PairControl.step cfg env w s).disk = d' at hmoved hstays hresumes
  generalize hl' : (PairControl.step cfg env w s).log = log at hmoved hstays hlast
  generalize hop : s.op = op at hmoved
  cases hmoved with
  | still =>
    rw [show lastPublication ([] : List Event) = none from rfl, Option.none_or] at hlast
    rw [Projected, hd', halfPublished, hlast]
    exact h
  | @bootstrapped initial now k next log hnone hs hlog =>
    refine .inl ?_
    rw [hd']
    by_cases hk : k < 3
    · intro a ha
      rw [loaded_published hk, hnone.1] at ha
      cases ha
    · obtain ⟨k, rfl⟩ : ∃ j, k = j + 3 := ⟨k - 3, by omega⟩
      rw [Disk.published, publications_take]
      exact agrees_published
  | resumed hshows hidle hsame hrecords hlog =>
    refine hresumes hshows rfl fun hhalf v hv hst hready hne => ?_
    have hblocked : v.stage = .blocked := by
      rw [hst] at hidle
      revert hidle hready
      cases v.stage <;> decide
    exact hfits ⟨hhalf, ⟨v, hv, hblocked⟩, _, _, _, hop, state_of_loaded hshows.loaded, hsame⟩
  | announced hshows hidle htarget hne hstages hrecords hlog =>
    refine hstays rfl hrecords ?_ ?_ hlog <;> rcases hstages with rfl | rfl | rfl <;> decide
  | selected hshows hidle htarget hne hsymbol hok hflat hrecords hlog =>
    exact hstays rfl hrecords rfl (by decide) hlog
  | rechecked hshows hwaiting htarget hstages hrecords hlog =>
    refine hstays rfl hrecords ?_ ?_ hlog <;> rcases hstages with rfl | rfl <;> decide
  | @applying target symbol a next st stage verification now k v log hshows hwaiting htarget
      hsymbol hok hflat hvalid hnext hstages hrecords hlog =>
    have hready : stage.ready = false ∧ stage ≠ .verifyingPair := by
      rcases hstages with rfl | ⟨rfl, -⟩ <;> decide
    have hhalf : 0 < k → k < 3 → Projected (PairControl.step cfg env w s) := by
      intro hpos hk
      refine .inr ⟨?_, v, ?_, ?_, ?_⟩
      · rw [halfPublished, hlast, hlog]
        have hone : k = 1 ∨ k = 2 := by omega
        rcases hone with rfl | rfl <;> rfl
      · rw [hd']
        rfl
      · rw [hrecords.stage]
        exact hready.1
      · rw [hrecords.stage]
        exact hready.2
    by_cases hk : k < 3
    · by_cases hpos : 0 < k
      · exact hhalf hpos hk
      · obtain rfl : k = 0 := by omega
        exact hstays rfl hrecords hready.1 hready.2 hlog
    · obtain ⟨k, rfl⟩ : ∃ j, k = j + 3 := ⟨k - 3, by omega⟩
      refine .inl ?_
      rw [hd', Disk.published, publications_take]
      exact agrees_published.replace_switch v
  | applied hshows hwaiting htarget hsymbol hok hflat hvalid hnext hrecords hlog =>
    refine .inl ?_
    rw [hd']
    exact agrees_published.replace_switch _
  | verified hshows hverifying htarget hproof hrecords hwrote hlog =>
    refine hresumes hshows rfl fun _ v _ hst _ hne => ?_
    exact hne (hst.symm.trans hverifying)
  | activated hshows hready hrecords hlog =>
    refine hresumes hshows rfl fun _ v _ hst hnot _ => ?_
    rw [hst, hnot] at hready
    cases hready

theorem projected_runSteps (cfg : PairConfig) (env : PairEnv σ) (e : σ) (steps : List Step)
    (hfits : ∀ before s, before ++ [s] <+: steps →
      ¬Abandons cfg (runSteps cfg env { env := e } before) s) :
    Projected (runSteps cfg env { env := e } steps) := by
  induction steps using List.reverseRecOn with
  | nil => exact .inl fun a ha => nomatch ha
  | append_singleton steps s ih =>
    rw [runSteps_concat]
    refine Projected.step (ih fun before s' hs' => ?_) s (hfits steps s (List.prefix_refl _))
    exact hfits before s' (hs'.trans (List.prefix_append _ _))

/-- When entries resume, both projections are those of the authoritative state, if no call has
given up a switch whose publication had stopped halfway. -/
theorem projections_agree (cfg : PairConfig) (env : PairEnv σ) (e : σ) (steps : List Step)
    (hfits : ∀ before s, before ++ [s] <+: steps →
      ¬Abandons cfg (runSteps cfg env { env := e } before) s)
    (hready : ResumeReady cfg env (runSteps cfg env { env := e } steps)) :
    ∃ a, (runSteps cfg env { env := e } steps).disk.state = some a ∧
      (runSteps cfg env { env := e } steps).disk.pairlist = some a.toPairlist ∧
      (runSteps cfg env { env := e } steps).disk.overlay = some a.toOverlay := by
  obtain ⟨a, st, hshows, hstage⟩ := hready.shows
  have hstate := state_of_loaded hshows.loaded
  rcases projected_runSteps cfg env e steps hfits with hagrees | ⟨-, v, hv, hnot, -⟩
  · exact ⟨a, hstate, hagrees a hstate⟩
  · rcases statusOf_eq_ok hshows.status with ⟨hnone, -⟩ | ⟨v', hv', hst, -⟩
    · rw [hnone] at hv
      cases hv
    · cases hv.symm.trans hv'
      rw [hst, hnot] at hstage
      cases hstage

/-- A whole switch of the active pair. -/
def Scripted.switched : List Step :=
  selection ++ [whole .completeSwitch, whole (.markPairVerified { ok := true, pair := "BTC/USDC" })]

theorem resumeReady_of_isDone {n : ℕ}
    (h : ((requireResumeReady cfg).run (PairAct.exec env) n w).1.isDone = true) :
    ResumeReady cfg env w := by
  obtain ⟨status, hstatus⟩ := Outcome.exists_of_isDone h
  exact ⟨n, status, _, Prod.ext hstatus rfl⟩

theorem projections_agree_switched :
    ∃ a, (runSteps Scripted.config Scripted.env { env := [] } Scripted.switched).disk.state =
    some a ∧
      (runSteps Scripted.config Scripted.env { env := [] } Scripted.switched).disk.pairlist =
        some a.toPairlist ∧
      (runSteps Scripted.config Scripted.env { env := [] } Scripted.switched).disk.overlay =
        some a.toOverlay := by
  refine projections_agree Scripted.config Scripted.env [] Scripted.switched (fun before s hs => ?_)
    (resumeReady_of_isDone (n := 100) (by decide +kernel))
  obtain ⟨n, hn, rfl, hstep⟩ := prefix_concat hs
  have hn : n < 4 := hn
  rintro ⟨hhalf, -, requested, hash, a, hop, -⟩
  interval_cases n <;> cases hstep <;> cases hop
  revert hhalf
  decide +kernel

/-- The overlay cannot be written, and the owner names the pair that is still active: entries
may resume while the pairlist is that of the other pair. -/
theorem projections_agree_abandoned :
    let w := runSteps Scripted.config Scripted.env
      { env := [true, true, true, true, true, true, true, true, true, false] }
      (Scripted.selection ++
        [Scripted.whole .completeSwitch, Scripted.whole (.beginSwitch "BTC/USDT" "")])
    ResumeReady Scripted.config Scripted.env w ∧ w.disk.state = some Scripted.first ∧
      w.disk.pairlist.map (·.pairs) = some ["BTC/USDC"] ∧
      w.disk.overlay = some Scripted.first.toOverlay := by
  refine ⟨resumeReady_of_isDone (n := 100) (by decide +kernel), ?_⟩
  decide +kernel

end SpotSidecar.PairControl
