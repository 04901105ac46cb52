import SpotSidecar.PairControl.Moves
import SpotSidecar.PairControl.Scripted
import Mathlib.Data.List.Induction

/-! The safety of a pair switch: how the active pair may change, and when entries may resume. -/
namespace SpotSidecar.PairControl
open Interaction Prog
variable {σ : Type} {cfg : PairConfig} {env : PairEnv σ} {w : World σ}

theorem runSteps_append (cfg : PairConfig) (env : PairEnv σ) (w : World σ)
    (steps more : List Step) :
    runSteps cfg env w (steps ++ more) = runSteps cfg env (runSteps cfg env w steps) more :=
  List.foldl_append

theorem runSteps_concat (cfg : PairConfig) (env : PairEnv σ) (w : World σ) (steps : List Step)
    (s : Step) : runSteps cfg env w (steps ++ [s]) = step cfg env (runSteps cfg env w steps) s :=
  runSteps_append cfg env w steps [s]

/-- What a status tells about the record on disk. -/
theorem statusOf_eq_ok {a : ActiveState} {sw : Option SwitchState} {st : SwitchStatus}
    (h : statusOf cfg a sw = .ok st) : (sw = none ∧ st.stage = .active) ∨
      ∃ v, sw = some v ∧ st.stage = v.stage ∧
        v.targetPair.mapM (canonicalPair cfg) = .ok st.targetPair ∧
        (v.activePair = a.pair ∨ v.stage.outlives = true) := by
  cases sw with
  | none =>
    cases h
    exact .inl ⟨rfl, rfl⟩
  | some v =>
    dsimp only [statusOf] at h
    split at h
    · cases h
    · obtain ⟨target, htarget, h⟩ := except_bind_eq_ok.mp h
      split at h
      · cases h
      · next hactive =>
        cases h
        refine .inr ⟨v, rfl, rfl, htarget, ?_⟩
        by_cases hsame : v.activePair = a.pair
        · exact .inl hsame
        · exact .inr (by simpa [hsame] using hactive)

/-- A run of `require_resume_ready` that succeeds. -/
def ResumeReady (cfg : PairConfig) (env : PairEnv σ) (w : World σ) : Prop :=
  ∃ n status w', (requireResumeReady cfg).run (PairAct.exec env) n w = (.done status, w')

theorem ResumeReady.shows (h : ResumeReady cfg env w) :
    ∃ a st, w.disk.Shows cfg a st ∧ st.stage.ready = true := by
  obtain ⟨n, status, w', hrun⟩ := h
  have htriple : Triple (PairAct.exec env) (At w.disk w.log) (requireResumeReady cfg)
      (fun _ _ => ∃ a st, w.disk.Shows cfg a st ∧ st.stage.ready = true) (fun _ _ => True)
      fun _ => True := by
    unfold requireResumeReady
    refine Triple.bind (triple_switchStatus (fun _ _ _ => trivial) fun _ _ => trivial)
      fun status => Triple.assume_eq ?_
    rintro ⟨a, hshows⟩
    refine Triple.bind (Q := fun _ _ => ∃ a st, w.disk.Shows cfg a st ∧ st.stage.ready = true) ?_
      fun _ => .pure fun _ hw => hw
    exact .ensure (fun hready _ _ => ⟨a, status, hshows, hready⟩) fun _ _ _ => trivial
  have := wp_run (htriple w ⟨rfl, rfl⟩) n
  rwa [hrun] at this

/-- The last call of `begin_switch` that did anything selected the target, and its flat check of
the symbols succeeded. -/
def Selected (cfg : PairConfig) (env : PairEnv σ) (w : World σ) (steps : List Step)
    (target : String) (symbols : List String) : Prop :=
  ∃ before call since requested hash verification, steps = before ++ call :: since ∧
    call.op = .beginSwitch requested hash ∧ canonicalPair cfg requested = .ok target ∧
    verification.ok = true ∧
    .flat symbols verification ∈ (runSteps cfg env w (before ++ [call])).log ∧
    ∀ p s q, since = p ++ s :: q → ∀ r h, s.op = .beginSwitch r h →
      (runSteps cfg env w (before ++ call :: p ++ [s])).log = []

theorem Selected.concat {steps : List Step} {target : String} {symbols : List String}
    (h : Selected cfg env w steps target symbols) {s : Step}
    (hs : (runSteps cfg env w (steps ++ [s])).log = []) :
    Selected cfg env w (steps ++ [s]) target symbols := by
  obtain ⟨before, call, since, requested, hash, verification, rfl, hop, htarget, hok, hflat,
    hsince⟩ := h
  refine ⟨before, call, since ++ [s], requested, hash, verification, by simp, hop, htarget, hok,
    hflat, ?_⟩
  intro p s' q hsplit r h hbegin
  rcases List.eq_nil_or_concat q with rfl | ⟨q, last, rfl⟩
  · obtain ⟨rfl, hlast⟩ := List.append_inj' hsplit rfl
    cases hlast
    simpa using hs
  · refine hsince p s' q ?_ r h hbegin
    have hsame : since ++ [s] = (p ++ s' :: q) ++ [last] := by simpa using hsplit
    exact (List.append_inj' hsame rfl).1

/-- While a switch waits for the owner, its target is the one that was selected last. -/
def Waits (cfg : PairConfig) (env : PairEnv σ) (w : World σ) (steps : List Step) : Prop :=
  ∀ v, (runSteps cfg env w steps).disk.switch = some v → v.stage = .waitingManualSwap →
    ∃ a target symbol value, (runSteps cfg env w steps).disk.state = some a ∧
      v.targetPair = some target ∧ canonicalPair cfg value = .ok target ∧ target ≠ a.pair ∧
      symbolForPair cfg target = .ok symbol ∧
      Selected cfg env w steps target [a.symbol, symbol]

theorem waits_runSteps (cfg : PairConfig) (env : PairEnv σ) (e : σ) (steps : List Step) :
    Waits cfg env { env := e } steps := by
  induction steps using List.reverseRecOn with
  | nil =>
    intro v hv
    cases hv
  | append_singleton steps s ih =>
    intro v hv hstage
    have hmoved := moved_step cfg env (runSteps cfg env { env := e } steps) s
    rw [← runSteps_concat] at hmoved
    generalize hd' : (runSteps cfg env { env := e } (steps ++ [s])).disk = d' at hmoved hv ⊢
    generalize hl' : (runSteps cfg env { env := e } (steps ++ [s])).log = log at hmoved
    generalize hop : s.op = op at hmoved
    have hwrote : ∀ {stage : Stage} {a : ActiveState} {target : Option String} {v' : SwitchState}
        {d : Disk}, stage ≠ .waitingManualSwap → v'.Records stage a target →
        (d.replace (.switch v')).switch = some v → False := by
      intro stage a target v' d hne hrecords heq
      obtain rfl : v' = v := Option.some.inj heq
      exact hne (hrecords.stage.symm.trans hstage)
    cases hmoved with
    | still =>
      obtain ⟨a, target, symbol, value, hstate, htarget, hvalue, hne, hsymbol, hselected⟩ :=
        ih v hv hstage
      exact ⟨a, target, symbol, value, hstate, htarget, hvalue, hne, hsymbol, hselected.concat hl'⟩
    | @bootstrapped initial now k next log hnone hs hlog =>
      have hsame : ((runSteps cfg env { env := e } steps).disk.published next k).switch =
          (runSteps cfg env { env := e } steps).disk.switch := published_keeps_switch
      rw [hsame] at hv
      obtain ⟨a, target, symbol, value, hstate, -⟩ := ih v hv hstage
      rw [hnone.1] at hstate
      cases hstate
    | resumed hshows hidle hsame hrecords hlog => exact (hwrote (by decide) hrecords hv).elim
    | announced hshows hidle htarget hne hstages hrecords hlog =>
      refine (hwrote ?_ hrecords hv).elim
      rcases hstages with rfl | rfl | rfl <;> decide
    | selected hshows hidle htarget hne hsymbol hok hflat hrecords hlog =>
      obtain rfl := Option.some.inj hv
      refine ⟨_, _, _, _, state_of_loaded hshows.loaded, hrecords.targetPair, htarget, hne, hsymbol,
        steps, s, [], _, _, _, rfl, hop, htarget, hok, ?_, ?_⟩
      · rwa [hl']
      · intro p s' q hsplit
        cases p <;> cases hsplit
    | rechecked hshows hwaiting htarget hstages hrecords hlog =>
      refine (hwrote ?_ hrecords hv).elim
      rcases hstages with rfl | rfl <;> decide
    | applying hshows hwaiting htarget hsymbol hok hflat hvalid hnext hstages hrecords hlog =>
      refine (hwrote ?_ hrecords hv).elim
      rcases hstages with rfl | ⟨rfl, -⟩ <;> decide
    | applied hshows hwaiting htarget hsymbol hok hflat hvalid hnext hrecords hlog =>
      exact (hwrote (by decide) hrecords hv).elim
    | verified hshows hverifying htarget hproof hrecords hwrote' hlog =>
      exact (hwrote (by decide) hrecords hv).elim
    | activated hshows hready hrecords hlog => exact (hwrote (by decide) hrecords hv).elim

/-- After a change to `b`, before it is verified: the stage of the publication is on record for
another pair, or the switch waits for the proof. -/
structure Unverified (d : Disk) (b : ActiveState) : Prop where
  state : d.state = some b
  stage : ∃ v, d.switch = some v ∧
    (v.stage = .verifyingPair ∨ v.stage = .applyingPair ∧ v.activePair ≠ b.pair)

/-- The only status that an unverified change shows is that of the wait for its proof. -/
theorem Unverified.status {d : Disk} {b a : ActiveState} {st : SwitchStatus} (h : Unverified d b)
    (hshows : d.Shows cfg a st) : a = b ∧ st.stage = .verifyingPair := by
  have hstate := state_of_loaded hshows.loaded
  rw [h.state] at hstate
  cases hstate
  obtain ⟨v, hv, hstage⟩ := h.stage
  refine ⟨rfl, ?_⟩
  rcases statusOf_eq_ok hshows.status with ⟨hnone, -⟩ | ⟨v', hv', hst, -, hactive⟩
  · rw [hnone] at hv
    cases hv
  · cases hv.symm.trans hv'
    rcases hstage with hstage | ⟨hstage, hne⟩
    · exact hst.trans hstage
    · rcases hactive with hsame | houtlives
      · exact absurd hsame hne
      · rw [hstage] at houtlives
        cases houtlives

/-- A call leaves a change unverified, or it is the verification. -/
theorem Unverified.moved {d d' : Disk} {b : ActiveState} {op : Op} {log : List Event}
    (h : Unverified d b) (hmoved : Moved cfg d op log d') : Unverified d' b ∨
      ∃ proof v, op = .markPairVerified proof ∧ proof.ok = true ∧ .wrote (.switch v) ∈ log ∧
        v.Records .pausedReady b (some b.pair) := by
  cases hmoved with
  | still => exact .inl h
  | bootstrapped hnone hs hlog =>
    have hstate := h.state
    rw [hnone.1] at hstate
    cases hstate
  | resumed hshows hidle hsame hrecords hlog =>
    rw [(h.status hshows).2] at hidle
    cases hidle
  | announced hshows hidle htarget hne hstages hrecords hlog =>
    rw [(h.status hshows).2] at hidle
    cases hidle
  | selected hshows hidle htarget hne hsymbol hok hflat hrecords hlog =>
    rw [(h.status hshows).2] at hidle
    cases hidle
  | rechecked hshows hwaiting htarget hstages hrecords hlog =>
    rw [(h.status hshows).2] at hwaiting
    cases hwaiting
  | applying hshows hwaiting htarget hsymbol hok hflat hvalid hnext hstages hrecords hlog =>
    rw [(h.status hshows).2] at hwaiting
    cases hwaiting
  | applied hshows hwaiting htarget hsymbol hok hflat hvalid hnext hrecords hlog =>
    rw [(h.status hshows).2] at hwaiting
    cases hwaiting
  | verified hshows hverifying htarget hproof hrecords hwrote hlog =>
    obtain ⟨rfl, -⟩ := h.status hshows
    exact .inr ⟨_, _, rfl, hproof, hwrote, hrecords⟩
  | activated hshows hready hrecords hlog =>
    rw [(h.status hshows).2] at hready
    cases hready

/-- The call that verifies a change, in the calls after it. -/
def VerifiedIn (cfg : PairConfig) (env : PairEnv σ) (w : World σ) (b : ActiveState)
    (more : List Step) : Prop :=
  ∃ before call after proof v, more = before ++ call :: after ∧
    call.op = .markPairVerified proof ∧ proof.ok = true ∧
    (runSteps cfg env w before).disk.state = some b ∧
    .wrote (.switch v) ∈ (runSteps cfg env w (before ++ [call])).log ∧
    v.Records .pausedReady b (some b.pair)

theorem Unverified.runSteps {b : ActiveState} (h : Unverified w.disk b) (more : List Step) :
    Unverified (runSteps cfg env w more).disk b ∨ VerifiedIn cfg env w b more := by
  induction more using List.reverseRecOn with
  | nil => exact .inl h
  | append_singleton more s ih =>
    rcases ih with hstill | ⟨before, call, after, proof, v, rfl, hrest⟩
    · have hmoved := moved_step cfg env (PairControl.runSteps cfg env w more) s
      rw [← runSteps_concat] at hmoved
      rcases hstill.moved hmoved with hnext | ⟨proof, v, hop, hproof, hwrote, hrecords⟩
      · exact .inl hnext
      · exact .inr ⟨more, s, [], proof, v, rfl, hop, hproof, hstill.state, hwrote, hrecords⟩
    · exact .inr ⟨before, call, after ++ [s], proof, v, by simp, hrest⟩

/-- A change of the active pair that follows the rules of a switch. -/
structure Switches (cfg : PairConfig) (env : PairEnv σ) (w : World σ) (steps : List Step)
    (s : Step) (a b : ActiveState) : Prop where
  op : s.op = .completeSwitch
  state : (runSteps cfg env w (steps ++ [s])).disk.state = some b
  waiting : ∃ v, (runSteps cfg env w steps).disk.switch = some v ∧
    v.stage = .waitingManualSwap ∧ v.targetPair = some b.pair
  pair : b.pair ≠ a.pair
  generation : b.generation = a.generation + 1
  selected : Selected cfg env w steps b.pair [a.symbol, b.symbol]
  flat : ∃ verification, verification.ok = true ∧
    .flat [a.symbol, b.symbol] verification ∈ (runSteps cfg env w (steps ++ [s])).log
  validated : .validated b.pair ∈ (runSteps cfg env w (steps ++ [s])).log

/-- The authoritative state changes only as a switch does, and is unverified then. -/
theorem switches_of_change {steps : List Step} {s : Step} {a : ActiveState} {e : σ}
    (ha : (runSteps cfg env { env := e } steps).disk.state = some a)
    (hchange : (runSteps cfg env { env := e } (steps ++ [s])).disk.state ≠ some a) :
    ∃ b, Switches cfg env { env := e } steps s a b ∧
      Unverified (runSteps cfg env { env := e } (steps ++ [s])).disk b := by
  have hwaits := waits_runSteps cfg env e steps
  have hmoved := moved_step cfg env (runSteps cfg env { env := e } steps) s
  rw [← runSteps_concat] at hmoved
  -- a publication that went through, in either of the stages that it can leave
  have hswitch : ∀ {a' next : ActiveState} {st : SwitchStatus} {target symbol : String} {now : ℕ}
      {verification : Verification} {v : SwitchState},
      (runSteps cfg env { env := e } steps).disk.Shows cfg a' st → st.stage = .waitingManualSwap →
      canonicalPair cfg (st.targetPair.getD "None") = .ok target →
      symbolForPair cfg target = .ok symbol → verification.ok = true →
      .flat [a'.symbol, symbol] verification ∈
        (runSteps cfg env { env := e } (steps ++ [s])).log →
      .validated target ∈ (runSteps cfg env { env := e } (steps ++ [s])).log →
      buildState cfg now target (a'.generation + 1) "owner-confirmed-manual-swap" = .ok next →
      s.op = .completeSwitch →
      (runSteps cfg env { env := e } (steps ++ [s])).disk.state = some next →
      (runSteps cfg env { env := e } (steps ++ [s])).disk.switch = some v →
      v.stage = .verifyingPair ∨ v.stage = .applyingPair ∧ v.activePair = a'.pair →
      ∃ b, Switches cfg env { env := e } steps s a b ∧
        Unverified (runSteps cfg env { env := e } (steps ++ [s])).disk b := by
    intro a' next st target symbol now verification v hshows hwaiting htarget hsymbol hok hflat
      hvalid hnext hop hstate hsw hstage
    have hsame := state_of_loaded hshows.loaded
    rw [ha] at hsame
    cases hsame
    rcases statusOf_eq_ok hshows.status with ⟨-, hactive⟩ | ⟨v', hv', hst, htargets, -⟩
    · rw [hwaiting] at hactive
      cases hactive
    · obtain ⟨a', t, symbol', value, hstate', ht, hvalue, hne, hsymbol', hselected⟩ :=
        hwaits v' hv' (hst.symm.trans hwaiting)
      rw [ha] at hstate'
      cases hstate'
      have hcanonical := canonicalPair_canonical hvalue
      have hst' : st.targetPair = some t := by
        rw [ht] at htargets
        simp [hcanonical] at htargets
        exact htargets.symm
      rw [hst', Option.getD_some, hcanonical] at htarget
      cases htarget
      rw [hsymbol] at hsymbol'
      cases hsymbol'
      obtain ⟨hpair, hsym, hgen⟩ := buildState_fields hnext
      rw [hcanonical] at hpair
      cases hpair
      rw [hsymbol] at hsym
      cases hsym
      refine ⟨next, ⟨hop, hstate, ⟨v', hv', hst.symm.trans hwaiting, ht⟩, hne, hgen, hselected,
        ⟨verification, hok, hflat⟩, hvalid⟩, hstate, v, hsw, ?_⟩
      rcases hstage with hverifying | ⟨happlying, hold⟩
      · exact .inl hverifying
      · exact .inr ⟨happlying, by rw [hold]; exact hne.symm⟩
  generalize hd' : (runSteps cfg env { env := e } (steps ++ [s])).disk = d' at *
  generalize (runSteps cfg env { env := e } (steps ++ [s])).log = log at *
  generalize hop : s.op = op at *
  cases hmoved with
  | still => exact absurd ha hchange
  | bootstrapped hnone hs hlog =>
    rw [hnone.1] at ha
    cases ha
  | resumed hshows hidle hsame hrecords hlog => exact absurd ha hchange
  | announced hshows hidle htarget hne hstages hrecords hlog => exact absurd ha hchange
  | selected hshows hidle htarget hne hsymbol hok hflat hrecords hlog => exact absurd ha hchange
  | rechecked hshows hwaiting htarget hstages hrecords hlog => exact absurd ha hchange
  | @applying target symbol a' next st stage verification now k v log hshows hwaiting htarget
      hsymbol hok hflat hvalid hnext hstages hrecords hlog =>
    by_cases hk : k < 3
    · refine absurd ?_ hchange
      change ((runSteps cfg env { env := e } steps).disk.published next k).state = some a
      rw [loaded_published hk, ha]
    · have happlying : stage = .applyingPair := hstages.resolve_right fun h => hk h.2
      obtain ⟨k, rfl⟩ : ∃ j, k = j + 3 := ⟨k - 3, by omega⟩
      refine hswitch hshows hwaiting htarget hsymbol hok hflat hvalid hnext rfl ?_ rfl
        (.inr ⟨hrecords.stage.trans happlying, hrecords.activePair⟩)
      change ((runSteps cfg env { env := e } steps).disk.published next (k + 3)).state = some next
      rw [Disk.published, publications_take]
      rfl
  | applied hshows hwaiting htarget hsymbol hok hflat hvalid hnext hrecords hlog =>
    exact hswitch hshows hwaiting htarget hsymbol hok hflat hvalid hnext rfl rfl rfl
      (.inl hrecords.stage)
  | verified hshows hverifying htarget hproof hrecords hwrote hlog => exact absurd ha hchange
  | activated hshows hready hrecords hlog => exact absurd ha hchange

/-- The active pair changes only by a switch, and entries resume only when it is verified. -/
theorem pair_change (cfg : PairConfig) (env : PairEnv σ) (e : σ) (steps : List Step) (s : Step)
    (a : ActiveState) (ha : (runSteps cfg env { env := e } steps).disk.state = some a)
    (hchange : (runSteps cfg env { env := e } (steps ++ [s])).disk.state ≠ some a) :
    ∃ b, Switches cfg env { env := e } steps s a b ∧
      ∀ more, ResumeReady cfg env (runSteps cfg env { env := e } (steps ++ s :: more)) →
        VerifiedIn cfg env (runSteps cfg env { env := e } (steps ++ [s])) b more := by
  obtain ⟨b, hswitches, hunverified⟩ := switches_of_change ha hchange
  refine ⟨b, hswitches, fun more hready => ?_⟩
  have hsplit : steps ++ s :: more = (steps ++ [s]) ++ more := by simp
  rw [hsplit, runSteps_append] at hready
  rcases hunverified.runSteps more with hstill | hverified
  · obtain ⟨a', st, hshows, hstage⟩ := hready.shows
    rw [(hstill.status hshows).2] at hstage
    cases hstage
  · exact hverified

theorem pair_change_scripted :
    ∃ b, Switches Scripted.config Scripted.env { env := [] } Scripted.selection
        (Scripted.whole .completeSwitch) Scripted.first b ∧
      ∀ more, ResumeReady Scripted.config Scripted.env (runSteps Scripted.config Scripted.env
          { env := [] } (Scripted.selection ++ Scripted.whole .completeSwitch :: more)) →
        VerifiedIn Scripted.config Scripted.env (runSteps Scripted.config Scripted.env { env := [] }
          (Scripted.selection ++ [Scripted.whole .completeSwitch])) b more :=
  pair_change Scripted.config Scripted.env [] Scripted.selection (Scripted.whole .completeSwitch)
    Scripted.first (by decide +kernel) (by decide +kernel)

end SpotSidecar.PairControl
