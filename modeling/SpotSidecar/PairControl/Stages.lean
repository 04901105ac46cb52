import SpotSidecar.PairControl.Projections

/-! The stages that a crash can leave behind, and from which of them entries can resume. -/
namespace SpotSidecar.PairControl
open Interaction Prog
variable {σ : Type} {cfg : PairConfig} {env : PairEnv σ} {w : World σ} {d : Disk}

/-- No operation leads on: a switch was interrupted between two of its stages, or the first
publication was, or the policy accepts no pair to begin with. -/
def Disk.Stuck (cfg : PairConfig) (d : Disk) : Prop :=
  match d.state with
  | none => d.pairlist.isSome = true ∨ d.overlay.isSome = true ∨
      ¬∃ value pair, canonicalPair cfg value = .ok pair
  | some _ => ∃ v, d.switch = some v ∧
      (v.stage = .pausing ∨ v.stage = .reconciling ∨ v.stage = .applyingPair)

theorem stuck_of_stage {a : ActiveState} {v : SwitchState} (ha : d.state = some a)
    (hv : d.switch = some v)
    (hstage : v.stage = .pausing ∨ v.stage = .reconciling ∨ v.stage = .applyingPair) :
    d.Stuck cfg := by
  rw [Disk.Stuck, ha]
  exact ⟨v, hv, hstage⟩

/-- What a stuck switch shows is the stage that it was interrupted in. -/
theorem Disk.Stuck.status (h : d.Stuck cfg) {a : ActiveState} {st : SwitchStatus}
    (hshows : d.Shows cfg a st) :
    st.stage = .pausing ∨ st.stage = .reconciling ∨ st.stage = .applyingPair := by
  have hstate := state_of_loaded hshows.loaded
  rw [Stuck, hstate] at h
  obtain ⟨v, hv, hstage⟩ := h
  rcases statusOf_eq_ok hshows.status with ⟨hnone, -⟩ | ⟨v', hv', hst, -⟩
  · rw [hnone] at hv
    cases hv
  · cases hv.symm.trans hv'
    rwa [hst]

theorem Disk.Stuck.moved (h : d.Stuck cfg) {op : Op} {log : List Event} {d' : Disk}
    (hmoved : Moved cfg d op log d') : d' = d := by
  have habsurd : ∀ {a : ActiveState} {st : SwitchStatus} {p : Stage → Prop}, d.Shows cfg a st →
      p st.stage → ¬p .pausing → ¬p .reconciling → ¬p .applyingPair → d' = d := by
    intro a st p hshows hp h₁ h₂ h₃
    rcases h.status hshows with hst | hst | hst <;> rw [hst] at hp
    · exact absurd hp h₁
    · exact absurd hp h₂
    · exact absurd hp h₃
  cases hmoved with
  | still => rfl
  | bootstrapped hnone hs hlog =>
    rw [Stuck, hnone.1, hnone.2.1, hnone.2.2] at h
    rcases h with h | h | h
    · cases h
    · cases h
    · exact absurd ⟨_, _, (buildState_fields hs).1⟩ h
  | resumed hshows hidle hsame hrecords hlog =>
    exact habsurd (p := fun stage => stage.idle = true) hshows hidle (by decide) (by decide)
      (by decide)
  | announced hshows hidle htarget hne hstages hrecords hlog =>
    exact habsurd (p := fun stage => stage.idle = true) hshows hidle (by decide) (by decide)
      (by decide)
  | selected hshows hidle htarget hne hsymbol hok hflat hrecords hlog =>
    exact habsurd (p := fun stage => stage.idle = true) hshows hidle (by decide) (by decide)
      (by decide)
  | rechecked hshows hwaiting htarget hstages hrecords hlog =>
    exact habsurd (p := (· = .waitingManualSwap)) hshows hwaiting (by decide) (by decide)
      (by decide)
  | applying hshows hwaiting htarget hsymbol hok hflat hvalid hnext hstages hrecords hlog =>
    exact habsurd (p := (· = .waitingManualSwap)) hshows hwaiting (by decide) (by decide)
      (by decide)
  | applied hshows hwaiting htarget hsymbol hok hflat hvalid hnext hrecords hlog =>
    exact habsurd (p := (· = .waitingManualSwap)) hshows hwaiting (by decide) (by decide)
      (by decide)
  | verified hshows hverifying htarget hproof hrecords hwrote hlog =>
    exact habsurd (p := (· = .verifyingPair)) hshows hverifying (by decide) (by decide)
      (by decide)
  | activated hshows hready hrecords hlog =>
    exact habsurd (p := fun stage => stage.ready = true) hshows hready (by decide) (by decide)
      (by decide)

/-- Entries never resume from stuck files. -/
theorem Disk.Stuck.never (h : w.disk.Stuck cfg) (more : List Step) :
    ¬ResumeReady cfg env (runSteps cfg env w more) := by
  have hsame : (runSteps cfg env w more).disk = w.disk := by
    induction more using List.reverseRecOn with
    | nil => rfl
    | append_singleton more s ih =>
      rw [runSteps_concat]
      have hmoved := moved_step cfg env (runSteps cfg env w more) s
      rw [ih] at hmoved
      exact h.moved hmoved
  intro hready
  obtain ⟨a, st, hshows, hstage⟩ := hready.shows
  rw [hsame] at hshows
  rcases h.status hshows with hst | hst | hst <;> rw [hst] at hstage <;> cases hstage

/-- What every reachable disk satisfies: the records belong to a state that loads. -/
structure Sound (cfg : PairConfig) (d : Disk) : Prop where
  empty : d.state = none → d.switch = none
  loads : ∀ a, d.state = some a → loaded cfg (some a) = .ok a ∧
    ∃ value, canonicalPair cfg value = .ok a.pair
  record : ∀ a v, d.state = some a → d.switch = some v → v.schemaVersion = 1 ∧
    (∀ t, v.targetPair = some t → ∃ value, canonicalPair cfg value = .ok t) ∧
    (v.stage = .applyingPair ∨ v.activePair = a.pair) ∧
    (v.stage = .verifyingPair → v.targetPair = some a.pair) ∧
    (v.stage = .waitingManualSwap → v.targetPair.isSome = true)

theorem Sound.moved (h : Sound cfg d) {op : Op} {log : List Event} {d' : Disk}
    (hmoved : Moved cfg d op log d') : Sound cfg d' := by
  -- a record that is written over a state that loads
  have hrecorded : ∀ {a : ActiveState} {st : SwitchStatus} {stage : Stage}
      {target : Option String} {v : SwitchState}, d.Shows cfg a st → v.Records stage a target →
      (∀ t, target = some t → ∃ value, canonicalPair cfg value = .ok t) →
      stage ≠ .verifyingPair → (stage = .waitingManualSwap → target.isSome = true) →
      Sound cfg (d.replace (.switch v)) := by
    intro a st stage target v hshows hrecords htarget hverifying hwaiting
    have hstate := state_of_loaded hshows.loaded
    refine ⟨fun hnone => ?_, h.loads, fun a' v' ha' hv' => ?_⟩
    · exact absurd (hstate.symm.trans hnone) (by simp)
    · cases Option.some.inj hv'
      cases hstate.symm.trans ha'
      rw [hrecords.stage, hrecords.targetPair]
      exact ⟨hrecords.schemaVersion, htarget, .inr hrecords.activePair,
        fun hstage => absurd hstage hverifying, hwaiting⟩
  have hone : ∀ {target value : String}, canonicalPair cfg value = .ok target →
      ∀ t, some target = some t → ∃ value, canonicalPair cfg value = .ok t := by
    rintro target value hvalue t ⟨⟩
    exact ⟨value, hvalue⟩
  cases hmoved with
  | still => exact h
  | @bootstrapped initial now k next log hnone hs hlog =>
    have hswitch : (d.published next k).switch = none := by
      rw [published_keeps_switch, h.empty hnone.1]
    refine ⟨fun _ => hswitch, fun a ha => ?_, fun a v _ hv => ?_⟩
    · by_cases hk : k < 3
      · rw [loaded_published hk, hnone.1] at ha
        cases ha
      · obtain ⟨k, rfl⟩ : ∃ j, k = j + 3 := ⟨k - 3, by omega⟩
        rw [Disk.published, publications_take] at ha
        cases ha
        exact ⟨loaded_buildState hs le_rfl, _, (buildState_fields hs).1⟩
    · rw [hswitch] at hv
      cases hv
  | resumed hshows hidle hsame hrecords hlog =>
    exact hrecorded hshows hrecords (by simp) (by decide) (by decide)
  | announced hshows hidle htarget hne hstages hrecords hlog =>
    refine hrecorded hshows hrecords (hone htarget) ?_ (fun _ => rfl)
    rcases hstages with rfl | rfl | rfl <;> decide
  | selected hshows hidle htarget hne hsymbol hok hflat hrecords hlog =>
    exact hrecorded hshows hrecords (hone htarget) (by decide) fun _ => rfl
  | rechecked hshows hwaiting htarget hstages hrecords hlog =>
    refine hrecorded hshows hrecords (hone htarget) ?_ (fun _ => rfl)
    rcases hstages with rfl | rfl <;> decide
  | @applying target symbol a next st stage verification now k v log hshows hwaiting htarget
      hsymbol hok hflat hvalid hnext hstages hrecords hlog =>
    by_cases hk : k < 3
    · refine ⟨fun hnone => ?_, fun a' ha' => ?_, fun a' v' ha' hv' => ?_⟩
      · change (d.published next k).state = none at hnone
        rw [loaded_published hk, state_of_loaded hshows.loaded] at hnone
        cases hnone
      · change (d.published next k).state = some a' at ha'
        rw [loaded_published hk] at ha'
        exact h.loads a' ha'
      · change (d.published next k).state = some a' at ha'
        rw [loaded_published hk, state_of_loaded hshows.loaded] at ha'
        cases ha'
        cases Option.some.inj hv'
        rw [hrecords.stage, hrecords.targetPair]
        refine ⟨hrecords.schemaVersion, hone htarget, .inr hrecords.activePair, ?_, fun _ => rfl⟩
        rcases hstages with rfl | ⟨rfl, -⟩ <;> intro hstage <;> cases hstage
    · have happlying : stage = .applyingPair := hstages.resolve_right fun h => hk h.2
      obtain ⟨k, rfl⟩ : ∃ j, k = j + 3 := ⟨k - 3, by omega⟩
      rw [Disk.published, publications_take]
      refine ⟨(by intro hnone; cases hnone), fun a' ha' => ?_, fun a' v' ha' hv' => ?_⟩
      · cases ha'
        exact ⟨loaded_buildState hnext (by omega), _, (buildState_fields hnext).1⟩
      · cases Option.some.inj hv'
        rw [hrecords.stage, hrecords.targetPair, happlying]
        exact ⟨hrecords.schemaVersion, hone htarget, .inl rfl, (by intro hstage; cases hstage),
          fun _ => rfl⟩
  | @applied target symbol a next st verification now v log hshows hwaiting htarget hsymbol hok
      hflat hvalid hnext hrecords hlog =>
    have hpair : next.pair = target := by
      have hbuilt := (buildState_fields hnext).1
      rw [canonicalPair_canonical htarget] at hbuilt
      exact (Except.ok.inj hbuilt).symm
    refine ⟨(by intro hnone; cases hnone), fun a' ha' => ?_, fun a' v' ha' hv' => ?_⟩
    · cases ha'
      exact ⟨loaded_buildState hnext (by omega), _, (buildState_fields hnext).1⟩
    · cases ha'
      cases Option.some.inj hv'
      rw [hrecords.stage, hrecords.targetPair, hpair]
      exact ⟨hrecords.schemaVersion, hone htarget, .inr (hrecords.activePair.trans hpair),
        fun _ => rfl, fun _ => rfl⟩
  | verified hshows hverifying htarget hproof hrecords hwrote hlog =>
    obtain ⟨value, hvalue⟩ := canonical_of_status hshows.status htarget
    exact hrecorded hshows hrecords (hone hvalue) (by decide) fun _ => rfl
  | activated hshows hready hrecords hlog =>
    exact hrecorded hshows hrecords (by simp) (by decide) (by decide)

theorem sound_runSteps (cfg : PairConfig) (env : PairEnv σ) (h : Sound cfg w.disk)
    (steps : List Step) : Sound cfg (runSteps cfg env w steps).disk := by
  induction steps using List.reverseRecOn with
  | nil => exact h
  | append_singleton steps s ih =>
    rw [runSteps_concat]
    exact ih.moved (moved_step cfg env _ s)

theorem sound_empty : Sound cfg {} :=
  ⟨fun _ => rfl, (by intro a h; cases h), (by intro a v h; cases h)⟩

/-- A record of the active pair is shown as it is. -/
theorem statusOf_record {a : ActiveState} {v : SwitchState} (hschema : v.schemaVersion = 1)
    (hactive : v.activePair = a.pair)
    (htarget : v.targetPair.mapM (canonicalPair cfg) = .ok v.targetPair) :
    ∃ st, statusOf cfg a (some v) = .ok st ∧ st.stage = v.stage ∧ st.targetPair = v.targetPair := by
  refine ⟨{ v with current := some (a.pair, a.generation, a.pairConfigHash) }, ?_, rfl, rfl⟩
  obtain ⟨schemaVersion, stage, activePair, activeGeneration, digest, targetPair, updatedAt,
    detail, evidence⟩ := v
  dsimp only at hschema hactive htarget
  subst hschema hactive
  simp [statusOf, htarget, Bind.bind, Except.bind]

theorem shows_record {a : ActiveState} {v : SwitchState} {stage : Stage} {target : Option String}
    (ha : loaded cfg d.state = .ok a) (hv : v.Records stage a target)
    (htarget : target.mapM (canonicalPair cfg) = .ok target) :
    ∃ st, (d.replace (.switch v)).Shows cfg a st ∧ st.stage = stage ∧ st.targetPair = target := by
  obtain ⟨st, hst, hstage, htargets⟩ := statusOf_record hv.schemaVersion hv.activePair
    (by rw [hv.targetPair]; exact htarget)
  exact ⟨st, ⟨ha, hst⟩, hstage.trans hv.stage, htargets.trans hv.targetPair⟩

/-- What a sound disk shows: its own record, unless the publication was interrupted. -/
theorem Sound.shows (h : Sound cfg d) {a : ActiveState} (ha : d.state = some a) :
    (∃ st, d.switch = none ∧ d.Shows cfg a st ∧ st.stage = .active) ∨
      ∃ v, d.switch = some v ∧ (v.stage = .applyingPair ∨
        ∃ st, d.Shows cfg a st ∧ st.stage = v.stage ∧ st.targetPair = v.targetPair) := by
  have hloaded : loaded cfg d.state = .ok a := by
    rw [ha]
    exact (h.loads a ha).1
  cases hv : d.switch with
  | none =>
    obtain ⟨st, hst, hstage⟩ : ∃ st, statusOf cfg a none = .ok st ∧ st.stage = .active :=
      ⟨_, rfl, rfl⟩
    exact .inl ⟨st, rfl, ⟨hloaded, by rw [hv, hst]⟩, hstage⟩
  | some v =>
    obtain ⟨hschema, htarget, hactive, -⟩ := h.record a v ha hv
    refine .inr ⟨v, rfl, ?_⟩
    rcases hactive with happlying | hactive
    · exact .inl happlying
    · have hsame : v.targetPair.mapM (canonicalPair cfg) = .ok v.targetPair := by
        cases ht : v.targetPair with
        | none => rfl
        | some t =>
          obtain ⟨value, hvalue⟩ := htarget t ht
          simp [canonicalPair_canonical hvalue]
      obtain ⟨st, hst, hstage, htargets⟩ := statusOf_record hschema hactive hsame
      exact .inr ⟨st, ⟨hloaded, by rw [hv, hst]⟩, hstage, htargets⟩

/-- Writes take effect, the exchange is flat and the target is in order. -/
structure Obliging (env : PairEnv σ) : Prop where
  write : ∀ f e, (env.write f e).1 = .ok ()
  verifyFlat : ∀ symbols e, ∃ v, (env.verifyFlat symbols e).1 = .ok v ∧ v.ok = true
  validateTarget : ∀ pair e, ∃ v, (env.validateTarget pair e).1 = .ok v

/-- With these files, from any log and environment. -/
def On (d : Disk) (w : World σ) : Prop := w.disk = d

/-- The program ends well with these files, if the machine lets it. -/
abbrev Surely {α : Type} (env : PairEnv σ) (P : World σ → Prop) (m : Switching α)
    (Q : α → World σ → Prop) : Prop :=
  Triple (PairAct.exec env) P m Q (fun _ _ => False) fun _ => True

section surely
variable {a : ActiveState}

theorem surely_disk : Surely env (On d) (perform .disk) fun r w => On d w ∧ r = d :=
  fun _ hw => ⟨trivial, hw, hw⟩

theorem surely_now : Surely env (On d) (perform .now) fun _ => On d :=
  fun _ hw => ⟨trivial, hw⟩

theorem surely_ofExcept {α : Type} {r : Except PairExc α} {x : α} (h : r = .ok x) :
    Surely env (On d) (ofExcept r) fun y w => On d w ∧ y = x := by
  subst h
  exact .pure fun w hw => ⟨hw, rfl⟩

theorem surely_load (ha : loaded cfg d.state = .ok a) :
    Surely env (On d) (load cfg) fun r w => On d w ∧ r = a := by
  refine Triple.bind surely_disk fun r => Triple.assume_eq fun hr => ?_
  subst hr
  exact surely_ofExcept ha

theorem surely_switchStatus {st : SwitchStatus} (h : d.Shows cfg a st) :
    Surely env (On d) (switchStatus cfg) fun r w => On d w ∧ r = st := by
  refine Triple.bind (surely_load h.loaded) fun r => Triple.assume_eq fun hr => ?_
  subst hr
  refine Triple.bind surely_disk fun r => Triple.assume_eq fun hr => ?_
  subst hr
  exact surely_ofExcept h.status

theorem surely_requireResumeReady {st : SwitchStatus} (h : d.Shows cfg a st)
    (hready : st.stage.ready = true) :
    Surely env (On d) (requireResumeReady cfg) fun _ _ => True := by
  refine Triple.bind (surely_switchStatus h) fun r => Triple.assume_eq fun hr => ?_
  subst hr
  refine Triple.bind (Q := fun _ => On d) ?_ fun _ => .pure fun _ _ => trivial
  exact .ensure (fun _ _ hw => hw) fun hnot => absurd hready hnot

/-- A program that cannot fail is not caught. -/
theorem surely_attempt {α : Type} {P : World σ → Prop} {m : Switching α} {Q : α → World σ → Prop}
    (h : Surely env P m Q) :
    Surely env P m.attempt fun r w => ∃ x, r = .ok x ∧ Q x w :=
  Triple.attempt (h.conseq (fun _ hw => hw) (fun x _ hw => ⟨x, rfl, hw⟩) (fun _ _ hw => hw.elim)
    fun _ hw => hw)

variable (henv : Obliging env)
include henv

theorem surely_write {f : FileWrite} : Surely env (On d) (write f) fun _ => On (d.replace f) := by
  refine Triple.perform (fun _ _ => trivial) (fun w r w' hw h => ?_) fun w e w' hw h => ?_
  · unfold PairAct.exec at h
    dsimp only at h
    split at h <;> cases h
    rw [← hw]
    rfl
  · have hok := henv.write f w.env
    unfold PairAct.exec at h
    dsimp only at h
    split at h
    · cases h
    · next heq =>
      rw [heq] at hok
      cases hok

theorem surely_verifyFlat {symbols : List String} :
    Surely env (On d) (perform (.verifyFlat symbols)) fun v w => On d w ∧ v.ok = true := by
  refine Triple.perform (fun _ _ => trivial) (fun w r w' hw h => ?_) fun w e w' hw h => ?_ <;>
    obtain ⟨v, hv, hok⟩ := henv.verifyFlat symbols w.env <;> unfold PairAct.exec at h <;>
    dsimp only at h <;> split at h
  · next heq =>
    rw [heq] at hv
    cases hv
    cases h
    exact ⟨hw, hok⟩
  · cases h
  · cases h
  · next heq =>
    rw [heq] at hv
    cases hv

theorem surely_validateTarget {pair : String} :
    Surely env (On d) (perform (.validateTarget pair)) fun _ => On d := by
  refine Triple.perform (fun _ _ => trivial) (fun w r w' hw h => ?_) fun w e w' hw h => ?_ <;>
    obtain ⟨v, hv⟩ := henv.validateTarget pair w.env <;> unfold PairAct.exec at h <;>
    dsimp only at h <;> split at h
  · cases h
    exact hw
  · cases h
  · cases h
  · next heq =>
    rw [heq] at hv
    cases hv

theorem surely_switchState {stage : Stage} {target : Option String} {detail : String}
    {evidence : Evidence} (ha : loaded cfg d.state = .ok a)
    (htarget : target.mapM (canonicalPair cfg) = .ok target) :
    Surely env (On d) (switchState cfg stage target detail evidence)
      fun v w => v.Records stage a target ∧ On (d.replace (.switch v)) w := by
  refine Triple.bind (surely_load ha) fun r => Triple.assume_eq fun hr => ?_
  subst hr
  refine Triple.bind (surely_ofExcept htarget) fun r => Triple.assume_eq fun hr => ?_
  subst hr
  refine Triple.bind surely_now fun now => Triple.bind (surely_write henv) fun _ => ?_
  exact .pure fun w hw => ⟨⟨rfl, rfl, rfl, rfl⟩, hw⟩

theorem surely_publish (s : ActiveState) :
    Surely env (On d) (publish s) fun _ => On (d.published s 3) := by
  unfold publish
  exact Triple.bind (surely_write henv) fun _ => Triple.bind (surely_write henv) fun _ =>
    surely_write henv

theorem surely_bootstrap {value pair : String} (hempty : d.state = none ∧ d.pairlist = none ∧
    d.overlay = none) (hvalue : canonicalPair cfg value = .ok pair) :
    Surely env (On d) (bootstrap cfg value) fun s w =>
      loaded cfg (some s) = .ok s ∧ On (d.published s 3) w := by
  unfold bootstrap
  refine Triple.bind surely_disk fun r => Triple.assume_eq fun hr => ?_
  subst hr
  simp only [hempty, Option.isSome_none, List.any_cons, List.any_nil, List.all_cons, id,
    Bool.or_self, Bool.false_and, Bool.false_eq_true, false_and, if_false]
  refine Triple.bind surely_now fun now => ?_
  obtain ⟨s, hs⟩ := buildState_canonical (canonicalPair_canonical hvalue) now 1 "bootstrap"
  have hsame : buildState cfg now value 1 "bootstrap" = .ok s := by
    rw [← hs, buildState, buildState, hvalue, canonicalPair_canonical hvalue]
  refine Triple.bind (surely_ofExcept hsame) fun r => Triple.assume_eq fun hr => ?_
  subst hr
  refine Triple.bind (surely_publish henv r) fun _ => .pure fun w hw => ⟨?_, hw⟩
  exact loaded_buildState hs le_rfl

/-- The owner names the active pair, and the switch is given up. -/
theorem surely_beginSwitch_active {st : SwitchStatus} (h : d.Shows cfg a st)
    (hidle : st.stage.idle = true) (hpair : canonicalPair cfg a.pair = .ok a.pair)
    (hash : String) : Surely env (On d) (beginSwitch cfg a.pair hash)
      fun _ w => ∃ v, v.Records .active a none ∧ On (d.replace (.switch v)) w := by
  unfold beginSwitch
  refine Triple.bind (surely_load h.loaded) fun current => Triple.assume_eq fun hcurrent => ?_
  subst hcurrent
  refine Triple.bind (surely_ofExcept hpair) fun r => Triple.assume_eq fun hr => ?_
  subst hr
  refine Triple.bind (surely_switchStatus h) fun r => Triple.assume_eq fun hr => ?_
  subst hr
  rw [if_neg (by simp [hidle]), if_pos rfl]
  refine Triple.bind (surely_switchState henv h.loaded rfl) fun v => Triple.assume fun w hw => ?_
  obtain ⟨st', hshows, -⟩ := shows_record h.loaded hw.1 rfl
  refine Triple.weaken (R := On (d.replace (.switch v))) ?_ (by rintro w' rfl; exact hw.2)
  refine Triple.bind (surely_switchStatus hshows) fun _ => .pure fun w' hw' => ?_
  exact ⟨v, hw.1, hw'.1⟩

theorem surely_markPairVerified {st : SwitchStatus} (h : d.Shows cfg a st)
    (hverifying : st.stage = .verifyingPair) (htarget : st.targetPair = some a.pair) {proof : Proof}
    (hproof : proof.ok = true) : Surely env (On d) (markPairVerified cfg proof)
      fun _ w => ∃ v, v.Records .pausedReady a (some a.pair) ∧ On (d.replace (.switch v)) w := by
  obtain ⟨value, hvalue⟩ := canonical_of_status h.status htarget
  unfold markPairVerified
  refine Triple.bind (surely_switchStatus h) fun r => Triple.assume_eq fun hr => ?_
  subst hr
  rw [if_neg (by simp [hverifying]), if_neg (by simp [hproof])]
  refine Triple.bind (surely_load h.loaded) fun active => Triple.assume_eq fun hactive => ?_
  subst hactive
  rw [if_neg (by simp [htarget])]
  refine (surely_switchState henv h.loaded ?_).post fun v w hw => ⟨v, hw⟩
  simp [canonicalPair_canonical hvalue]

theorem surely_recheckTarget {target symbol : String} :
    Surely env (On d) (recheckTarget a target symbol) fun _ => On d := by
  unfold recheckTarget
  refine Triple.bind (surely_verifyFlat henv) fun v => Triple.assume_eq fun hok => ?_
  rw [if_pos hok]
  exact Triple.bind (surely_validateTarget henv) fun _ => .pure fun _ hw => hw

theorem surely_publishVerified {next : ActiveState} (h : loaded cfg (some next) = .ok next) :
    Surely env (On d) (publishVerified cfg next) fun _ => On (d.published next 3) := by
  unfold publishVerified
  refine Triple.bind (surely_publish henv next) fun _ => ?_
  refine Triple.bind (surely_load h) fun r => Triple.assume_eq fun hr => ?_
  exact .ensure (fun _ _ hw => hw) fun hne => absurd hr hne

theorem surely_applyTarget {target : String} {evidence : Evidence} {verification : Verification}
    {validation : Validation} (ha : loaded cfg d.state = .ok a)
    (htarget : canonicalPair cfg target = .ok target) :
    Surely env (On d) (applyTarget cfg a target evidence verification validation)
      fun _ w => ∃ next v, loaded cfg w.disk.state = .ok next ∧ next.pair = target ∧
        w.disk.switch = some v ∧ v.Records .verifyingPair next (some target) := by
  have hsome : (some target).mapM (canonicalPair cfg) = .ok (some target) := by simp [htarget]
  unfold applyTarget
  dsimp only
  refine Triple.bind (surely_switchState henv ha hsome) fun v => Triple.assume fun w hw => ?_
  refine Triple.weaken (R := On (d.replace (.switch v))) ?_ (by rintro w' rfl; exact hw.2)
  refine Triple.bind surely_now fun now => ?_
  obtain ⟨next, hnext⟩ := buildState_canonical htarget now (a.generation + 1)
    "owner-confirmed-manual-swap"
  refine Triple.bind (surely_ofExcept hnext) fun r => Triple.assume_eq fun hr => ?_
  subst hr
  have hloaded := loaded_buildState hnext (by omega)
  have hpair : r.pair = target := by
    have hbuilt := (buildState_fields hnext).1
    rw [htarget] at hbuilt
    exact (Except.ok.inj hbuilt).symm
  refine Triple.bind (surely_attempt (surely_publishVerified henv hloaded)) fun result => ?_
  refine Triple.exists_pre fun u => Triple.assume fun w' hw' => ?_
  obtain ⟨rfl, hdisk⟩ := hw'
  refine Triple.weaken (R := On ((d.replace (.switch v)).published r 3)) ?_
    (by rintro w'' rfl; exact hdisk)
  refine Triple.bind (surely_switchState henv hloaded hsome) fun v' => .pure fun w'' hw'' => ?_
  have hdisk' : w''.disk = ((d.replace (.switch v)).published r 3).replace (.switch v') := hw''.2
  exact ⟨r, v', by rw [hdisk']; exact hloaded, hpair, by rw [hdisk']; rfl, hw''.1⟩

theorem surely_completeSwitch {st : SwitchStatus} {target : String} (h : d.Shows cfg a st)
    (hwaiting : st.stage = .waitingManualSwap) (htarget : st.targetPair = some target) :
    Surely env (On d) (completeSwitch cfg)
      fun _ w => ∃ next v, loaded cfg w.disk.state = .ok next ∧ next.pair = target ∧
        w.disk.switch = some v ∧ v.Records .verifyingPair next (some target) := by
  obtain ⟨value, hvalue⟩ := canonical_of_status h.status htarget
  have hcanonical := canonicalPair_canonical hvalue
  unfold completeSwitch
  refine Triple.bind (surely_switchStatus h) fun r => Triple.assume_eq fun hr => ?_
  subst hr
  rw [if_neg (by simp [hwaiting])]
  have hget : canonicalPair cfg (r.targetPair.getD "None") = .ok target := by
    rw [htarget]
    exact hcanonical
  refine Triple.bind (surely_ofExcept hget) fun t => Triple.assume_eq fun ht => ?_
  subst ht
  refine Triple.bind (surely_load h.loaded) fun current => Triple.assume_eq fun hcurrent => ?_
  subst hcurrent
  refine Triple.bind (surely_switchState henv h.loaded (by simp [hcanonical])) fun v => ?_
  refine Triple.assume fun w hw => Triple.weaken (R := On (d.replace (.switch v))) ?_
    (by rintro w' rfl; exact hw.2)
  refine Triple.bind (surely_ofExcept (symbolForPair_canonical hvalue)) fun symbol => ?_
  refine Triple.weaken (R := On (d.replace (.switch v))) ?_ fun _ hw => hw.1
  refine Triple.bind (surely_attempt (surely_recheckTarget henv)) fun result => ?_
  refine Triple.exists_pre fun checked => Triple.assume fun w' hw' => ?_
  obtain ⟨rfl, hdisk⟩ := hw'
  refine Triple.weaken (R := On (d.replace (.switch v))) ?_ (by rintro w'' rfl; exact hdisk)
  obtain ⟨verification, validation⟩ := checked
  exact surely_applyTarget henv h.loaded hcanonical

end surely

section resuming
variable (henv : Obliging env)

/-- One call that surely ends well. -/
theorem exists_step (op : Op) {Q : World σ → Prop}
    (h : Surely env (On w.disk) (op.program cfg) fun _ => Q) : ∃ s, Q (step cfg env w s) := by
  obtain ⟨n, u, w', hrun, hq⟩ := h.completes (w := w.called) rfl
  refine ⟨{ op, budget := n }, ?_⟩
  rw [step, hrun]
  exact hq

theorem surely_forget {α : Type} {m : Switching α} {Q : World σ → Prop}
    (h : Surely env (On d) m fun _ => Q) : Surely env (On d) (forget m) fun _ => Q :=
  Triple.bind h fun _ => .pure fun _ hw => hw

theorem resumeReady_of_shows {a : ActiveState} {st : SwitchStatus} (h : w.disk.Shows cfg a st)
    (hready : st.stage.ready = true) : ResumeReady cfg env w := by
  obtain ⟨n, status, w', hrun, -⟩ := (surely_requireResumeReady h hready).completes (w := w) rfl
  exact ⟨n, status, w', hrun⟩

/-- Some calls lead to a resume. -/
def Recovers (cfg : PairConfig) (env : PairEnv σ) (w : World σ) : Prop :=
  ∃ more, ResumeReady cfg env (runSteps cfg env w more)

theorem Recovers.of_step {s : Step} (h : Recovers cfg env (step cfg env w s)) :
    Recovers cfg env w := by
  obtain ⟨more, hmore⟩ := h
  exact ⟨s :: more, hmore⟩

theorem Disk.Stuck.not_recovers (h : d.Stuck cfg) (e : σ) :
    ¬Recovers cfg env { disk := d, env := e } := by
  rintro ⟨more, hmore⟩
  have hsame : (World.mk d e [] []).disk.Stuck cfg := h
  exact hsame.never more hmore

theorem recovers_of_ready {a : ActiveState} {st : SwitchStatus} (h : w.disk.Shows cfg a st)
    (hready : st.stage.ready = true) : Recovers cfg env w :=
  ⟨[], resumeReady_of_shows h hready⟩

include henv

theorem recovers_of_verifying {a : ActiveState} {st : SwitchStatus} (h : w.disk.Shows cfg a st)
    (hverifying : st.stage = .verifyingPair) (htarget : st.targetPair = some a.pair) :
    Recovers cfg env w := by
  obtain ⟨value, hvalue⟩ := canonical_of_status h.status htarget
  obtain ⟨s, v, hv, hdisk⟩ := exists_step (.markPairVerified { ok := true, pair := a.pair })
    (surely_forget (surely_markPairVerified henv h hverifying htarget rfl))
  obtain ⟨st', hshows, hstage, -⟩ :=
    shows_record h.loaded hv (by simp [canonicalPair_canonical hvalue])
  rw [← hdisk] at hshows
  exact Recovers.of_step (recovers_of_ready hshows (by rw [hstage]; rfl))

theorem recovers_of_waiting {a : ActiveState} {st : SwitchStatus} {target : String}
    (h : w.disk.Shows cfg a st) (hwaiting : st.stage = .waitingManualSwap)
    (htarget : st.targetPair = some target) : Recovers cfg env w := by
  obtain ⟨value, hvalue⟩ := canonical_of_status h.status htarget
  obtain ⟨s, next, v, hloaded, hpair, hswitch, hv⟩ := exists_step .completeSwitch
    (surely_forget (surely_completeSwitch henv h hwaiting htarget))
  have hreplace : (step cfg env w s).disk =
      (step cfg env w s).disk.replace (.switch v) := by
    rw [Disk.replace, ← hswitch]
  obtain ⟨st', hshows, hstage, htargets⟩ := shows_record hloaded hv
    (by simp [canonicalPair_canonical hvalue])
  rw [← hreplace] at hshows
  exact Recovers.of_step (recovers_of_verifying henv hshows hstage (by rw [htargets, hpair]))

theorem recovers_of_blocked {a : ActiveState} {st : SwitchStatus} (h : w.disk.Shows cfg a st)
    (hblocked : st.stage = .blocked) (hpair : canonicalPair cfg a.pair = .ok a.pair) :
    Recovers cfg env w := by
  obtain ⟨s, v, hv, hdisk⟩ := exists_step (.beginSwitch a.pair "")
    (surely_forget (surely_beginSwitch_active henv h (by rw [hblocked]; rfl) hpair ""))
  obtain ⟨st', hshows, hstage, -⟩ := shows_record h.loaded hv rfl
  rw [← hdisk] at hshows
  exact Recovers.of_step (recovers_of_ready hshows (by rw [hstage]; rfl))

theorem recovers_of_empty {value pair : String} (hempty : w.disk.state = none ∧
    w.disk.pairlist = none ∧ w.disk.overlay = none) (hswitch : w.disk.switch = none)
    (hvalue : canonicalPair cfg value = .ok pair) : Recovers cfg env w := by
  have hboot : Surely env (On w.disk) (bootstrap cfg value) fun _ v =>
      ∃ s, loaded cfg (some s) = .ok s ∧ On (w.disk.published s 3) v :=
    (surely_bootstrap henv hempty hvalue).post fun s _ hw => ⟨s, hw⟩
  have hprogram : Surely env (On w.disk) ((Op.bootstrap value).program cfg) fun _ v =>
      ∃ s, loaded cfg (some s) = .ok s ∧ On (w.disk.published s 3) v := surely_forget hboot
  obtain ⟨s, a, ha, hdisk⟩ := exists_step _ hprogram
  obtain ⟨st, hst, hstage⟩ : ∃ st, statusOf cfg a none = .ok st ∧ st.stage = .active :=
    ⟨_, rfl, rfl⟩
  have hshows : (step cfg env w s).disk.Shows cfg a st := by
    rw [hdisk]
    exact ⟨ha, by rw [published_keeps_switch, hswitch, hst]⟩
  exact Recovers.of_step (recovers_of_ready hshows (by rw [hstage]; rfl))

/-- Sound files that are not stuck lead to a resume. -/
theorem recovers_of_sound (h : Sound cfg w.disk) (hstuck : ¬w.disk.Stuck cfg) :
    Recovers cfg env w := by
  rw [Disk.Stuck] at hstuck
  cases hstate : w.disk.state with
  | none =>
    simp only [hstate, not_or, Bool.not_eq_true, Option.isSome_eq_false_iff,
      Option.isNone_iff_eq_none, not_not] at hstuck
    obtain ⟨hpairlist, hoverlay, value, pair, hvalue⟩ := hstuck
    exact recovers_of_empty henv ⟨hstate, hpairlist, hoverlay⟩ (h.empty hstate) hvalue
  | some a =>
    simp only [hstate] at hstuck
    obtain ⟨hloaded, value, hvalue⟩ := h.loads a hstate
    rcases h.shows hstate with ⟨st, -, hshows, hstage⟩ | ⟨v, hv, happlying | hshown⟩
    · exact recovers_of_ready hshows (by rw [hstage]; rfl)
    · exact absurd ⟨v, hv, .inr (.inr happlying)⟩ hstuck
    · obtain ⟨st, hshows, hstage, htarget⟩ := hshown
      obtain ⟨-, -, -, hverifying, hwaiting⟩ := h.record a v hstate hv
      cases hcase : v.stage with
      | active => exact recovers_of_ready hshows (by rw [hstage, hcase]; rfl)
      | pausedReady => exact recovers_of_ready hshows (by rw [hstage, hcase]; rfl)
      | pausing => exact absurd ⟨v, hv, .inl hcase⟩ hstuck
      | reconciling => exact absurd ⟨v, hv, .inr (.inl hcase)⟩ hstuck
      | applyingPair => exact absurd ⟨v, hv, .inr (.inr hcase)⟩ hstuck
      | waitingManualSwap =>
        obtain ⟨target, ht⟩ := Option.isSome_iff_exists.mp (hwaiting hcase)
        exact recovers_of_waiting henv hshows (hstage.trans hcase) (htarget.trans ht)
      | verifyingPair =>
        exact recovers_of_verifying henv hshows (hstage.trans hcase)
          (htarget.trans (hverifying hcase))
      | blocked =>
        exact recovers_of_blocked henv hshows (hstage.trans hcase) (canonicalPair_canonical hvalue)

end resuming

/-- From a reachable state entries can resume, with a flat exchange and files that can be
written, exactly when no crash has left one of the stages between two others. -/
theorem recovers_iff {τ : Type} (cfg : PairConfig) (env : PairEnv σ) (e : σ) (steps : List Step)
    (env' : PairEnv τ) (e' : τ) (henv : Obliging env') :
    Recovers cfg env' { disk := (runSteps cfg env { env := e } steps).disk, env := e' } ↔
      ¬(runSteps cfg env { env := e } steps).disk.Stuck cfg := by
  constructor
  · intro hrecovers hstuck
    exact hstuck.not_recovers e' hrecovers
  · intro hstuck
    have hsound : Sound cfg (runSteps cfg env { env := e } steps).disk :=
      sound_runSteps cfg env sound_empty steps
    exact recovers_of_sound henv hsound hstuck

theorem Scripted.flat_obliging : Obliging flat :=
  ⟨fun _ _ => rfl, fun _ _ => ⟨_, rfl, rfl⟩, fun _ _ => ⟨_, rfl⟩⟩

theorem recovers_iff_scripted :
    Recovers Scripted.config Scripted.flat
        { disk := (runSteps Scripted.config Scripted.env { env := [] } Scripted.selection).disk
          env := () } ↔
      ¬(runSteps Scripted.config Scripted.env { env := [] } Scripted.selection).disk.Stuck
        Scripted.config :=
  recovers_iff Scripted.config Scripted.env [] Scripted.selection Scripted.flat ()
    Scripted.flat_obliging

/-- A process that dies when PAUSING is on record leaves a state without a way out. -/
theorem recovers_iff_interrupted :
    ¬Recovers Scripted.config Scripted.flat
      { disk := (runSteps Scripted.config Scripted.env { env := [] } Scripted.interrupted).disk
        env := () } := by
  have hstate : (runSteps Scripted.config Scripted.env { env := [] }
      Scripted.interrupted).disk.state = some Scripted.first := by decide +kernel
  have hstage : (runSteps Scripted.config Scripted.env { env := [] }
      Scripted.interrupted).disk.switch.map (·.stage) = some .pausing := by decide +kernel
  generalize (runSteps Scripted.config Scripted.env { env := [] } Scripted.interrupted).disk = d
    at hstate hstage ⊢
  obtain ⟨v, hv, hpausing⟩ := Option.map_eq_some_iff.mp hstage
  exact (stuck_of_stage hstate hv (.inl hpausing)).not_recovers ()

end SpotSidecar.PairControl
