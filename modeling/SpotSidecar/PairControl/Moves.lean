import SpotSidecar.PairControl.Controller

/-! What a call of the pair controller can do to its files, wherever the process dies and
whichever writes, callbacks and questions fail. -/
namespace SpotSidecar.PairControl
open Interaction Prog

/-- A write of a projection or of the authoritative state. -/
def Event.publication? : Event → Option FileWrite
  | .wrote (.switch _) => none
  | .wrote f => some f
  | _ => none

/-- The latest such write of a log. -/
def lastPublication (log : List Event) : Option FileWrite := log.findSome? Event.publication?

/-- What `_publish` writes, in its order. -/
def ActiveState.publications (s : ActiveState) : List FileWrite :=
  [.pairlist s.toPairlist, .overlay s.toOverlay, .state s]

/-- The files after the first writes of `_publish`. -/
def Disk.published (d : Disk) (s : ActiveState) (k : ℕ) : Disk :=
  (s.publications.take k).foldl Disk.replace d

/-- The record of a stage that was entered when `a` was the active state. -/
structure SwitchState.Records (v : SwitchState) (stage : Stage) (a : ActiveState)
    (target : Option String) : Prop where
  schemaVersion : v.schemaVersion = 1
  stage : v.stage = stage
  activePair : v.activePair = a.pair
  targetPair : v.targetPair = target

/-- The loaded state and the status of a switch. -/
structure Disk.Shows (cfg : PairConfig) (d : Disk) (a : ActiveState) (st : SwitchStatus) :
    Prop where
  loaded : loaded cfg d.state = .ok a
  status : statusOf cfg a d.switch = .ok st

/-- What a call can leave behind, and the events that it logs. -/
inductive Moved (cfg : PairConfig) (d : Disk) : Op → List Event → Disk → Prop where
  | still {op : Op} : Moved cfg d op [] d
  | bootstrapped {initial : String} {now k : ℕ} {s : ActiveState} {log : List Event}
      (hd : d.state = none ∧ d.pairlist = none ∧ d.overlay = none)
      (hs : buildState cfg now initial 1 "bootstrap" = .ok s)
      (hlog : lastPublication log = (s.publications.take k).getLast?) :
      Moved cfg d (.bootstrap initial) log (d.published s k)
  | resumed {requested hash : String} {a : ActiveState} {st : SwitchStatus} {v : SwitchState}
      {log : List Event} (hshows : d.Shows cfg a st) (hidle : st.stage.idle = true)
      (hsame : canonicalPair cfg requested = .ok a.pair) (hv : v.Records .active a none)
      (hlog : lastPublication log = none) :
      Moved cfg d (.beginSwitch requested hash) log (d.replace (.switch v))
  | announced {requested hash target : String} {a : ActiveState} {st : SwitchStatus}
      {stage : Stage} {v : SwitchState} {log : List Event} (hshows : d.Shows cfg a st)
      (hidle : st.stage.idle = true) (htarget : canonicalPair cfg requested = .ok target)
      (hne : target ≠ a.pair)
      (hstage : stage = .pausing ∨ stage = .reconciling ∨ stage = .blocked)
      (hv : v.Records stage a (some target)) (hlog : lastPublication log = none) :
      Moved cfg d (.beginSwitch requested hash) log (d.replace (.switch v))
  | selected {requested hash target symbol : String} {a : ActiveState} {st : SwitchStatus}
      {verification : Verification} {v : SwitchState} {log : List Event}
      (hshows : d.Shows cfg a st) (hidle : st.stage.idle = true)
      (htarget : canonicalPair cfg requested = .ok target) (hne : target ≠ a.pair)
      (hsymbol : symbolForPair cfg target = .ok symbol) (hok : verification.ok = true)
      (hflat : .flat [a.symbol, symbol] verification ∈ log)
      (hv : v.Records .waitingManualSwap a (some target)) (hlog : lastPublication log = none) :
      Moved cfg d (.beginSwitch requested hash) log (d.replace (.switch v))
  | rechecked {target : String} {a : ActiveState} {st : SwitchStatus} {stage : Stage}
      {v : SwitchState} {log : List Event} (hshows : d.Shows cfg a st)
      (hwaiting : st.stage = .waitingManualSwap)
      (htarget : canonicalPair cfg (st.targetPair.getD "None") = .ok target)
      (hstage : stage = .reconciling ∨ stage = .blocked)
      (hv : v.Records stage a (some target)) (hlog : lastPublication log = none) :
      Moved cfg d .completeSwitch log (d.replace (.switch v))
  | applying {target symbol : String} {a next : ActiveState} {st : SwitchStatus} {stage : Stage}
      {verification : Verification} {now k : ℕ} {v : SwitchState} {log : List Event}
      (hshows : d.Shows cfg a st) (hwaiting : st.stage = .waitingManualSwap)
      (htarget : canonicalPair cfg (st.targetPair.getD "None") = .ok target)
      (hsymbol : symbolForPair cfg target = .ok symbol) (hok : verification.ok = true)
      (hflat : .flat [a.symbol, symbol] verification ∈ log) (hvalid : .validated target ∈ log)
      (hnext : buildState cfg now target (a.generation + 1) "owner-confirmed-manual-swap" =
        .ok next)
      (hstage : stage = .applyingPair ∨ stage = .blocked ∧ k < 3)
      (hv : v.Records stage a (some target))
      (hlog : lastPublication log = (next.publications.take k).getLast?) :
      Moved cfg d .completeSwitch log ((d.published next k).replace (.switch v))
  | applied {target symbol : String} {a next : ActiveState} {st : SwitchStatus}
      {verification : Verification} {now : ℕ} {v : SwitchState} {log : List Event}
      (hshows : d.Shows cfg a st) (hwaiting : st.stage = .waitingManualSwap)
      (htarget : canonicalPair cfg (st.targetPair.getD "None") = .ok target)
      (hsymbol : symbolForPair cfg target = .ok symbol) (hok : verification.ok = true)
      (hflat : .flat [a.symbol, symbol] verification ∈ log) (hvalid : .validated target ∈ log)
      (hnext : buildState cfg now target (a.generation + 1) "owner-confirmed-manual-swap" =
        .ok next)
      (hv : v.Records .verifyingPair next (some target))
      (hlog : lastPublication log = some (.state next)) :
      Moved cfg d .completeSwitch log ((d.published next 3).replace (.switch v))
  | verified {proof : Proof} {a : ActiveState} {st : SwitchStatus} {v : SwitchState}
      {log : List Event} (hshows : d.Shows cfg a st) (hverifying : st.stage = .verifyingPair)
      (htarget : st.targetPair = some a.pair) (hproof : proof.ok = true)
      (hv : v.Records .pausedReady a (some a.pair)) (hwrote : .wrote (.switch v) ∈ log)
      (hlog : lastPublication log = none) :
      Moved cfg d (.markPairVerified proof) log (d.replace (.switch v))
  | activated {a : ActiveState} {st : SwitchStatus} {v : SwitchState} {log : List Event}
      (hshows : d.Shows cfg a st) (hready : st.stage.ready = true) (hv : v.Records .active a none)
      (hlog : lastPublication log = none) :
      Moved cfg d .markActiveAfterResume log (d.replace (.switch v))

section states
variable {cfg : PairConfig} {a s : ActiveState} {state : Option ActiveState}

theorem validateState_eq_ok (h : validateState cfg state = .ok a) : state = some a := by
  cases state with
  | none => cases h
  | some s =>
    dsimp only [validateState] at h
    split at h
    · cases h
    · obtain ⟨pair, -, h⟩ := except_bind_eq_ok.mp h
      obtain ⟨symbol, -, h⟩ := except_bind_eq_ok.mp h
      split at h
      · cases h
      · obtain ⟨quote, -, h⟩ := except_bind_eq_ok.mp h
        split at h
        · cases h
        · split at h
          · cases h
          · obtain ⟨digest, -, h⟩ := except_bind_eq_ok.mp h
            split at h
            · cases h
            · split at h
              · cases h
              · exact congrArg some (Except.ok.inj h)

theorem loaded_eq_ok : loaded cfg state = .ok a ↔ validateState cfg state = .ok a := by
  unfold loaded
  split
  · next h => simp [h]
  · rfl

theorem state_of_loaded (h : loaded cfg state = .ok a) : state = some a :=
  validateState_eq_ok (loaded_eq_ok.mp h)

/-- The target that a status shows is canonical. -/
theorem canonical_of_status {v : Option SwitchState} {st : SwitchStatus}
    (h : statusOf cfg a v = .ok st) {target : String} (ht : st.targetPair = some target) :
    ∃ value, canonicalPair cfg value = .ok target := by
  cases v with
  | none =>
    cases h
    cases ht
  | some v =>
    dsimp only [statusOf] at h
    split at h
    · cases h
    · obtain ⟨t, hcanonical, h⟩ := except_bind_eq_ok.mp h
      split at h
      · cases h
      · cases h
        dsimp only at ht
        subst ht
        cases hv : v.targetPair with
        | none =>
          rw [hv] at hcanonical
          cases hcanonical
        | some value =>
          rw [hv] at hcanonical
          refine ⟨value, ?_⟩
          cases hvalue : canonicalPair cfg value with
          | error e => simp [hvalue] at hcanonical
          | ok name =>
            simp [hvalue] at hcanonical
            rw [hcanonical]

/-- A state that is built is the state that is loaded. -/
theorem loaded_buildState {now generation : ℕ} {pair source : String}
    (h : buildState cfg now pair generation source = .ok s) (hg : 1 ≤ generation) :
    loaded cfg (some s) = .ok s := by
  unfold buildState at h
  obtain ⟨name, hname, h⟩ := except_bind_eq_ok.mp h
  obtain ⟨symbol, hsymbol, h⟩ := except_bind_eq_ok.mp h
  obtain ⟨quote, hquote, h⟩ := except_bind_eq_ok.mp h
  obtain ⟨digest, hdigest, h⟩ := except_bind_eq_ok.mp h
  cases h
  rw [loaded_eq_ok]
  have hone : ¬generation < 1 := by omega
  simp only [validateState, canonicalPair_canonical hname, hsymbol, hquote, hdigest, ne_eq,
    not_true_eq_false, if_false, Bind.bind, Except.bind, or_self, hone, pairStateHash]

theorem buildState_canonical {value pair : String} (h : canonicalPair cfg value = .ok pair)
    (now generation : ℕ) (source : String) :
    ∃ s, buildState cfg now pair generation source = .ok s := by
  obtain ⟨digest, hdigest⟩ := pairConfigHash_canonical h
  simp only [buildState, canonicalPair_canonical h, symbolForPair_canonical h,
    quoteForPair_canonical h, hdigest, Bind.bind, Except.bind]
  exact ⟨_, rfl⟩

theorem buildState_fields {now generation : ℕ} {pair source : String}
    (h : buildState cfg now pair generation source = .ok s) :
    canonicalPair cfg pair = .ok s.pair ∧ symbolForPair cfg s.pair = .ok s.symbol ∧
      s.generation = generation := by
  unfold buildState at h
  obtain ⟨name, hname, h⟩ := except_bind_eq_ok.mp h
  obtain ⟨symbol, hsymbol, h⟩ := except_bind_eq_ok.mp h
  obtain ⟨quote, -, h⟩ := except_bind_eq_ok.mp h
  obtain ⟨digest, -, h⟩ := except_bind_eq_ok.mp h
  cases h
  exact ⟨hname, hsymbol, rfl⟩

end states

variable {σ : Type} {cfg : PairConfig} {env : PairEnv σ} {d : Disk} {l : List Event}

/-- The files and the log at a point of a call. -/
def At (d : Disk) (l : List Event) (w : World σ) : Prop := w.disk = d ∧ w.log = l

section parts
variable {E : PairExc → World σ → Prop} {C : World σ → Prop}

theorem triple_disk (hC : ∀ w, At d l w → C w) :
    Triple (PairAct.exec env) (At d l) (perform .disk) (fun r w => At d l w ∧ r = d) E C :=
  fun w hw => ⟨hC w hw, hw, hw.1⟩

theorem triple_now (hC : ∀ w, At d l w → C w) :
    Triple (PairAct.exec env) (At d l) (perform .now) (fun _ => At d l) E C :=
  fun w hw => ⟨hC w hw, hw⟩

theorem triple_requirePair {pair : String} (hE : ∀ e w, At d l w → E e w)
    (hC : ∀ w, At d l w → C w) :
    Triple (PairAct.exec env) (At d l) (perform (.requirePair pair)) (fun _ => At d l) E C := by
  refine Triple.perform hC (fun w a w' hw h => ?_) fun w e w' hw h => ?_
  · obtain ⟨-, rfl⟩ := Prod.mk.inj h
    exact hw
  · obtain ⟨-, rfl⟩ := Prod.mk.inj h
    exact hE e _ hw

theorem triple_write {f : FileWrite} (hE : ∀ e w, At d l w → E e w) (hC : ∀ w, At d l w → C w) :
    Triple (PairAct.exec env) (At d l) (write f)
      (fun _ => At (d.replace f) (.wrote f :: l)) E C := by
  have hexec : ∀ w r w', At d l w → PairAct.exec env _ (.write f) w = (r, w') →
      (r = .ok () ∧ At (d.replace f) (.wrote f :: l) w') ∨ (∃ e, r = .error e) ∧ At d l w' := by
    rintro w r w' ⟨rfl, rfl⟩ h
    unfold PairAct.exec at h
    dsimp only at h
    split at h <;> cases h
    · exact .inl ⟨rfl, rfl, rfl⟩
    · exact .inr ⟨⟨_, rfl⟩, rfl, rfl⟩
  refine Triple.perform hC (fun w a w' hw h => ?_) fun w e w' hw h => ?_
  · rcases hexec w _ w' hw h with h | ⟨⟨e, he⟩, -⟩
    · exact h.2
    · cases he
  · rcases hexec w _ w' hw h with h | ⟨-, hw'⟩
    · cases h.1
    · exact hE e _ hw'

theorem triple_verifyFlat {symbols : List String} (hE : ∀ e w, At d l w → E e w)
    (hC : ∀ w, At d l w → C w) :
    Triple (PairAct.exec env) (At d l) (perform (.verifyFlat symbols))
      (fun v => At d (.flat symbols v :: l)) E C := by
  have hexec : ∀ w r w', At d l w → PairAct.exec env _ (.verifyFlat symbols) w = (r, w') →
      (∃ v, r = .ok v ∧ At d (.flat symbols v :: l) w') ∨ (∃ e, r = .error e) ∧ At d l w' := by
    rintro w r w' ⟨rfl, rfl⟩ h
    unfold PairAct.exec at h
    dsimp only at h
    split at h <;> cases h
    · exact .inl ⟨_, rfl, rfl, rfl⟩
    · exact .inr ⟨⟨_, rfl⟩, rfl, rfl⟩
  refine Triple.perform hC (fun w a w' hw h => ?_) fun w e w' hw h => ?_
  · rcases hexec w _ w' hw h with ⟨v, hv, h⟩ | ⟨⟨e, he⟩, -⟩
    · cases hv
      exact h
    · cases he
  · rcases hexec w _ w' hw h with ⟨v, hv, -⟩ | ⟨-, hw'⟩
    · cases hv
    · exact hE e _ hw'

theorem triple_validateTarget {pair : String} (hE : ∀ e w, At d l w → E e w)
    (hC : ∀ w, At d l w → C w) :
    Triple (PairAct.exec env) (At d l) (perform (.validateTarget pair))
      (fun _ => At d (.validated pair :: l)) E C := by
  have hexec : ∀ w r w', At d l w → PairAct.exec env _ (.validateTarget pair) w = (r, w') →
      (∃ v, r = .ok v ∧ At d (.validated pair :: l) w') ∨ (∃ e, r = .error e) ∧ At d l w' := by
    rintro w r w' ⟨rfl, rfl⟩ h
    unfold PairAct.exec at h
    dsimp only at h
    split at h <;> cases h
    · exact .inl ⟨_, rfl, rfl, rfl⟩
    · exact .inr ⟨⟨_, rfl⟩, rfl, rfl⟩
  refine Triple.perform hC (fun w a w' hw h => ?_) fun w e w' hw h => ?_
  · rcases hexec w _ w' hw h with ⟨v, hv, h⟩ | ⟨⟨e, he⟩, -⟩
    · cases hv
      exact h
    · cases he
  · rcases hexec w _ w' hw h with ⟨v, hv, -⟩ | ⟨-, hw'⟩
    · cases hv
    · exact hE e _ hw'

theorem triple_ofExcept {α : Type} {r : Except PairExc α} (hE : ∀ e w, At d l w → E e w) :
    Triple (PairAct.exec env) (At d l) (ofExcept r) (fun a w => At d l w ∧ r = .ok a) E C :=
  Triple.ofExcept (fun _ h _ hw => ⟨hw, h⟩) fun e _ w hw => hE e w hw

theorem triple_load (hE : ∀ e w, At d l w → E e w) (hC : ∀ w, At d l w → C w) :
    Triple (PairAct.exec env) (At d l) (load cfg)
      (fun a w => At d l w ∧ loaded cfg d.state = .ok a) E C := by
  refine Triple.bind (triple_disk hC) fun r => Triple.assume_eq fun hr => ?_
  subst hr
  exact triple_ofExcept hE

theorem triple_switchStatus (hE : ∀ e w, At d l w → E e w) (hC : ∀ w, At d l w → C w) :
    Triple (PairAct.exec env) (At d l) (switchStatus cfg)
      (fun st w => At d l w ∧ ∃ a, d.Shows cfg a st) E C := by
  refine Triple.bind (triple_load hE hC) fun a => Triple.assume_eq fun ha => ?_
  refine Triple.bind (triple_disk hC) fun r => Triple.assume_eq fun hr => ?_
  subst hr
  exact (triple_ofExcept hE).post fun st w hw => ⟨hw.1, a, ha, hw.2⟩

/-- A stage is recorded by one write. -/
theorem triple_switchState {stage : Stage} {target : Option String} {detail : String}
    {evidence : Evidence} {a : ActiveState} (ha : loaded cfg d.state = .ok a)
    (htarget : ∀ t ∈ target, ∃ value, canonicalPair cfg value = .ok t)
    (hE : ∀ e w, At d l w → E e w) (hC : ∀ w, At d l w → C w) :
    Triple (PairAct.exec env) (At d l) (switchState cfg stage target detail evidence)
      (fun v w => v.Records stage a target ∧
        At (d.replace (.switch v)) (.wrote (.switch v) :: l) w) E C := by
  have hsame : target.mapM (canonicalPair cfg) = .ok target := by
    cases target with
    | none => rfl
    | some t =>
      obtain ⟨value, hvalue⟩ := htarget t rfl
      simp [canonicalPair_canonical hvalue]
  unfold switchState
  refine Triple.bind (triple_load hE hC) fun active => Triple.assume_eq fun hactive => ?_
  cases ha.symm.trans hactive
  refine Triple.bind (triple_ofExcept hE) fun t => Triple.assume_eq fun ht => ?_
  cases hsame.symm.trans ht
  refine Triple.bind (triple_now hC) fun now => ?_
  refine Triple.bind (triple_write hE hC) fun _ => .pure fun w hw => ⟨?_, hw⟩
  exact ⟨rfl, rfl, rfl, rfl⟩

end parts

/-- How far a publication has come; it has logged nothing but its own writes. -/
def Published (d : Disk) (s : ActiveState) (l : List Event) (k : ℕ) (w : World σ) : Prop :=
  w.disk = d.published s k ∧ w.log = (s.publications.take k).reverse.map .wrote ++ l

theorem triple_publish (s : ActiveState) :
    Triple (PairAct.exec env) (At d l) (publish s) (fun _ => Published d s l 3)
      (fun _ w => ∃ k < 3, Published d s l k w) fun w => ∃ k < 3, Published d s l k w := by
  have hzero : ∀ w : World σ, At d l w → ∃ k < 3, Published d s l k w :=
    fun w hw => ⟨0, by decide, hw.1, hw.2⟩
  have hone : ∀ w : World σ, At (d.replace (.pairlist s.toPairlist))
      (.wrote (.pairlist s.toPairlist) :: l) w → ∃ k < 3, Published d s l k w :=
    fun w hw => ⟨1, by decide, hw.1, hw.2⟩
  have htwo :
      ∀ w : World σ, At ((d.replace (.pairlist s.toPairlist)).replace (.overlay s.toOverlay))
      (.wrote (.overlay s.toOverlay) :: .wrote (.pairlist s.toPairlist) :: l) w →
      ∃ k < 3, Published d s l k w :=
    fun w hw => ⟨2, by decide, hw.1, hw.2⟩
  unfold publish
  refine Triple.bind (triple_write (fun _ => hzero) hzero) fun _ => ?_
  refine Triple.bind (triple_write (fun _ => hone) hone) fun _ => ?_
  exact (triple_write (fun _ => htwo) htwo).post fun _ w hw => hw

theorem publications_take (s : ActiveState) (k : ℕ) :
    s.publications.take (k + 3) = s.publications := by
  simp [ActiveState.publications]

theorem lastPublication_published {s : ActiveState} {k : ℕ} (h : lastPublication l = none) :
    lastPublication ((s.publications.take k).reverse.map Event.wrote ++ l) =
      (s.publications.take k).getLast? := by
  match k with
  | 0 => exact h
  | 1 => rfl
  | 2 => rfl
  | k + 3 =>
    rw [publications_take]
    rfl

theorem published_switch {s : ActiveState} {v : SwitchState} {k : ℕ} :
    (d.replace (.switch v)).published s k = (d.published s k).replace (.switch v) := by
  match k with
  | 0 => rfl
  | 1 => rfl
  | 2 => rfl
  | k + 3 =>
    rw [Disk.published, Disk.published, publications_take]
    rfl

theorem published_keeps_switch {s : ActiveState} {k : ℕ} : (d.published s k).switch = d.switch := by
  match k with
  | 0 => rfl
  | 1 => rfl
  | 2 => rfl
  | k + 3 =>
    rw [Disk.published, publications_take]
    rfl

theorem loaded_published {s : ActiveState} {k : ℕ} (h : k < 3) :
    (d.published s k).state = d.state := by
  match k, h with
  | 0, _ => rfl
  | 1, _ => rfl
  | 2, _ => rfl

/-- A call that leaves only what is allowed. -/
abbrev MovesBy (cfg : PairConfig) (env : PairEnv σ) (d : Disk) (op : Op) : Prop :=
  Triple (PairAct.exec env) (At d []) (op.program cfg)
    (fun _ w => Moved cfg d op w.log w.disk) (fun _ w => Moved cfg d op w.log w.disk)
    fun w => Moved cfg d op w.log w.disk

theorem At.still {op : Op} {w : World σ} (h : At d [] w) : Moved cfg d op w.log w.disk := by
  rw [h.1, h.2]
  exact .still

theorem At.moved {op : Op} {d' : Disk} {w : World σ} (h : At d' l w) (hm : Moved cfg d op l d') :
    Moved cfg d op w.log w.disk := by
  rw [h.1, h.2]
  exact hm

theorem Triple.forget {α : Type} {P : World σ → Prop} {m : Switching α} {R : World σ → Prop}
    (h : Triple (PairAct.exec env) P m (fun _ => R) (fun _ => R) R) :
    Triple (PairAct.exec env) P (PairControl.forget m) (fun _ => R) (fun _ => R) R :=
  Triple.bind h fun _ => .pure fun _ hw => hw

theorem moves_requireResumeReady : MovesBy cfg env d .requireResumeReady := by
  refine Triple.forget ?_
  unfold requireResumeReady
  refine Triple.bind (triple_switchStatus (fun _ _ hw => hw.still) fun _ hw => hw.still)
    fun status => ?_
  refine Triple.bind (Q := fun _ => At d []) ?_ fun _ => .pure fun _ hw => hw.still
  exact .ensure (fun _ _ hw => hw.1) fun _ _ hw => hw.1.still

theorem moves_markActiveAfterResume : MovesBy cfg env d .markActiveAfterResume := by
  refine Triple.forget ?_
  unfold markActiveAfterResume requireResumeReady
  refine Triple.bind (Q := fun status w => At d [] w ∧
    ∃ a, d.Shows cfg a status ∧ status.stage.ready = true) ?_ fun status => ?_
  · refine Triple.bind (triple_switchStatus (fun _ _ hw => hw.still) fun _ hw => hw.still)
      fun status => ?_
    refine Triple.bind (Q := fun _ w => At d [] w ∧
      ∃ a, d.Shows cfg a status ∧ status.stage.ready = true) ?_ fun _ => .pure fun _ hw => hw
    refine .ensure (fun hready w hw => ⟨hw.1, ?_⟩) fun _ _ hw => hw.1.still
    obtain ⟨a, ha⟩ := hw.2
    exact ⟨a, ha, hready⟩
  · refine Triple.assume_eq ?_
    rintro ⟨a, hshows, hready⟩
    split
    · exact .pure fun w hw => hw.still
    · refine (triple_switchState hshows.loaded (by simp) (fun _ _ hw => hw.still)
        fun _ hw => hw.still).post fun v w hw => ?_
      exact hw.2.moved (.activated hshows hready hw.1 rfl)

theorem moves_markPairVerified (proof : Proof) : MovesBy cfg env d (.markPairVerified proof) := by
  refine Triple.forget ?_
  unfold markPairVerified
  refine Triple.bind (triple_switchStatus (fun _ _ hw => hw.still) fun _ hw => hw.still)
    fun status => Triple.assume_eq ?_
  rintro ⟨a, hshows⟩
  split
  · exact .raise fun _ hw => hw.still
  · next hverifying =>
    split
    · exact .raise fun _ hw => hw.still
    · next hproof =>
      refine Triple.bind (triple_load (fun _ _ hw => hw.still) fun _ hw => hw.still)
        fun active => Triple.assume_eq fun hactive => ?_
      cases hshows.loaded.symm.trans hactive
      split
      · exact .raise fun _ hw => hw.still
      · next htarget =>
        have hcanonical : ∀ t ∈ some a.pair, ∃ value, canonicalPair cfg value = .ok t := by
          intro t ht
          rw [← Option.some.inj ht]
          exact canonical_of_status hshows.status (not_not.mp htarget)
        refine (triple_switchState hshows.loaded hcanonical (fun _ _ hw => hw.still)
          fun _ hw => hw.still).post fun v w hw => ?_
        · refine hw.2.moved (.verified hshows (not_not.mp hverifying) (not_not.mp htarget) ?_ hw.1
            (List.mem_cons_self ..) rfl)
          simpa using hproof

theorem moves_bootstrap (initial : String) : MovesBy cfg env d (.bootstrap initial) := by
  refine Triple.forget ?_
  unfold bootstrap
  refine Triple.bind (triple_disk fun _ hw => hw.still) fun r => Triple.assume_eq fun hr => ?_
  subst hr
  dsimp only
  split
  · exact .raise fun _ hw => hw.still
  · next hpartial =>
    split
    · refine Triple.bind (triple_load (fun _ _ hw => hw.still) fun _ hw => hw.still)
        fun active => ?_
      split
      · exact .raise fun _ hw => hw.1.still
      · split
        · exact .raise fun _ hw => hw.1.still
        · exact .pure fun _ hw => hw.1.still
    · next hall =>
      have hnone : r.state = none ∧ r.pairlist = none ∧ r.overlay = none := by
        cases hs : r.state <;> cases hp : r.pairlist <;> cases ho : r.overlay <;>
          simp [hs, hp, ho] at hpartial hall ⊢
      refine Triple.bind (triple_now fun _ hw => hw.still) fun now => ?_
      refine Triple.bind (triple_ofExcept fun _ _ hw => hw.still) fun s =>
        Triple.assume_eq fun hs => ?_
      have hmoved : ∀ k (w : World σ), Published r s [] k w →
          Moved cfg r (.bootstrap initial) w.log w.disk := by
        rintro k w ⟨hdisk, hlog⟩
        rw [hdisk, hlog]
        exact .bootstrapped hnone hs (lastPublication_published rfl)
      refine Triple.bind ((triple_publish s).conseq (fun _ hw => hw) (fun _ w hw => hmoved 3 w hw)
        ?_ ?_) fun _ => .pure fun _ hw => hw
      · rintro e w ⟨k, -, hw⟩
        exact hmoved k w hw
      · rintro w ⟨k, -, hw⟩
        exact hmoved k w hw

/-- The flat check of `begin_switch`, after RECONCILING is on record. -/
theorem moves_selectTarget {requested hash target symbol : String} {a : ActiveState}
    {st : SwitchStatus} {v : SwitchState} {eligibility : Eligibility} (hshows : d.Shows cfg a st)
    (hidle : st.stage.idle = true) (htarget : canonicalPair cfg requested = .ok target)
    (hne : target ≠ a.pair) (hsymbol : symbolForPair cfg target = .ok symbol)
    (hv : v.Records .reconciling a (some target)) (hlog : lastPublication l = none) :
    Triple (PairAct.exec env) (At (d.replace (.switch v)) l)
      (selectTarget cfg a target symbol eligibility)
      (fun _ w => Moved cfg d (.beginSwitch requested hash) w.log w.disk)
      (fun _ w => Moved cfg d (.beginSwitch requested hash) w.log w.disk)
      fun w => Moved cfg d (.beginSwitch requested hash) w.log w.disk := by
  have hcanonical : ∀ t ∈ some target, ∃ value, canonicalPair cfg value = .ok t := by
    intro t ht
    rw [← Option.some.inj ht]
    exact ⟨_, htarget⟩
  have hannounced : ∀ {l' : List Event} {stage : Stage} {v' : SwitchState},
      lastPublication l' = none → stage = .pausing ∨ stage = .reconciling ∨ stage = .blocked →
      v'.Records stage a (some target) → ∀ w : World σ, At (d.replace (.switch v')) l' w →
      Moved cfg d (.beginSwitch requested hash) w.log w.disk :=
    fun hl hstage hv' w hw => hw.moved (.announced hshows hidle htarget hne hstage hv' hl)
  have hhere : ∀ w : World σ, At (d.replace (.switch v)) l w →
      Moved cfg d (.beginSwitch requested hash) w.log w.disk :=
    hannounced hlog (.inr (.inl rfl)) hv
  unfold selectTarget
  dsimp only
  refine Triple.bind (Q := fun r w => match r with
    | .ok verification => At (d.replace (.switch v)) (.flat [a.symbol, symbol] verification :: l) w
    | .error _ => At (d.replace (.switch v)) l w) ?_ fun r => ?_
  · exact Triple.attempt (triple_verifyFlat (fun _ _ hw => hw) hhere)
  · cases r with
    | error e =>
      refine Triple.bind (triple_switchState hshows.loaded hcanonical (fun _ => hhere) hhere)
        fun v' => .raise fun w hw => ?_
      have hblocked : lastPublication (.wrote (.switch v') :: l) = none := hlog
      exact hannounced hblocked (.inr (.inr rfl)) hw.1 w hw.2
    | ok verification =>
      have hflat : lastPublication (.flat [a.symbol, symbol] verification :: l) = none := hlog
      have hthere := hannounced hflat (.inr (.inl rfl)) hv
      dsimp only
      split
      · next hok =>
        refine Triple.bind (triple_switchState hshows.loaded hcanonical (fun _ => hthere) hthere)
          fun v' => .pure fun w hw => ?_
        exact hw.2.moved (.selected hshows hidle htarget hne hsymbol hok
          (List.mem_cons_of_mem _ (List.mem_cons_self ..)) hw.1 hflat)
      · refine Triple.bind (triple_switchState hshows.loaded hcanonical (fun _ => hthere) hthere)
          fun v' => .raise fun w hw => ?_
        have hblocked : lastPublication
            (.wrote (.switch v') :: .flat [a.symbol, symbol] verification :: l) = none := hlog
        exact hannounced hblocked (.inr (.inr rfl)) hw.1 w hw.2

theorem moves_beginSwitch (requested hash : String) :
    MovesBy cfg env d (.beginSwitch requested hash) := by
  refine Triple.forget ?_
  unfold beginSwitch
  refine Triple.bind (triple_load (fun _ _ hw => hw.still) fun _ hw => hw.still)
    fun a => Triple.assume_eq fun ha => ?_
  refine Triple.bind (triple_ofExcept fun _ _ hw => hw.still) fun target =>
    Triple.assume_eq fun htarget => ?_
  refine Triple.bind (triple_switchStatus (fun _ _ hw => hw.still) fun _ hw => hw.still)
    fun st => Triple.assume_eq ?_
  rintro ⟨a', hshows⟩
  cases ha.symm.trans hshows.loaded
  split
  · exact .raise fun _ hw => hw.still
  · next hbusy =>
    have hidle : st.stage.idle = true := by simpa using hbusy
    split
    · next hsame =>
      subst hsame
      refine Triple.bind (triple_switchState hshows.loaded (by simp) (fun _ _ hw => hw.still)
        fun _ hw => hw.still) fun v => Triple.assume fun w hw => ?_
      have hmoved : ∀ w : World σ, At (d.replace (.switch v)) [.wrote (.switch v)] w →
          Moved cfg d (.beginSwitch requested hash) w.log w.disk :=
        fun w' hw' => hw'.moved (.resumed hshows hidle htarget hw.1 rfl)
      refine Triple.weaken (R := At (d.replace (.switch v)) [.wrote (.switch v)]) ?_ ?_
      · refine Triple.bind (triple_switchStatus (fun _ => hmoved) hmoved) fun _ => ?_
        exact .pure fun w hw => hmoved w hw.1
      · rintro w' rfl
        exact hw.2
    · next hne =>
      split
      · exact .raise fun _ hw => hw.still
      · refine Triple.bind (triple_requirePair (fun _ _ hw => hw.still) fun _ hw => hw.still)
          fun eligibility => ?_
        split
        · exact .raise fun _ hw => hw.still
        · dsimp only
          have hcanonical : ∀ t ∈ some target, ∃ value, canonicalPair cfg value = .ok t := by
            intro t ht
            rw [← Option.some.inj ht]
            exact ⟨_, htarget⟩
          refine Triple.bind (triple_switchState hshows.loaded hcanonical
            (fun _ _ hw => hw.still) fun _ hw => hw.still) fun v => ?_
          refine Triple.assume fun w₀ hw₀ => ?_
          have hpausing : ∀ w : World σ, At (d.replace (.switch v)) [.wrote (.switch v)] w →
              Moved cfg d (.beginSwitch requested hash) w.log w.disk :=
            fun w hw => hw.moved (.announced hshows hidle htarget hne (.inl rfl) hw₀.1 rfl)
          refine Triple.weaken (R := At (d.replace (.switch v)) [.wrote (.switch v)]) ?_ ?_
          · refine Triple.bind (triple_switchState hshows.loaded hcanonical (fun _ => hpausing)
              hpausing) fun v' => ?_
            refine Triple.assume fun w₁ hw₁ => ?_
            have hreconciling : ∀ w : World σ, At (d.replace (.switch v'))
                [.wrote (.switch v'), .wrote (.switch v)] w →
                Moved cfg d (.beginSwitch requested hash) w.log w.disk :=
              fun w hw => hw.moved
                (.announced hshows hidle htarget hne (.inr (.inl rfl)) hw₁.1 rfl)
            refine Triple.weaken (R := At (d.replace (.switch v'))
              [.wrote (.switch v'), .wrote (.switch v)]) ?_ ?_
            · refine Triple.bind (triple_ofExcept fun _ => hreconciling) fun symbol =>
                Triple.assume_eq fun hsymbol => ?_
              exact moves_selectTarget hshows hidle htarget hne hsymbol hw₁.1 rfl
            · rintro w rfl
              exact hw₁.2
          · rintro w rfl
            exact hw₀.2

/-- The publication, read back: what fails has not reached the authoritative state. -/
theorem triple_publishVerified {next : ActiveState} (hloaded : loaded cfg (some next) = .ok next) :
    Triple (PairAct.exec env) (At d l) (publishVerified cfg next) (fun _ => Published d next l 3)
      (fun _ w => ∃ k < 3, Published d next l k w) fun w => ∃ k ≤ 3, Published d next l k w := by
  have hstop : ∀ k < 3, ∀ w : World σ, Published d next l k w → ∃ k ≤ 3, Published d next l k w :=
    fun k hk w hw => ⟨k, hk.le, hw⟩
  unfold publishVerified
  refine Triple.bind ((triple_publish next).conseq (fun _ hw => hw) (fun _ _ hw => hw)
    (fun _ _ hw => hw) ?_) fun _ => ?_
  · rintro w ⟨k, hk, hw⟩
    exact hstop k hk w hw
  · have hthree : ∀ w : World σ, Published d next l 3 w → ∃ k ≤ 3, Published d next l k w :=
      fun w hw => ⟨3, le_rfl, hw⟩
    refine Triple.bind (Q := fun read w => Published d next l 3 w ∧ read = next) ?_ fun read => ?_
    · refine Triple.bind (Q := fun r w => Published d next l 3 w ∧ r = w.disk) ?_ fun r => ?_
      · exact fun w hw => ⟨hthree w hw, hw, rfl⟩
      · refine .ofExcept (fun read hread w hw => ⟨hw.1, ?_⟩) fun e he w hw => ?_
        · rw [hw.2, hw.1.1] at hread
          exact Except.ok.inj (hread.symm.trans hloaded)
        · rw [hw.2, hw.1.1] at he
          cases he.symm.trans hloaded
    · exact .ensure (fun _ w hw => hw.1) fun hne w hw => absurd hw.2 hne

/-- The publication of `complete_switch`, after the target is validated. -/
theorem moves_applyTarget {target symbol : String} {a : ActiveState} {st : SwitchStatus}
    {evidence : Evidence} {verification : Verification} {validation : Validation} {v : SwitchState}
    (hshows : d.Shows cfg a st) (hwaiting : st.stage = .waitingManualSwap)
    (htarget : canonicalPair cfg (st.targetPair.getD "None") = .ok target)
    (hsymbol : symbolForPair cfg target = .ok symbol) (hok : verification.ok = true)
    (hflat : .flat [a.symbol, symbol] verification ∈ l) (hvalid : .validated target ∈ l)
    (hv : v.Records .reconciling a (some target)) (hlog : lastPublication l = none) :
    Triple (PairAct.exec env) (At (d.replace (.switch v)) l)
      (applyTarget cfg a target evidence verification validation)
      (fun _ w => Moved cfg d .completeSwitch w.log w.disk)
      (fun _ w => Moved cfg d .completeSwitch w.log w.disk)
      fun w => Moved cfg d .completeSwitch w.log w.disk := by
  have hcanonical : ∀ t ∈ some target, ∃ value, canonicalPair cfg value = .ok t := by
    intro t ht
    rw [← Option.some.inj ht]
    exact ⟨_, htarget⟩
  have hhere : ∀ w : World σ, At (d.replace (.switch v)) l w →
      Moved cfg d .completeSwitch w.log w.disk :=
    fun w hw => hw.moved (.rechecked hshows hwaiting htarget (.inl rfl) hv hlog)
  unfold applyTarget
  dsimp only
  refine Triple.bind (triple_switchState hshows.loaded hcanonical (fun _ => hhere) hhere)
    fun v' => ?_
  refine Triple.assume fun w₀ hw₀ => ?_
  refine Triple.weaken (R := At (d.replace (.switch v')) (.wrote (.switch v') :: l)) ?_ ?_
  · have hmoved : ∀ {next : ActiveState} {now k : ℕ} {v₁ : SwitchState} {stage : Stage}
        {l₁ : List Event}, buildState cfg now target (a.generation + 1)
          "owner-confirmed-manual-swap" = .ok next → v₁.Records stage a (some target) →
        stage = .applyingPair ∨ stage = .blocked ∧ k < 3 → l ⊆ l₁ →
        lastPublication l₁ = (next.publications.take k).getLast? → ∀ w : World σ,
        At ((d.published next k).replace (.switch v₁)) l₁ w →
        Moved cfg d .completeSwitch w.log w.disk :=
      fun hnext hv₁ hstage hsub hlast w hw => hw.moved (.applying hshows hwaiting htarget hsymbol
        hok (hsub hflat) (hsub hvalid) hnext hstage hv₁ hlast)
    have hthere : ∀ w : World σ, At (d.replace (.switch v')) (.wrote (.switch v') :: l) w →
        Moved cfg d .completeSwitch w.log w.disk := by
      obtain ⟨next, hnext⟩ := buildState_canonical htarget 0 (a.generation + 1)
        "owner-confirmed-manual-swap"
      exact hmoved (k := 0) hnext hw₀.1 (.inl rfl) (List.subset_cons_self _ _) hlog
    refine Triple.bind (triple_now hthere) fun now => ?_
    refine Triple.bind (triple_ofExcept fun _ => hthere) fun next =>
      Triple.assume_eq fun hnext => ?_
    have hstaged : lastPublication (.wrote (.switch v') :: l) = none := hlog
    have hpublished : ∀ k, ∀ w : World σ,
        Published (d.replace (.switch v')) next (.wrote (.switch v') :: l) k w →
        Moved cfg d .completeSwitch w.log w.disk := by
      rintro k w ⟨hdisk, hl⟩
      rw [published_switch] at hdisk
      refine hmoved (k := k) hnext hw₀.1 (.inl rfl) ?_ (lastPublication_published hstaged) w
        ⟨hdisk, hl⟩
      exact fun e he => List.mem_append_right _ (List.mem_cons_of_mem _ he)
    refine Triple.bind (Q := fun r w => match r with
      | .ok () => Published (d.replace (.switch v')) next (.wrote (.switch v') :: l) 3 w
      | .error _ => ∃ k < 3,
        Published (d.replace (.switch v')) next (.wrote (.switch v') :: l) k w) ?_ fun r => ?_
    · refine Triple.attempt ((triple_publishVerified (loaded_buildState hnext (by omega))).conseq
        (fun _ hw => hw) (fun _ _ hw => hw) (fun _ _ hw => hw) ?_)
      rintro w ⟨k, -, hw⟩
      exact hpublished k w hw
    · cases r with
      | error e =>
        dsimp only
        refine Triple.exists_pre fun k => Triple.assume fun w₁ hw₁ => ?_
        refine Triple.weaken (R := Published (d.replace (.switch v')) next
          (.wrote (.switch v') :: l) k) ?_ (by rintro w rfl; exact hw₁.2)
        have hloaded : loaded cfg ((d.replace (.switch v')).published next k).state = .ok a := by
          rw [loaded_published hw₁.1]
          exact hshows.loaded
        refine Triple.bind (triple_switchState hloaded hcanonical (fun _ => hpublished k)
          (hpublished k)) fun v₁ => .raise fun w hw => ?_
        rw [published_switch] at hw
        have hlast : lastPublication (.wrote (.switch v₁) ::
            ((next.publications.take k).reverse.map .wrote ++ .wrote (.switch v') :: l)) =
            (next.publications.take k).getLast? := lastPublication_published hstaged
        refine hmoved hnext hw.1 (.inr ⟨rfl, hw₁.1⟩) ?_ hlast w hw.2
        exact fun e he => List.mem_cons_of_mem _ (List.mem_append_right _
          (List.mem_cons_of_mem _ he))
      | ok u =>
        dsimp only
        refine Triple.bind (triple_switchState (loaded_buildState hnext (by omega)) hcanonical
          (fun _ => hpublished 3) (hpublished 3)) fun v₁ => .pure fun w hw => ?_
        rw [published_switch] at hw
        refine hw.2.moved (.applied hshows hwaiting htarget hsymbol hok ?_ ?_ hnext hw.1 rfl)
        · exact List.mem_cons_of_mem _ (List.mem_append_right _ (List.mem_cons_of_mem _ hflat))
        · exact List.mem_cons_of_mem _ (List.mem_append_right _ (List.mem_cons_of_mem _ hvalid))
  · rintro w rfl
    exact hw₀.2

theorem moves_completeSwitch : MovesBy cfg env d .completeSwitch := by
  refine Triple.forget ?_
  unfold completeSwitch
  refine Triple.bind (triple_switchStatus (fun _ _ hw => hw.still) fun _ hw => hw.still)
    fun st => Triple.assume_eq ?_
  rintro ⟨a, hshows⟩
  split
  · exact .raise fun _ hw => hw.still
  · next hstage =>
    have hwaiting : st.stage = .waitingManualSwap := not_not.mp hstage
    refine Triple.bind (triple_ofExcept fun _ _ hw => hw.still) fun target =>
      Triple.assume_eq fun htarget => ?_
    refine Triple.bind (triple_load (fun _ _ hw => hw.still) fun _ hw => hw.still)
      fun current => Triple.assume_eq fun hcurrent => ?_
    cases hshows.loaded.symm.trans hcurrent
    have hcanonical : ∀ t ∈ some target, ∃ value, canonicalPair cfg value = .ok t := by
      intro t ht
      rw [← Option.some.inj ht]
      exact ⟨_, htarget⟩
    refine Triple.bind (triple_switchState hshows.loaded hcanonical (fun _ _ hw => hw.still)
      fun _ hw => hw.still) fun v => Triple.assume fun w₀ hw₀ => ?_
    have hrechecked : ∀ {l : List Event} {v' : SwitchState} {stage : Stage},
        lastPublication l = none → stage = .reconciling ∨ stage = .blocked →
        v'.Records stage a (some target) → ∀ w : World σ, At (d.replace (.switch v')) l w →
        Moved cfg d .completeSwitch w.log w.disk :=
      fun hl hs hv w hw => hw.moved (.rechecked hshows hwaiting htarget hs hv hl)
    have hhere := hrechecked (l := [.wrote (.switch v)]) rfl (.inl rfl) hw₀.1
    refine Triple.weaken (R := At (d.replace (.switch v)) [.wrote (.switch v)]) ?_
      (by rintro w rfl; exact hw₀.2)
    refine Triple.bind (triple_ofExcept fun _ => hhere) fun symbol =>
      Triple.assume_eq fun hsymbol => ?_
    -- what the second check has logged when it ends, and when it fails
    refine Triple.bind (Q := fun r w => match r with
      | .ok checked => checked.1.ok = true ∧ At (d.replace (.switch v))
        [.validated target, .flat [a.symbol, symbol] checked.1, .wrote (.switch v)] w
      | .error _ => ∃ l, lastPublication l = none ∧ At (d.replace (.switch v)) l w) ?_ fun r => ?_
    · refine Triple.attempt ?_
      unfold recheckTarget
      refine Triple.bind (triple_verifyFlat (fun _ w hw => ⟨_, rfl, hw⟩) hhere)
        fun verification => ?_
      split
      · next hok =>
        refine Triple.bind (triple_validateTarget (fun _ w hw => ⟨_, rfl, hw⟩)
          (hrechecked rfl (.inl rfl) hw₀.1)) fun validation => .pure fun w hw => ⟨hok, hw⟩
      · exact .raise fun w hw => ⟨_, rfl, hw⟩
    · cases r with
      | error e =>
        dsimp only
        refine Triple.exists_pre fun l => Triple.assume fun w₁ hw₁ => ?_
        have hthere := hrechecked hw₁.1 (.inl rfl) hw₀.1
        refine Triple.weaken (R := At (d.replace (.switch v)) l) ?_ (by rintro w rfl; exact hw₁.2)
        refine Triple.bind (triple_switchState hshows.loaded hcanonical (fun _ => hthere) hthere)
          fun v' => .raise fun w hw => ?_
        have hblocked : lastPublication (.wrote (.switch v') :: l) = none := hw₁.1
        exact hrechecked hblocked (.inr rfl) hw.1 w hw.2
      | ok checked =>
        obtain ⟨verification, validation⟩ := checked
        refine Triple.assume fun w₁ hw₁ => Triple.weaken (R := At (d.replace (.switch v))
          [.validated target, .flat [a.symbol, symbol] verification, .wrote (.switch v)]) ?_
          (by rintro w rfl; exact hw₁.2)
        exact moves_applyTarget hshows hwaiting htarget hsymbol hw₁.1 (by simp) (by simp) hw₀.1 rfl

/-- What a call of the pair controller can do. -/
theorem moves_op (op : Op) : MovesBy cfg env d op := by
  cases op with
  | bootstrap initial => exact moves_bootstrap initial
  | beginSwitch requested hash => exact moves_beginSwitch requested hash
  | completeSwitch => exact moves_completeSwitch
  | markPairVerified proof => exact moves_markPairVerified proof
  | requireResumeReady => exact moves_requireResumeReady
  | markActiveAfterResume => exact moves_markActiveAfterResume

variable (cfg) (env) in
theorem moved_step (w : World σ) (s : Step) :
    Moved cfg w.disk s.op (step cfg env w s).log (step cfg env w s).disk := by
  have hrun := wp_run ((moves_op s.op : MovesBy cfg env w.disk s.op) w.called ⟨rfl, rfl⟩) s.budget
  revert hrun
  unfold step
  rcases (s.op.program cfg).run (PairAct.exec env) s.budget w.called with ⟨_ | _ | _, w'⟩ <;>
    exact id

end SpotSidecar.PairControl
