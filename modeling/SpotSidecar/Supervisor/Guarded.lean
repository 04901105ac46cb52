import SpotSidecar.Interaction.Embed
import SpotSidecar.Supervisor.Oversight

/-! The adapter is off as long as its log is bad, and no entry is sent after a bad log. What makes
a log bad, the pauses of the stream or an invalid lease, is a parameter here. -/
namespace SpotSidecar.Supervisor
open Interaction Prog
variable {σ α γ : Type} {cfg : Config} {env : Env σ}

def Event.entry? : Event → Option IntentId
  | .entrySubmitted id => some id
  | _ => none

/-- The events that may make a log bad: the loss of the lease where the adapter needs a restart
after it (`strict`), and a pause by the stream otherwise. -/
def Event.alarms (strict : Prop) : Event → Prop
  | .paused _ => ¬strict
  | .leaseInvalid => strict
  | _ => False

/-- A log is bad from an alarm on. -/
structure Alarm (strict : Prop) (bad : List Event → Prop) : Prop where
  nil : ¬bad []
  cons : ∀ {e log}, bad (e :: log) → e.alarms strict ∨ bad log

theorem Alarm.append {strict : Prop} {bad : List Event → Prop} (h : Alarm strict bad)
    {es log : List Event} (hes : ∀ e ∈ es, ¬e.alarms strict) (hbad : bad (es ++ log)) :
      bad log := by
  induction es with
  | nil => exact hbad
  | cons e es ih =>
    rcases h.cons hbad with halarm | hbad
    · exact absurd halarm (hes e List.mem_cons_self)
    · exact ih (fun x hx => hes x (List.mem_cons_of_mem _ hx)) hbad

theorem Event.plain.calm {e : Event} (h : e.plain) (strict : Prop) :
    e.entry? = none ∧ ¬e.alarms strict := by
  cases e <;> first | exact h.elim | exact ⟨rfl, not_false⟩

/-- The entries that the log remembers are the marks of entries in the ledger's history, and none
of them came after a bad log. -/
structure Closed (bad : List Event → Prop) (w : World σ) : Prop where
  parented : w.store.Parented
  tied : w.log.filterMap Event.entry? = entryMarks w.adapter.history
  safe : ∀ later id earlier, w.log = later ++ .entrySubmitted id :: earlier → ¬bad earlier

/-- The adapter is disabled, and a restart is demanded if it must be. -/
structure Off (strict : Prop) (w : World σ) : Prop where
  disabled : w.memory.enabled = false
  restart : strict → w.store.data.liveRestartRequired = true

structure Guarded (strict : Prop) (bad : List Event → Prop) (w : World σ) : Prop
    extends Closed bad w where
  off : bad w.log → Off strict w

/-- Entries after a log that is not bad. -/
theorem safe_append {bad : List Event → Prop} {log es : List Event}
    (hsafe : ∀ later id earlier, log = later ++ .entrySubmitted id :: earlier → ¬bad earlier)
    (hes : ∀ later id earlier, es = later ++ .entrySubmitted id :: earlier → ¬bad (earlier ++ log))
    {later earlier : List Event} {id : IntentId}
    (h : es ++ log = later ++ .entrySubmitted id :: earlier) : ¬bad earlier := by
  rcases List.append_eq_append_iff.mp h with ⟨mid, rfl, hlog⟩ | ⟨mid, hes', hlog⟩
  · exact hsafe mid id earlier hlog
  · cases mid with
    | nil => exact hsafe [] id earlier hlog.symm
    | cons e mid =>
      obtain ⟨rfl, rfl⟩ := List.cons.inj hlog
      exact hes later id mid hes'

theorem safe_quiet {bad : List Event → Prop} {log es : List Event}
    (hsafe : ∀ later id earlier, log = later ++ .entrySubmitted id :: earlier → ¬bad earlier)
    (hes : ∀ e ∈ es, e.entry? = none) {later earlier : List Event} {id : IntentId}
    (h : es ++ log = later ++ .entrySubmitted id :: earlier) : ¬bad earlier := by
  refine safe_append hsafe (fun later id earlier heq => ?_) h
  have hnone := hes (.entrySubmitted id) (by rw [heq]; simp)
  cases hnone

section
variable {strict : Prop} {bad : List Event → Prop} {w w' : World σ}

/-- A step that adds no entry to the log and to the marks. -/
theorem Closed.grow (h : Closed bad w) (es : List Event) (hlog : w'.log = es ++ w.log)
    (hes : ∀ e ∈ es, e.entry? = none) (hparented : w'.store.Parented)
    (hmarks : entryMarks w'.adapter.history = entryMarks w.adapter.history) : Closed bad w' where
  parented := hparented
  tied := by
    have hnone : es.filterMap Event.entry? = [] := List.filterMap_eq_nil_iff.mpr hes
    rw [hlog, List.filterMap_append, hnone, hmarks]
    exact h.tied
  safe later id earlier heq := safe_quiet h.safe hes (hlog ▸ heq)

/-- A step that moreover adds no alarm and leaves the flags off where they are. -/
theorem Guarded.grow (hA : Alarm strict bad) (h : Guarded strict bad w) (es : List Event)
    (hlog : w'.log = es ++ w.log) (hes : ∀ e ∈ es, e.entry? = none ∧ ¬e.alarms strict)
    (hparented : w'.store.Parented)
    (hmarks : entryMarks w'.adapter.history = entryMarks w.adapter.history)
    (hoff : Off strict w → Off strict w') : Guarded strict bad w' where
  toClosed := h.toClosed.grow es hlog (fun e he => (hes e he).1) hparented hmarks
  off hbad := hoff (h.off (hA.append (fun e he => (hes e he).2) (hlog ▸ hbad)))

/-- Where the adapter is off anyway, an alarm changes nothing. -/
theorem Closed.guarded (h : Closed bad w) (hoff : Off strict w) : Guarded strict bad w where
  toClosed := h
  off _ := hoff

theorem Off.congr (h : Off strict w) (hm : w.memory.enabled = false → w'.memory.enabled = false)
    (hd : w'.store.data.liveRestartRequired = w.store.data.liveRestartRequired) :
    Off strict w' where
  disabled := hm h.disabled
  restart hs := hd.trans (h.restart hs)

theorem Guarded.steady (hA : Alarm strict bad) (hs : Steady w w') (h : Guarded strict bad w) :
    Guarded strict bad w' := by
  obtain ⟨e, es, hadapter, hlog, hplain⟩ := hs
  refine h.grow hA _ hlog (fun x hx => (hplain x hx).calm strict) ?_ ?_ fun hoff => ?_
  · have := h.parented
    rwa [World.store, hadapter]
  · rw [hadapter]
  · refine hoff.congr (fun hm => ?_) ?_
    · rw [World.memory, hadapter]
      exact hm
    · rw [World.store, hadapter]
      rfl

theorem Closed.steady (hs : Steady w w') (h : Closed bad w) : Closed bad w' := by
  obtain ⟨e, es, hadapter, hlog, hplain⟩ := hs
  refine h.grow _ hlog (fun x hx => ((hplain x hx).calm True).1) ?_ ?_
  · have := h.parented
    rwa [World.store, hadapter]
  · rw [hadapter]

end

/-! ### Programs of the adapter -/

/-- The adapter of the supervisor runs as the adapter alone. -/
theorem contains_adapter (env : Env σ) : Contains (Work.exec env) (Act.exec env.toEnv)
    (fun _ => Work.adapter) World.adapter :=
  fun _ _ _ => ⟨rfl, rfl⟩

theorem seen_mark (id : IntentId) (s : Store) : seen (.markIntentSubmitting id) s =
    if (s.intent id).any fun i => i.operation = .entry ∧ i.state = .prepared
      then [.entrySubmitted id] else [] := by
  simp only [seen]
  cases s.intent id with
  | none => rfl
  | some i => simp

/-- The log remembers of an act the entries that it marks. -/
theorem seen_marks (env : SpotSidecar.Env σ) (a : Act γ) (w : SpotSidecar.World σ) :
    (∃ ids : List IntentId, seen a w.store = ids.map .entrySubmitted) ∧
      (seen a w.store).filterMap Event.entry? ++ entryMarks w.history =
        entryMarks (a.exec env γ w).2.history := by
  cases a with
  | markIntentSubmitting id =>
    rw [exec_mark_entryMarks, seen_mark]
    split
    · exact ⟨⟨[id], rfl⟩, rfl⟩
    · exact ⟨⟨[], rfl⟩, rfl⟩
  | fold f => exact ⟨⟨[], rfl⟩, (Act.exec_entryMarks env (a := .fold f) trivial w).symm⟩
  | prepareIntent d =>
    exact ⟨⟨[], rfl⟩, (Act.exec_entryMarks env (a := .prepareIntent d) trivial w).symm⟩
  | finishIntent id state orderId listId error =>
    exact ⟨⟨[], rfl⟩, (Act.exec_entryMarks env
      (a := .finishIntent id state orderId listId error) trivial w).symm⟩
  | upsertTrade id pair f =>
    exact ⟨⟨[], rfl⟩, (Act.exec_entryMarks env (a := .upsertTrade id pair f) trivial w).symm⟩
  | post p => exact ⟨⟨[], rfl⟩, (Act.exec_entryMarks env (a := .post p) trivial w).symm⟩

/-- What a program of the adapter may do to a log: it adds the entries that it sent. -/
structure Sent (log : List Event) (w : World σ) : Prop where
  tied : w.log.filterMap Event.entry? = entryMarks w.adapter.history
  grown : ∃ ids : List IntentId, w.log = ids.map .entrySubmitted ++ log

variable (env) in
theorem own_sent (log : List Event) (m : Acting α) :
    Keeps (Work.exec env) (Sent log) (own m) := by
  refine keeps_lift (fun a w hw => ?_) m
  obtain ⟨⟨ids, hids⟩, hmarks⟩ := seen_marks env.toEnv a w.adapter
  obtain ⟨ids', hlog⟩ := hw.grown
  refine ⟨?_, ids ++ ids', ?_⟩
  · simp only [Work.exec, World.perform, World.noteAll, List.filterMap_append]
    rw [hw.tied]
    exact hmarks
  · simp only [Work.exec, World.perform, World.noteAll, World.store, hids, hlog, List.map_append,
      List.append_assoc]

section
variable {strict : Prop} {bad : List Event → Prop}

theorem not_alarms_entries (ids : List IntentId) {e : Event}
    (he : e ∈ ids.map Event.entrySubmitted) : ¬e.alarms strict := by
  obtain ⟨id, -, rfl⟩ := List.mem_map.mp he
  exact not_false

/-- After a log that is not bad, any entries may be sent. -/
theorem Guarded.sent (hA : Alarm strict bad) {w w' : World σ} (h : Guarded strict bad w)
    (hbad : ¬bad w.log) (hsent : Sent w.log w') (hparented : w'.store.Parented) :
    Guarded strict bad w' := by
  obtain ⟨ids, hlog⟩ := hsent.grown
  refine ⟨⟨hparented, hsent.tied, fun later id earlier heq => ?_⟩, fun hbad' => ?_⟩
  · refine safe_append h.safe (fun later id earlier heq hbad' => ?_) (hlog ▸ heq)
    refine hbad (hA.append (fun e he => ?_) hbad')
    exact not_alarms_entries ids (by rw [heq]; simp [he])
  · exact absurd (hA.append (fun e he => not_alarms_entries ids he) (hlog ▸ hbad')) hbad

/-- No entry was sent if the marks are the same. -/
theorem Sent.log_eq {w w' : World σ} (hsent : Sent w.log w') (htied : w.log.filterMap Event.entry? =
    entryMarks w.adapter.history)
    (hmarks : entryMarks w'.adapter.history = entryMarks w.adapter.history) : w'.log = w.log := by
  obtain ⟨ids, hlog⟩ := hsent.grown
  have hids : (ids.map Event.entrySubmitted).filterMap Event.entry? = ids := by
    rw [List.filterMap_map]
    exact List.filterMap_some
  have hlen : ids ++ w.log.filterMap Event.entry? = w.log.filterMap Event.entry? := by
    rw [← hids, ← List.filterMap_append, ← hlog, hsent.tied, hmarks, htied]
  rw [hlog, List.append_left_eq_self.mp hlen]
  rfl

/-- A program that sends no entry while the adapter is disabled keeps the guard. -/
theorem guarded_own (hA : Alarm strict bad) {m : Acting α} (hm : Obedient env.toEnv m) :
    Keeps (Work.exec env) (Guarded strict bad) (own m) := by
  refine Triple.assume fun w hw => ?_
  have hsent := own_sent env w.log m
  have hparented := hm.parented.embed (contains_adapter env)
  by_cases hbad : bad w.log
  · have hshut := (hm.shut w.store.data.liveRestartRequired (entryMarks w.adapter.history)).embed
      (contains_adapter env)
    refine ((hsent.both hshut).weaken ?_).conseq (fun _ hv => hv) ?_ ?_ ?_
    · rintro v rfl
      exact ⟨⟨hw.tied, [], rfl⟩, (hw.off hbad).disabled, rfl, rfl, hw.parented⟩
    all_goals
      intros
      rename_i v hv
      obtain ⟨hgrown, hshut⟩ := hv
      have hlog := hgrown.log_eq hw.tied hshut.sent
      refine hw.grow hA [] hlog (fun e he => absurd he List.not_mem_nil) hshut.parented
        hshut.sent fun hoff => ⟨hshut.disabled, fun hs => ?_⟩
      exact hshut.restart.trans (hoff.restart hs)
  · refine ((hsent.both hparented).weaken ?_).conseq (fun _ hv => hv) ?_ ?_ ?_
    · rintro v rfl
      exact ⟨⟨hw.tied, [], rfl⟩, hw.parented⟩
    all_goals
      intros
      rename_i v hv
      exact hw.sent hA hbad hv.1 hv.2

/-- A program of the adapter makes no log bad. -/
theorem own_calm (hA : Alarm strict bad) (m : Acting α) :
    Keeps (Work.exec env) (fun w => ¬bad w.log) (own m) := by
  refine keeps_lift (fun a w hw hbad => ?_) m
  obtain ⟨⟨ids, hids⟩, -⟩ := seen_marks env.toEnv a w.adapter
  have hlog : bad (ids.map .entrySubmitted ++ w.log) := hids ▸ hbad
  exact hw (hA.append (fun e he => not_alarms_entries ids he) hlog)

end

/-! ### Callbacks of the stream -/

/-- An act of a callback in the world of the supervisor. -/
def Fold.heardExec (env : Env σ) (p : Point) (γ : Type) (f : Fold γ) (w : World σ) :
    Except Exc γ × World σ :=
  Work.exec env γ (.callback p f) w

def Ask.heardExec (env : Env σ) (p : Point) (γ : Type) (a : Ask γ) (w : World σ) :
    Except Exc γ × World σ :=
  Work.exec env γ (.callback p (.ask a)) w

/-- What an invariant needs in order to be kept by the callbacks at a point. -/
structure Hearing (env : Env σ) (p : Point) (I : World σ → Prop) : Prop where
  calm : ∀ {γ} (f : Fold γ) w, (Act.fold f).calm → heard p f = [] → I w →
    I (Work.exec env γ (.callback p f) w).2
  memory : ∀ (f : Memory → Memory), (∀ m, (f m).enabled = m.enabled) →
    Keeps (Ask.heardExec env p) I (setMemory f)
  data : ∀ (f : SidecarData → SidecarData),
    (∀ d, (f d).liveRestartRequired = d.liveRestartRequired ∧
      (f d).entriesEnabled = d.entriesEnabled) →
    Keeps (Ask.heardExec env p) I (SpotSidecar.setData f)
  pause : ∀ reason, Keeps (Ask.heardExec env p) I (pause reason)

namespace Hearing
variable {I : World σ → Prop} {p : Point} (h : Hearing env p I)
include h

omit h in
theorem asks {m : Asking α} (hm : Keeps (Ask.heardExec env p) I m) :
    Keeps (Fold.heardExec env p) I (liftM m : Folding α) :=
  Triple.lift (fun _ _ => rfl) hm

theorem ask (a : Ask γ) (ha : (Act.fold (.ask a)).calm) (hp : heard p (.ask a) = []) :
    Keeps (Ask.heardExec env p) I (.perform a : Asking γ) :=
  .perform fun w hw => h.calm (.ask a) w ha hp hw

theorem fold (f : Fold γ) (hf : (Act.fold f).calm) (hp : heard p f = []) :
    Keeps (Fold.heardExec env p) I (.perform f : Folding γ) :=
  .perform fun w hw => h.calm f w hf hp hw

theorem eventInScope (e : SpotSidecar.Event) :
    Keeps (Ask.heardExec env p) I (eventInScope e) := by
  unfold SpotSidecar.eventInScope
  split
  · exact .raise
  · refine .bind (h.ask _ trivial rfl) fun s => ?_
    split
    · exact .bind .ensure fun _ => .pure
    · exact .bind (h.ask _ trivial rfl) fun info => .bind .ensure fun _ => .bind .ensure fun _ =>
        .pure

theorem recordAuthenticatedEvent (e : SpotSidecar.Event) :
    Keeps (Fold.heardExec env p) I (recordAuthenticatedEvent e) := by
  unfold SpotSidecar.recordAuthenticatedEvent
  refine .bind (asks (h.eventInScope e)) fun inScope => ?_
  split
  · refine .bind (h.fold _ trivial rfl) fun isNew => ?_
    split
    · exact .bind (asks (h.ask _ trivial rfl)) fun _ => .pure
    · exact .pure
  · exact .pure

theorem onOrderUpdate (e : SpotSidecar.Event) :
    Keeps (Fold.heardExec env p) I (onOrderUpdate e) := by
  unfold SpotSidecar.onOrderUpdate
  refine .bind (.attempt ?_) fun result => ?_
  · refine .bind (asks (h.eventInScope e)) fun inScope => ?_
    split
    · refine .bind (h.recordAuthenticatedEvent e) fun _ => .bind .ofExcept fun needed => ?_
      split
      · exact .bind (asks (h.memory _ fun _ => rfl)) fun _ => asks (h.pause _)
      · exact .pure
    · exact .pure
  · split
    · exact .pure
    · exact asks (h.pause _)

theorem onListUpdate (e : SpotSidecar.Event) :
    Keeps (Fold.heardExec env p) I (onListUpdate e) := by
  unfold SpotSidecar.onListUpdate
  refine .bind (.attempt ?_) fun result => ?_
  · refine .bind (asks (h.eventInScope e)) fun inScope => ?_
    split
    · exact .bind (h.fold _ trivial rfl) fun _ => .pure
    · exact .pure
  · split
    · exact .pure
    · exact asks (h.pause _)

theorem onResync : Keeps (Ask.heardExec env p) I onResync :=
  .bind (h.ask _ trivial rfl) fun _ => .bind (h.data _ fun _ => ⟨rfl, rfl⟩) fun _ => h.pause _

theorem onAccountUpdate : Keeps (Ask.heardExec env p) I onAccountUpdate := by
  unfold SpotSidecar.onAccountUpdate
  refine .bind (h.ask _ trivial rfl) fun m => ?_
  split
  · exact .bind (h.ask _ trivial rfl) fun now => h.memory _ fun _ => rfl
  · exact .pure

theorem callback (e : StreamEvent) : Keeps (Fold.heardExec env p) I e.callback := by
  cases e with
  | orderUpdate e => exact h.onOrderUpdate e
  | listUpdate e => exact h.onListUpdate e
  | accountUpdate => exact asks h.onAccountUpdate
  | resync => exact asks h.onResync

end Hearing

theorem heard_entries {p : Point} (f : Fold γ) {e : Event} (he : e ∈ heard p f) :
    e = .paused p := by
  unfold heard at he
  split at he
  · exact List.mem_singleton.mp he
  · cases he

/-- The log only grows, and no process starts in it. -/
theorem Work.exec_log (env : Env σ) (a : Work γ) (w : World σ) :
    ∃ es, (a.exec env γ w).2.log = es ++ w.log ∧ .started ∉ es := by
  have hplain (ha : a.plain) : ∃ es, (a.exec env γ w).2.log = es ++ w.log ∧ .started ∉ es := by
    obtain ⟨e, es, -, hlog, hes⟩ := Work.plain_steady env ha w
    exact ⟨es, hlog, fun h => hes _ h⟩
  cases a with
  | adapter a =>
    obtain ⟨⟨ids, hids⟩, -⟩ := seen_marks env.toEnv a w.adapter
    exact ⟨_, rfl, fun h => by simp [World.store, hids] at h⟩
  | callback p f => exact ⟨_, rfl, fun h => nomatch heard_entries f h⟩
  | arrivals p => exact ⟨[], rfl, List.not_mem_nil⟩
  | leaseInvalid => exact ⟨[.leaseInvalid], rfl, by simp⟩
  | tables => exact hplain trivial
  | data => exact hplain trivial
  | setData d => exact hplain trivial
  | save => exact hplain trivial
  | tradeSize => exact hplain trivial
  | setTradeSize q => exact hplain trivial
  | ask q => exact hplain trivial
  | reconcileBegan => exact hplain trivial
  | reconciled ok => exact hplain trivial

/-- A gap of the main thread keeps whatever the callbacks keep, and raises nothing. -/
theorem triple_gap {I : World σ → Prop} {p : Point}
    (harrive : ∀ w, I w → I (Work.exec env _ (.arrivals p) w).2)
    (hcall : ∀ e : StreamEvent, Keeps (Fold.heardExec env p) I e.callback) :
    Triple (Work.exec env) I (gap p) (fun _ => I) (fun _ _ => False) I := by
  refine Triple.bind (Q := fun _ => I) (.perform (fun w hw => hw) (fun w a w' hw heq => ?_)
    fun w e w' hw heq => ?_) fun arrived => ?_
  · have hnext := harrive w hw
    rwa [heq] at hnext
  · cases heq
  · refine Triple.bind (.each arrived fun e _ => .attempt ?_) fun _ => .pure fun _ hw => hw
    exact Triple.lift (fun _ _ => rfl) (hcall e)

theorem keeps_gap {I : World σ → Prop} {p : Point}
    (harrive : ∀ w, I w → I (Work.exec env _ (.arrivals p) w).2)
    (hcall : ∀ e : StreamEvent, Keeps (Fold.heardExec env p) I e.callback) :
    Keeps (Work.exec env) I (gap p) :=
  (triple_gap harrive hcall).conseq (fun _ hw => hw) (fun _ _ hw => hw) (fun _ _ => False.elim)
    fun _ hw => hw

section
variable {strict : Prop} {bad : List Event → Prop} {p : Point}

variable (env) in
theorem exec_callback (f : Fold γ) (w : World σ) :
    (Work.exec env γ (.callback p f) w).2.log = heard p f ++ w.log ∧
      (Work.exec env γ (.callback p f) w).2.adapter =
      (Act.exec env.toEnv γ (.fold f) w.adapter).2 :=
  ⟨rfl, rfl⟩

variable (env) in
/-- No callback sends an entry. -/
theorem closed_callback (f : Fold γ) {w : World σ} (hw : Closed bad w) :
    Closed bad (Work.exec env γ (.callback p f) w).2 := by
  refine hw.grow _ rfl (fun e he => ?_) ?_ ?_
  · rw [heard_entries f he]
    rfl
  · exact Act.parenting_exec env.toEnv (a := .fold f) trivial w.adapter hw.parented
  · exact Act.exec_entryMarks env.toEnv (a := .fold f) trivial w.adapter

/-- What the flags were, they are after an act that writes no flag. -/
theorem off_callback {f : Fold γ} (hf : (Act.fold f).calm) {w : World σ} (hw : Off strict w) :
    Off strict (Work.exec env γ (.callback p f) w).2 := by
  obtain ⟨hmemory, hdata⟩ := Act.calm_flags env.toEnv hf w.adapter
  refine hw.congr (fun hm => ?_) ?_
  · exact (congrArg Memory.enabled hmemory).trans hm
  · exact congrArg SidecarData.liveRestartRequired hdata

theorem guarded_callback (hA : Alarm strict bad) {f : Fold γ} (hf : (Act.fold f).calm)
    (hp : heard p f = []) {w : World σ} (hw : Guarded strict bad w) :
    Guarded strict bad (Work.exec env γ (.callback p f) w).2 := by
  have hclosed := closed_callback env (p := p) f hw.toClosed
  refine hw.grow hA [] ?_ (fun e he => absurd he List.not_mem_nil) hclosed.parented ?_
    (off_callback hf)
  · exact congrArg (· ++ w.log) hp
  · exact Act.exec_entryMarks env.toEnv (a := .fold f) trivial w.adapter

theorem guarded_pause (hA : Alarm strict bad) (reason : String) :
    Keeps (Ask.heardExec env p) (Guarded strict bad) (pause reason) := by
  refine Triple.bind (Q := fun _ w => Guarded strict bad w ∧ w.memory.enabled = false)
    (fun w hw => ⟨hw, hw, ?_, rfl⟩) fun _ => ?_
  · exact hw.grow hA [] rfl (fun e he => absurd he List.not_mem_nil) hw.parented rfl
      fun hoff => ⟨rfl, hoff.restart⟩
  refine Triple.bind (Q := fun _ w => Guarded strict bad w ∧ w.memory.enabled = false)
    (fun w hw => ⟨hw.1, hw.1, ?_, hw.2⟩) fun _ => ?_
  · exact hw.1.grow hA [] rfl (fun e he => absurd he List.not_mem_nil) hw.1.parented rfl
      fun hoff => ⟨hoff.disabled, hoff.restart⟩
  refine Triple.bind (Q := fun _ => Guarded strict bad) (.attempt ?_) fun _ => Keeps.pure
  refine .perform_same (fun w hw => hw.1) ?_
  rintro w ⟨hw, hdisabled⟩
  have hclosed := closed_callback env (p := p) (.ask (.call (.setGlobalPause reason)))
    hw.toClosed
  refine ⟨hclosed, fun hbad => ⟨hdisabled, fun hs => ?_⟩⟩
  rcases hA.cons hbad with halarm | hbad
  · exact absurd hs halarm
  · exact (hw.off hbad).restart hs

/-- No callback lets the guard down. -/
theorem guarded_hearing (hA : Alarm strict bad) : Hearing env p (Guarded strict bad) where
  calm f w hf hp hw := guarded_callback hA hf hp hw
  memory f hf w hw := by
    refine ⟨hw, hw, ?_⟩
    exact hw.grow hA [] rfl (fun e he => absurd he List.not_mem_nil) hw.parented rfl
      fun hoff => ⟨(hf _).trans hoff.disabled, hoff.restart⟩
  data f hf w hw := by
    refine ⟨hw, hw, ?_⟩
    exact hw.grow hA [] rfl (fun e he => absurd he List.not_mem_nil) hw.parented rfl
      fun hoff => ⟨hoff.disabled, fun hs => (hf _).1.trans (hoff.restart hs)⟩
  pause reason := guarded_pause hA reason

theorem guarded_gap (hA : Alarm strict bad) (p : Point) :
    Keeps (Work.exec env) (Guarded strict bad) (gap p) :=
  keeps_gap (fun _ hw => hw.steady hA (.answered rfl rfl)) fun e =>
    (guarded_hearing hA).callback e

/-! ### Where no alarm is pending -/

/-- The guard, with a log that is not bad. -/
structure AtPeace (strict : Prop) (bad : List Event → Prop) (w : World σ) : Prop
    extends Guarded strict bad w where
  peace : ¬bad w.log

theorem AtPeace.steady {w w' : World σ} (hA : Alarm strict bad) (hs : Steady w w')
    (h : AtPeace strict bad w) : AtPeace strict bad w' := by
  refine ⟨h.toGuarded.steady hA hs, fun hbad => ?_⟩
  obtain ⟨e, es, -, hlog, hplain⟩ := hs
  exact h.peace (hA.append (fun x hx => ((hplain x hx).calm strict).2) (hlog ▸ hbad))

theorem atPeace_own (hA : Alarm strict bad) {m : Acting α} (hm : Obedient env.toEnv m) :
    Keeps (Work.exec env) (AtPeace strict bad) (own m) :=
  ((guarded_own hA hm).both (own_calm hA m)).conseq (fun _ hw => ⟨hw.toGuarded, hw.peace⟩)
    (fun _ _ hw => ⟨hw.1, hw.2⟩) (fun _ _ hw => ⟨hw.1, hw.2⟩) fun _ hw => ⟨hw.1, hw.2⟩

/-- Where no alarm is pending, any flags will do. -/
theorem AtPeace.set {w w' : World σ} (h : AtPeace strict bad w) (hlog : w'.log = w.log)
    (hparented : w'.store.Parented) (hhistory : w'.adapter.history = w.adapter.history) :
    AtPeace strict bad w' := by
  have hclosed : Closed bad w' := h.toClosed.grow [] hlog
    (fun e he => absurd he List.not_mem_nil) hparented (congrArg entryMarks hhistory)
  exact ⟨⟨hclosed, fun hbad => absurd (hlog ▸ hbad) h.peace⟩, hlog ▸ h.peace⟩

theorem atPeace_setMemory (f : Memory → Memory) :
    Keeps (Work.exec env) (AtPeace strict bad) (own (liftM (setMemory f))) :=
  fun _ hw => ⟨hw, hw, hw.set rfl hw.parented rfl⟩

theorem atPeace_setData (f : SidecarData → SidecarData) :
    Keeps (Work.exec env) (AtPeace strict bad) (own (liftM (SpotSidecar.setData f))) :=
  fun _ hw => ⟨hw, hw, hw.set rfl hw.parented rfl⟩

end

end SpotSidecar.Supervisor
