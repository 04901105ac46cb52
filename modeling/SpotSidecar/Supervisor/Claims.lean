import SpotSidecar.Supervisor.Guarded
import SpotSidecar.Supervisor.Scripted

/-! Every signal is submitted at most once and every command executed at most once, and what a
process left in progress is never begun again. -/
namespace SpotSidecar.Supervisor
open Interaction Prog
variable {σ α β γ : Type} {cfg : Config} {env : Env σ}

/-- The events about claims. -/
def Event.booked : Event → Prop
  | .submitting _ | .executing _ | .replaying _ => True
  | _ => False

/-- The tables of claims are as they were, and so is what the log says about claims. -/
def Unbooked (w w' : World σ) : Prop :=
  w'.tables = w.tables ∧ ∃ es, w'.log = es ++ w.log ∧ ∀ e ∈ es, ¬e.booked

theorem Unbooked.count {w w' : World σ} (h : Unbooked w w') {e : Event} (he : e.booked) :
    w'.log.count e = w.log.count e := by
  obtain ⟨-, es, hlog, hes⟩ := h
  rw [hlog, List.count_append, List.count_eq_zero.mpr fun hmem => hes e hmem he, Nat.zero_add]

theorem Unbooked.quiet {w w' : World σ} (ht : w'.tables = w.tables) (hlog : w'.log = w.log) :
    Unbooked w w' :=
  ⟨ht, [], hlog, fun _ he => absurd he List.not_mem_nil⟩

theorem Unbooked.noted {w w' : World σ} {e : Event} (ht : w'.tables = w.tables)
    (hlog : w'.log = e :: w.log) (he : ¬e.booked) : Unbooked w w' :=
  ⟨ht, [e], hlog, fun _ hx => (List.mem_singleton.mp hx) ▸ he⟩

variable (env) in
/-- A write happened with its effect, or not at all. -/
theorem World.write_cases (w : World σ) (a : γ) (f : World σ → World σ) : ∃ v : World σ,
    v.tables = w.tables ∧ v.log = w.log ∧
      (w.write env a f = (.ok a, f v) ∨ ∃ x, w.write env a f = (.error x, v)) := by
  refine ⟨{ w with adapter := { w.adapter with env := (env.io w.adapter.env).2 } }, rfl, rfl, ?_⟩
  unfold World.write
  dsimp only
  split
  · exact .inl rfl
  · exact .inr ⟨_, rfl⟩

/-- What a write that has succeeded has done. -/
theorem World.write_ok {w w' : World σ} {a b : γ} {f : World σ → World σ}
    (h : w.write env a f = (.ok b, w')) :
    b = a ∧ ∃ v : World σ, v.tables = w.tables ∧ w' = f v := by
  obtain ⟨v, ht, -, hv | ⟨x, hv⟩⟩ := World.write_cases env w a f
  · rw [hv] at h
    cases h
    exact ⟨rfl, v, ht, rfl⟩
  · rw [hv] at h
    cases h

/-- A write happens or leaves the tables as they are. -/
theorem World.of_write {P : World σ → Prop} {w : World σ} (a : γ) {f : World σ → World σ}
    (hleft : ∀ v : World σ, v.tables = w.tables → P v)
    (hdone : ∀ v : World σ, v.tables = w.tables → P (f v)) : P (w.write env a f).2 := by
  obtain ⟨v, ht, -, hv | ⟨x, hv⟩⟩ := World.write_cases env w a f
  · rw [hv]
    exact hdone v ht
  · rw [hv]
    exact hleft v ht

variable (env) in
theorem Work.exec_unbooked (a : Work γ) (w : World σ) : Unbooked w (a.exec env γ w).2 := by
  cases a with
  | adapter a =>
    obtain ⟨⟨ids, hids⟩, -⟩ := seen_marks env.toEnv a w.adapter
    refine ⟨rfl, seen a w.store, rfl, fun e he => ?_⟩
    rw [World.store, hids] at he
    obtain ⟨id, -, rfl⟩ := List.mem_map.mp he
    exact not_false
  | callback p f =>
    refine ⟨rfl, heard p f, rfl, fun e he => ?_⟩
    rw [heard_entries f he]
    exact not_false
  | save =>
    obtain ⟨v, ht, hlog, h | ⟨x, h⟩⟩ := World.write_cases env w () id
    · simp only [Work.exec, h]
      exact .quiet ht hlog
    · simp only [Work.exec, h]
      exact .quiet ht hlog
  | arrivals p => exact .quiet rfl rfl
  | tables => exact .quiet rfl rfl
  | data => exact .quiet rfl rfl
  | setData d => exact .quiet rfl rfl
  | tradeSize => exact .quiet rfl rfl
  | setTradeSize q => exact .quiet rfl rfl
  | ask q => exact .quiet rfl rfl
  | reconcileBegan => exact .noted rfl rfl not_false
  | reconciled ok => exact .noted rfl rfl not_false
  | leaseInvalid => exact .noted rfl rfl not_false

/-- What is about claims only, every program that leaves the claims alone keeps. -/
theorem keeps_working {I : World σ → Prop} (hI : ∀ {w w'}, Unbooked w w' → I w → I w')
    (m : Working α) : Keeps (Deed.exec env) I (liftM m : Doing α) :=
  Triple.lift (fun _ _ => rfl)
    (keeps_of_exec (fun a w hw => hI (Work.exec_unbooked env a w) hw) m)

/-- What an invariant about claims needs in order to be kept by the handling of a signal: `S id`
holds from the claim of a signal until its submission. -/
structure SignalBooking (env : Env σ) (I : World σ → Prop) (S : String → World σ → Prop) :
    Prop where
  unbooked : ∀ {w w'}, Unbooked w w' → I w → I w'
  fresh : ∀ {w w'} id, Unbooked w w' → S id w → S id w'
  weak : ∀ {w} id, S id w → I w
  claim : ∀ id, Triple (Deed.exec env) I (.perform (.claimSignal id))
    (fun isNew w => I w ∧ (isNew = true → S id w)) (fun _ => I) I
  submitting : ∀ id w, S id w → I (w.note (.submitting id))
  record : ∀ id result w, I w → I ((Deed.recordSignal id result).exec env _ w).2

namespace SignalBooking
variable {I : World σ → Prop} {S : String → World σ → Prop} (h : SignalBooking env I S)
include h

theorem work (m : Working α) : Keeps (Deed.exec env) I (liftM m : Doing α) :=
  keeps_working h.unbooked m

theorem recordDeed (id result : String) :
    Keeps (Deed.exec env) I (.perform (.recordSignal id result) : Doing Unit) :=
  .perform (h.record id result)

theorem reject (sig : Option Signal) (reason : String) (record : Bool) :
    Keeps (Deed.exec env) I (reject sig reason record) := by
  unfold Supervisor.reject
  have hlast : Keeps (Deed.exec env) I
      (liftM (ask (.move false)) >>= fun _ => Pure.pure (false, reason) : Doing Result) :=
    .bind (h.work _) fun _ => .pure
  split
  · split
    · exact .bind (h.recordDeed _ _) fun _ => hlast
    · exact hlast
  · exact hlast

theorem submitSignal (c : Candidate) : Triple (Deed.exec env) (S c.id) (submitSignal cfg c)
    (fun _ => I) (fun _ => I) I := by
  have hwork : ∀ {α : Type} (m : Working α), Triple (Deed.exec env) (S c.id) (liftM m : Doing α)
      (fun _ => S c.id) (fun _ => I) I := fun m =>
    (keeps_working (h.fresh c.id) m).conseq (fun _ hw => hw) (fun _ _ hw => hw)
      (fun _ _ hw => h.weak _ hw) fun _ hw => h.weak _ hw
  unfold Supervisor.submitSignal
  refine .bind (hwork _) fun _ => .bind (hwork _) fun _ => .bind (hwork _) fun s => ?_
  refine .bind (hwork _) fun _ => .bind (hwork _) fun size => ?_
  refine Triple.bind (.perform_same (fun _ hw => h.weak _ hw) fun w hw => h.submitting _ w hw)
    fun _ => ?_
  refine Keeps.bind (h.work _) fun answer => .bind (h.work _) fun d => .bind (h.work _) fun _ => ?_
  refine .bind (h.recordDeed _ _) fun _ => ?_
  have hlast : Keeps (Deed.exec env) I (liftM (ask (.move answer.1)) >>= fun _ =>
      Pure.pure (answer.1, answer.2) : Doing Result) :=
    .bind (h.work _) fun _ => .pure
  split
  · exact .bind (h.work _) fun _ => hlast
  · exact hlast

theorem handleCandidate (c : Candidate) : Keeps (Deed.exec env) I (handleCandidate cfg c) :=
  keeps_handleCandidate h.reject (h.work _) (fun _ => h.work _) (h.work _) (h.claim c.id)
    (h.submitSignal c)

theorem signalTask (file : SignalFile) : Keeps (Deed.exec env) I (signalTask cfg file) := by
  unfold Supervisor.signalTask
  refine .bind (.attempt (keeps_processSignal h.reject _ h.handleCandidate)) fun result => ?_
  split
  · exact .pure
  · exact .bind (h.work _) fun _ => .bind (h.work _) fun _ => .pure

end SignalBooking

/-- What an invariant about claims needs in order to be kept by the handling of a command: `C id`
holds from the claim of a command until its execution, and `D id` until its result is recorded. -/
structure CommandBooking (cfg : Config) (env : Env σ) (I : World σ → Prop)
    (C D : String → World σ → Prop) : Prop where
  unbooked : ∀ {w w'}, Unbooked w w' → I w → I w'
  going : ∀ {w w'} id, Unbooked w w' → D id w → D id w'
  weak : ∀ {w} id, D id w → I w
  claim : ∀ id, Triple (Deed.exec env) I (.perform (.claimCommand id))
    (fun isNew w => I w ∧ (isNew = true → C id w)) (fun _ => I) I
  expired : ∀ {w} id, C id w → D id w
  executing : ∀ id w, C id w → D id (w.note (.executing id))
  written : ∀ c ok result, Triple (Deed.exec env) (D c.commandId)
    (writeCommandResult cfg c ok result) (fun _ => I) (fun _ => I) I
  replayed : ∀ c, Keeps (Deed.exec env) I (replayCommand c)

namespace CommandBooking
variable {I : World σ → Prop} {C D : String → World σ → Prop} (h : CommandBooking cfg env I C D)
include h

theorem executeCommand (c : CommandPayload) : Triple (Deed.exec env) (C c.commandId)
    (executeCommand cfg c) (fun _ => I) (fun _ => I) I := by
  unfold Supervisor.executeCommand
  refine Triple.bind (Q := fun _ => D c.commandId) (fun w hw => ⟨?_, ?_⟩) fun _ => ?_
  · exact h.weak _ (h.expired _ hw)
  · exact h.executing _ w hw
  · refine Triple.bind ((keeps_working (h.going c.commandId) _).conseq (fun _ hw => hw)
      (fun _ _ hw => hw) (fun _ _ hw => h.weak _ hw) fun _ hw => h.weak _ hw) fun answer => ?_
    split <;> exact h.written _ _ _

theorem processCommand (file : CommandFile) :
    Keeps (Deed.exec env) I (processCommand cfg file) := by
  cases file with
  | invalid detail => exact .pure
  | verified c =>
    unfold Supervisor.processCommand
    dsimp only
    split
    · exact .pure
    · refine .bind (keeps_working h.unbooked _) fun now => ?_
      split
      · refine Triple.bind (h.claim c.commandId) fun isNew => ?_
        split
        · next hnew => exact (h.executeCommand c).weaken fun w hw => hw.2 hnew
        · exact (h.replayed _).weaken fun w hw => hw.1
      · refine Triple.bind (h.claim c.commandId) fun isNew => ?_
        split
        · next hnew => exact (h.written _ _ _).weaken fun w hw => h.expired _ (hw.2 hnew)
        · exact .pure fun w hw => hw.1

theorem commandTask (file : CommandFile) : Keeps (Deed.exec env) I (commandTask cfg file) := by
  unfold Supervisor.commandTask
  refine .bind (.attempt (h.processCommand _)) fun result => ?_
  split
  · exact .pure
  · exact .bind (keeps_working h.unbooked _) fun _ => .pure

end CommandBooking

/-- What an invariant about claims needs in order to be kept by every task. -/
structure Bookkeeping (cfg : Config) (env : Env σ) (I : World σ → Prop)
    (S C D : String → World σ → Prop) : Prop where
  signal : SignalBooking env I S
  command : CommandBooking cfg env I C D
  remove : ∀ ids w, I w → I ((Deed.removeResults ids).exec env _ w).2

namespace Bookkeeping
variable {I : World σ → Prop} {S C D : String → World σ → Prop}
  (h : Bookkeeping cfg env I S C D)
include h

theorem task (t : Task) : Keeps (Deed.exec env) I (t.program cfg) := by
  cases t with
  | startup => exact keeps_working h.signal.unbooked _
  | enforceLease verify => exact .bind (keeps_working h.signal.unbooked _) fun _ => .pure
  | command file => exact h.command.commandTask file
  | signal file => exact h.signal.signalTask file
  | manage => exact keeps_working h.signal.unbooked _
  | watch => exact keeps_working h.signal.unbooked _
  | prune results => exact .perform (h.remove results)

theorem step {w : World σ} (s : Step) (hw : I w) : I (step cfg env w s) := by
  unfold Supervisor.step
  split
  · have hbegin : I (w.begin cfg s.task) := by
      cases s.task with
      | startup =>
        exact h.signal.unbooked (w := w) (.noted (e := .started) rfl rfl not_false) hw
      | _ => exact hw
    have hrun := (h.task s.task).run s.budget hbegin
    refine h.signal.unbooked ?_ hrun
    dsimp only [World.conclude]
    split <;> exact .quiet rfl rfl
  · exact hw

theorem steps {w : World σ} (steps : List Step) (hw : I w) :
    I (steps.foldl (Supervisor.step cfg env) w) := by
  induction steps generalizing w with
  | nil => exact hw
  | cons s steps ih => exact ih (h.step s hw)

end Bookkeeping

/-! ### At most once -/

/-- The notes that a deed makes about claims. -/
def Deed.notes (γ : Type) : Deed γ → List Event
  | .submitting id => [.submitting id]
  | .executing id => [.executing id]
  | .replaying id => [.replaying id]
  | _ => []

theorem World.write_log (w : World σ) (a : γ) {f : World σ → World σ}
    (hf : ∀ w, (f w).log = w.log) : (w.write env a f).2.log = w.log := by
  obtain ⟨v, -, hlog, h | ⟨x, h⟩⟩ := World.write_cases env w a f
  · rw [h]
    exact (hf v).trans hlog
  · rw [h]
    exact hlog

/-- How the log grows by a deed, as far as it is about claims. -/
theorem Deed.exec_count (a : Deed γ) (w : World σ) {e : Event} (he : e.booked) :
    (a.exec env γ w).2.log.count e = a.notes.count e + w.log.count e := by
  have hsame : ∀ w' : World σ, w'.log = w.log → a.notes = [] →
      w'.log.count e = a.notes.count e + w.log.count e := by
    intro w' hlog hnotes
    rw [hlog, hnotes, List.count_nil, Nat.zero_add]
  cases a with
  | work a =>
    rw [Deed.exec, (Work.exec_unbooked env a w).count he]
    exact (Nat.zero_add _).symm
  | claimSignal id => exact hsame _ (World.write_log w _ fun _ => rfl) rfl
  | recordSignal id result => exact hsame _ (World.write_log w _ fun _ => rfl) rfl
  | claimCommand id => exact hsame _ (World.write_log w _ fun _ => rfl) rfl
  | recordCommand payload => exact hsame _ (World.write_log w _ fun _ => rfl) rfl
  | writeResult payload => exact hsame _ (World.write_log w _ fun _ => rfl) rfl
  | removeResults ids => exact hsame _ (World.write_log w _ fun _ => rfl) rfl
  | submitting id =>
    simp only [Deed.exec, Deed.notes, World.note, List.count_cons, List.count_nil, Nat.zero_add]
    exact Nat.add_comm _ _
  | executing id =>
    simp only [Deed.exec, Deed.notes, World.note, List.count_cons, List.count_nil, Nat.zero_add]
    exact Nat.add_comm _ _
  | replaying id =>
    simp only [Deed.exec, Deed.notes, World.note, List.count_cons, List.count_nil, Nat.zero_add]
    exact Nat.add_comm _ _

/-- A table of claims and the note that is made of what was claimed in it. -/
structure Register where
  note : String → Event
  taken : Tables → String → Bool
  booked : ∀ id, (note id).booked
  injective : Function.Injective note

def Register.signals : Register where
  note := .submitting
  taken t id := (t.signals id).isSome
  booked _ := trivial
  injective _ _ h := by cases h; rfl

def Register.commands : Register where
  note := .executing
  taken t id := (t.commands id).isSome
  booked _ := trivial
  injective _ _ h := by cases h; rfl

variable {R : Register} {prior : List (String × ℕ)}

/-- What was never claimed was never begun, nothing was begun twice, and the claims that are known
were begun as often as is known. -/
structure Once (R : Register) (prior : List (String × ℕ)) (w : World σ) : Prop where
  once : ∀ id, w.log.count (R.note id) ≤ if R.taken w.tables id then 1 else 0
  known : ∀ p ∈ prior, R.taken w.tables p.1 = true ∧ w.log.count (R.note p.1) = p.2

/-- A claim that was made just now. -/
structure Fresh (R : Register) (prior : List (String × ℕ)) (id : String) (w : World σ) : Prop
    extends Once R prior w where
  taken : R.taken w.tables id = true
  unbegun : w.log.count (R.note id) = 0
  unknown : ∀ p ∈ prior, p.1 ≠ id

/-- Claims stay, and nothing is begun. -/
structure ClaimsStay (R : Register) (w w' : World σ) : Prop where
  taken : ∀ id, R.taken w.tables id = true → R.taken w'.tables id = true
  count : ∀ id, w'.log.count (R.note id) = w.log.count (R.note id)

theorem Unbooked.claimsStay {w w' : World σ} (h : Unbooked w w') : ClaimsStay R w w' where
  taken id ht := by rwa [h.1]
  count id := h.count (R.booked id)

theorem Once.claimsStay {w w' : World σ} (h : Once R prior w) (hw : ClaimsStay R w w') :
    Once R prior w' where
  once id := by
    rw [hw.count]
    refine (h.once id).trans ?_
    by_cases ht : R.taken w.tables id = true
    · rw [if_pos ht, if_pos (hw.taken id ht)]
    · rw [if_neg ht]
      exact Nat.zero_le _
  known p hp := ⟨hw.taken _ (h.known p hp).1, (hw.count _).trans (h.known p hp).2⟩

theorem Fresh.claimsStay {w w' : World σ} {id : String} (h : Fresh R prior id w)
    (hw : ClaimsStay R w w') :
    Fresh R prior id w' :=
  ⟨h.toOnce.claimsStay hw, hw.taken id h.taken, (hw.count id).trans h.unbegun, h.unknown⟩

/-- A claim that succeeds was not made before. -/
theorem Once.fresh {w w' : World σ} {id : String} (h : Once R prior w) (hw : ClaimsStay R w w')
    (hnew : R.taken w.tables id = false) (ht : R.taken w'.tables id = true) :
    Fresh R prior id w' where
  toOnce := h.claimsStay hw
  taken := ht
  unbegun := by
    have hle := h.once id
    rw [hnew, if_neg Bool.false_ne_true] at hle
    rw [hw.count]
    omega
  unknown p hp heq := by
    have ht := (h.known p hp).1
    rw [heq, hnew] at ht
    cases ht

/-- A fresh claim is begun for the first time. -/
theorem Fresh.begun {w : World σ} {id : String} (h : Fresh R prior id w) :
    Once R prior (w.note (R.note id)) where
  once x := by
    simp only [World.note, List.count_cons, beq_iff_eq, R.injective.eq_iff]
    by_cases hx : id = x
    · rw [if_pos hx, ← hx, h.unbegun]
      exact (if_pos h.taken).ge
    · rw [if_neg hx]
      exact h.once x
  known p hp := by
    simp only [World.note, List.count_cons, beq_iff_eq, R.injective.eq_iff]
    rw [if_neg (Ne.symm (h.unknown p hp))]
    exact h.known p hp

section deeds
variable {ρ : Type}

theorem claimed_isSome (t : String → Option ρ) (id : String) (r : ρ) :
    ((claimed t id r).2 id).isSome = true := by
  unfold claimed
  split
  · assumption
  · simp

theorem update_isSome {t : String → Option ρ} (id : String) (r : ρ) {x : String}
    (h : (t x).isSome = true) : (Function.update t id (some r) x).isSome = true := by
  rw [Function.update_apply]
  split
  · rfl
  · exact h

theorem claimed_mono {t : String → Option ρ} (id : String) (r : ρ) {x : String}
    (h : (t x).isSome = true) : ((claimed t id r).2 x).isSome = true := by
  unfold claimed
  split
  · exact h
  · exact update_isSome id r h

theorem claimed_new {t : String → Option ρ} {id : String} {r : ρ} (h : (claimed t id r).1 = true) :
    (t id).isSome = false := by
  unfold claimed at h
  split at h
  · cases h
  · next hno => simpa using hno

end deeds

/-- A write that only adds to a register, or fails. -/
theorem taken_write (w : World σ) (a : γ) {f : World σ → World σ} {id : String}
    (hf : ∀ v : World σ, v.tables = w.tables → R.taken (f v).tables id = true)
    (h : R.taken w.tables id = true) : R.taken (w.write env a f).2.tables id = true := by
  apply World.of_write (P := fun w => R.taken w.tables id = true)
  · intro v hv
    rwa [hv]
  · exact hf

/-- No deed takes a claim of a signal back. -/
theorem signals_taken (a : Deed γ) (w : World σ) {x : String}
    (h : Register.signals.taken w.tables x = true) :
    Register.signals.taken (a.exec env γ w).2.tables x = true := by
  have hother : ∀ v : World σ, v.tables = w.tables → (v.tables.signals x).isSome = true :=
    fun v hv => hv ▸ h
  cases a with
  | work a => exact hother _ (Work.exec_unbooked env a w).1
  | claimSignal id =>
    refine taken_write w _ (fun v hv => ?_) h
    exact claimed_mono (t := w.tables.signals) id "IN_PROGRESS" h
  | recordSignal id result =>
    refine taken_write w _ (fun v hv => ?_) h
    rw [← hv] at h
    exact update_isSome (t := v.tables.signals) id result h
  | claimCommand id => exact taken_write w _ hother h
  | recordCommand payload =>
    exact taken_write w _ hother h
  | writeResult payload =>
    exact taken_write w _ hother h
  | removeResults ids =>
    exact taken_write w _ hother h
  | submitting id => exact h
  | executing id => exact h
  | replaying id => exact h

/-- No deed takes a claim of a command back. -/
theorem commands_taken (a : Deed γ) (w : World σ) {x : String}
    (h : Register.commands.taken w.tables x = true) :
    Register.commands.taken (a.exec env γ w).2.tables x = true := by
  have hother : ∀ v : World σ, v.tables = w.tables → (v.tables.commands x).isSome = true :=
    fun v hv => hv ▸ h
  cases a with
  | work a => exact hother _ (Work.exec_unbooked env a w).1
  | claimCommand id =>
    refine taken_write w _ (fun v hv => ?_) h
    exact claimed_mono (t := w.tables.commands) id .inProgress h
  | recordCommand payload =>
    refine taken_write w _ (fun v hv => ?_) h
    rw [← hv] at h
    exact update_isSome (t := v.tables.commands) payload.commandId (.finished payload) h
  | claimSignal id => exact taken_write w _ hother h
  | recordSignal id result =>
    exact taken_write w _ hother h
  | writeResult payload =>
    exact taken_write w _ hother h
  | removeResults ids =>
    exact taken_write w _ hother h
  | submitting id => exact h
  | executing id => exact h
  | replaying id => exact h

/-- A deed that takes no claim back and notes nothing of the register. -/
theorem Deed.claimsStay {a : Deed γ} {w : World σ}
    (htaken : ∀ id, R.taken w.tables id = true → R.taken (a.exec env γ w).2.tables id = true)
    (ha : ∀ id, R.note id ∉ a.notes) : ClaimsStay R w (a.exec env γ w).2 where
  taken := htaken
  count id := by
    refine (Deed.exec_count a w (R.booked id)).trans ?_
    rw [List.count_eq_zero.mpr (ha id)]
    exact Nat.zero_add _

variable (env) in
theorem signals_claimsStay (a : Deed γ) (w : World σ) (ha : ∀ id, .submitting id ∉ a.notes) :
    ClaimsStay .signals w (a.exec env γ w).2 :=
  Deed.claimsStay (fun _ => signals_taken a w) ha

variable (env) in
theorem commands_claimsStay (a : Deed γ) (w : World σ) (ha : ∀ id, .executing id ∉ a.notes) :
    ClaimsStay .commands w (a.exec env γ w).2 :=
  Deed.claimsStay (fun _ => commands_taken a w) ha

section programs
variable {I : World σ → Prop}

theorem keeps_written
    (hrecord : ∀ payload w, I w → I ((Deed.recordCommand payload).exec env _ w).2)
    (hwrite : ∀ payload w, I w → I ((Deed.writeResult payload).exec env _ w).2)
    (c : CommandPayload) (ok : Bool) (result : String) :
    Keeps (Deed.exec env) I (writeCommandResult cfg c ok result) :=
  .bind (.perform (hrecord _)) fun _ => .perform (hwrite _)

theorem keeps_replayed (hunbooked : ∀ {w w'}, Unbooked w w' → I w → I w')
    (hwrite : ∀ payload w, I w → I ((Deed.writeResult payload).exec env _ w).2)
    (hnote : ∀ id w, I w → I (w.note (.replaying id))) (c : CommandPayload) :
    Keeps (Deed.exec env) I (replayCommand c) := by
  unfold replayCommand
  refine .bind (keeps_working hunbooked _) fun t => ?_
  split
  · refine .bind (.perform (hnote _)) fun _ => .bind (.perform (hwrite _)) fun _ => ?_
    exact keeps_working hunbooked _
  · exact .perform (hnote _)
  · exact .perform (hwrite _)
  · exact .pure

end programs

theorem once_unbooked {w w' : World σ} (h : Unbooked w w') (hw : Once R prior w) :
    Once R prior w' :=
  hw.claimsStay h.claimsStay

theorem fresh_unbooked {w w' : World σ} (id : String) (h : Unbooked w w')
    (hw : Fresh R prior id w) : Fresh R prior id w' :=
  hw.claimsStay h.claimsStay

/-- The claim of a deed that claims nothing in the register. -/
theorem claim_elsewhere {I : World σ → Prop} {a : Deed Bool}
    (h : ∀ w, I w → I (a.exec env Bool w).2) : Triple (Deed.exec env) I (.perform a)
      (fun isNew w => I w ∧ (isNew = true → I w)) (fun _ => I) I :=
  (Keeps.perform h).post fun _ _ hw => ⟨hw, fun _ => hw⟩

/-- A claim that keeps a register, and that is new only where the register has no such row. -/
theorem claim_fresh {d : Deed Bool} {id : String}
    (hstay : ∀ w : World σ, ClaimsStay R w (d.exec env _ w).2)
    (hnew : ∀ w w' : World σ, d.exec env _ w = (.ok true, w') →
      R.taken w.tables id = false ∧ R.taken w'.tables id = true) :
    Triple (Deed.exec env) (Once R prior) (.perform d)
      (fun isNew w => Once R prior w ∧ (isNew = true → Fresh R prior id w))
      (fun _ => Once R prior) (Once R prior) := by
  refine .perform (fun _ hw => hw) (fun w isNew w' hw heq => ?_) fun w e w' hw heq => ?_
  · have hm := hstay w
    rw [heq] at hm
    refine ⟨hw.claimsStay hm, ?_⟩
    rintro rfl
    obtain ⟨hold, htaken⟩ := hnew w w' heq
    exact hw.fresh hm hold htaken
  · have hm := hstay w
    rw [heq] at hm
    exact hw.claimsStay hm

theorem claimSignal_fresh (id : String) :
    Triple (Deed.exec env) (Once .signals prior) (.perform (.claimSignal id))
      (fun isNew w => Once .signals prior w ∧ (isNew = true → Fresh .signals prior id w))
      (fun _ => Once .signals prior) (Once .signals prior) := by
  apply claim_fresh
  · exact fun w => signals_claimsStay env _ w fun _ => List.not_mem_nil
  · intro w w' heq
    simp only [Deed.exec] at heq
    obtain ⟨hnew, v, -, rfl⟩ := World.write_ok heq
    exact ⟨claimed_new hnew.symm, claimed_isSome _ _ _⟩

theorem claimCommand_fresh (id : String) :
    Triple (Deed.exec env) (Once .commands prior) (.perform (.claimCommand id))
      (fun isNew w => Once .commands prior w ∧ (isNew = true → Fresh .commands prior id w))
      (fun _ => Once .commands prior) (Once .commands prior) := by
  apply claim_fresh
  · exact fun w => commands_claimsStay env _ w fun _ => List.not_mem_nil
  · intro w w' heq
    simp only [Deed.exec] at heq
    obtain ⟨hnew, v, -, rfl⟩ := World.write_ok heq
    exact ⟨claimed_new hnew.symm, claimed_isSome _ _ _⟩

/-- Every task keeps the register of signals. -/
theorem signals_bookkeeping : Bookkeeping cfg env (Once .signals prior) (Fresh .signals prior)
    (fun _ => Once .signals prior) fun _ => Once .signals prior := by
  have hdeed : ∀ {γ} (a : Deed γ) (w : World σ), a.notes = [] → Once .signals prior w →
      Once .signals prior (a.exec env γ w).2 := fun a w ha hw =>
    hw.claimsStay (signals_claimsStay env a w fun id => by rw [ha]; exact List.not_mem_nil)
  exact
    { signal :=
        { unbooked := once_unbooked
          fresh := fresh_unbooked
          weak := fun id hw => hw.toOnce
          claim := claimSignal_fresh
          submitting := fun id w hw => hw.begun
          record := fun id result w hw => hdeed _ w rfl hw }
      command :=
        { unbooked := once_unbooked
          going := fun id => once_unbooked
          weak := fun id hw => hw
          expired := fun id hw => hw
          claim := fun id => claim_elsewhere fun w hw => hdeed _ w rfl hw
          executing := fun id w hw =>
            hw.claimsStay (signals_claimsStay env (.executing id) w fun _ => by simp [Deed.notes])
          written := keeps_written (fun _ w hw => hdeed _ w rfl hw) fun _ w hw => hdeed _ w rfl hw
          replayed := keeps_replayed once_unbooked (fun _ w hw => hdeed _ w rfl hw) fun id w hw =>
            hw.claimsStay (signals_claimsStay env (.replaying id) w fun _ => by simp [Deed.notes]) }
      remove := fun ids w hw => hdeed _ w rfl hw }

/-- Every task keeps the register of commands. -/
theorem commands_bookkeeping : Bookkeeping cfg env (Once .commands prior)
    (fun _ => Once .commands prior) (Fresh .commands prior) fun _ => Once .commands prior := by
  have hdeed : ∀ {γ} (a : Deed γ) (w : World σ), a.notes = [] → Once .commands prior w →
      Once .commands prior (a.exec env γ w).2 := fun a w ha hw =>
    hw.claimsStay (commands_claimsStay env a w fun id => by rw [ha]; exact List.not_mem_nil)
  exact
    { signal :=
        { unbooked := once_unbooked
          fresh := fun id => once_unbooked
          weak := fun id hw => hw
          claim := fun id => claim_elsewhere fun w hw => hdeed _ w rfl hw
          submitting := fun id w hw =>
            hw.claimsStay (commands_claimsStay env (.submitting id) w fun _ => by simp [Deed.notes])
          record := fun id result w hw => hdeed _ w rfl hw }
      command :=
        { unbooked := once_unbooked
          going := fun id => once_unbooked
          weak := fun id hw => hw
          expired := fun id hw => hw.toOnce
          claim := claimCommand_fresh
          executing := fun id w hw => hw.begun
          written := keeps_written (fun _ w hw => hdeed _ w rfl hw) fun _ w hw => hdeed _ w rfl hw
          replayed := keeps_replayed once_unbooked (fun _ w hw => hdeed _ w rfl hw)
            fun id w hw => hw.claimsStay
              (commands_claimsStay env (.replaying id) w fun _ => by simp [Deed.notes]) }
      remove := fun ids w hw => hdeed _ w rfl hw }

/-! ### Claims of commands that are not finished -/

/-- A row of the commands. -/
def CommandIs (id : String) (r : CommandRecord) (w : World σ) : Prop :=
  w.tables.commands id = some r

/-- The command whose result a deed records. -/
def Deed.finishes (γ : Type) : Deed γ → Option String
  | .recordCommand payload => some payload.commandId
  | _ => none

/-- A row stays as it is until a result is recorded in it. -/
theorem commandIs_deed {id : String} {r : CommandRecord} (a : Deed γ) {w : World σ}
    (ha : a.finishes ≠ some id) (hw : CommandIs id r w) : CommandIs id r (a.exec env γ w).2 := by
  have hother : ∀ v : World σ, v.tables = w.tables → v.tables.commands id = some r :=
    fun v hv => hv ▸ hw
  have hwrite : ∀ {γ : Type} (x : γ) (f : World σ → World σ),
      (∀ v : World σ, v.tables = w.tables → CommandIs id r (f v)) →
      CommandIs id r (w.write env x f).2 := fun x f hf => World.of_write x hother hf
  cases a with
  | work a => exact hother _ (Work.exec_unbooked env a w).1
  | claimCommand x =>
    refine hwrite _ _ fun v hv => ?_
    change (claimed w.tables.commands x .inProgress).2 id = some r
    unfold claimed
    split
    · exact hw
    · next hno =>
      refine (Function.update_of_ne ?_ _ _).trans hw
      rintro rfl
      rw [CommandIs] at hw
      simp [hw] at hno
  | recordCommand payload =>
    refine hwrite _ _ fun v hv => ?_
    refine (Function.update_of_ne (fun heq => ha (congrArg some heq.symm)) _ _).trans ?_
    rw [hv]
    exact hw
  | claimSignal id => exact hwrite _ _ hother
  | recordSignal id result => exact hwrite _ _ hother
  | writeResult payload => exact hwrite _ _ hother
  | removeResults ids => exact hwrite _ _ hother
  | submitting id => exact hw
  | executing id => exact hw
  | replaying id => exact hw

/-- Every task leaves a row of the commands as it is. -/
theorem commandIs_bookkeeping (id : String) (r : CommandRecord) :
    Bookkeeping cfg env (CommandIs id r) (fun _ => CommandIs id r)
      (fun x w => CommandIs id r w ∧ x ≠ id) fun x w => CommandIs id r w ∧ x ≠ id := by
  have hunbooked : ∀ {w w' : World σ}, Unbooked w w' → CommandIs id r w → CommandIs id r w' :=
    fun h hw => (congrArg (fun t : Tables => t.commands id) h.1).trans hw
  have hdeed : ∀ {γ} (a : Deed γ) (w : World σ), a.finishes = none → CommandIs id r w →
      CommandIs id r (a.exec env γ w).2 := fun a w ha hw =>
    commandIs_deed a (by rw [ha]; exact nofun) hw
  exact
    { signal :=
        { unbooked := hunbooked
          fresh := fun x => hunbooked
          weak := fun x hw => hw
          claim := fun x => claim_elsewhere fun w hw => hdeed _ w rfl hw
          submitting := fun x w hw => hw
          record := fun x result w hw => hdeed _ w rfl hw }
      command :=
        { unbooked := hunbooked
          going := fun x h hw => ⟨hunbooked h hw.1, hw.2⟩
          weak := fun x hw => hw.1
          expired := fun x hw => hw
          claim := fun x => by
            refine .perform (fun _ hw => hw) (fun w isNew w' hw heq => ?_) fun w e w' hw heq => ?_
            · have hnext := hdeed (.claimCommand x) w rfl hw
              rw [heq] at hnext
              refine ⟨hnext, fun htrue => ⟨hnext, ?_⟩⟩
              rintro rfl
              subst htrue
              simp only [Deed.exec] at heq
              obtain ⟨hnew, -⟩ := World.write_ok heq
              have hnone := claimed_new hnew.symm
              rw [CommandIs] at hw
              simp [hw] at hnone
            · have hnext := hdeed (.claimCommand x) w rfl hw
              rwa [heq] at hnext
          executing := fun x w hw => hw
          written := fun c ok result => by
            refine Triple.bind (Q := fun _ => CommandIs id r) (.perform_same (fun _ hw => hw.1)
              fun w hw => commandIs_deed _ ?_ hw.1) fun _ =>
              Keeps.perform fun w hw => hdeed _ w rfl hw
            exact fun heq => hw.2 (Option.some.inj heq)
          replayed := keeps_replayed hunbooked (fun _ w hw => hdeed _ w rfl hw) fun x w hw => hw }
      remove := fun ids w hw => hdeed _ w rfl hw }

end SpotSidecar.Supervisor
