import SpotSidecar.Adapter.Run
import SpotSidecar.Interaction.Eval
import SpotSidecar.Safety.Gate

/-! The user-data stream as a dispatcher of events to the callbacks of the adapter, and the two
places that construct it. -/
namespace SpotSidecar.UserStream
open Interaction

inductive EventKind where
  | executionReport
  | listStatus
  | account
  | closing
  | unknown
  deriving DecidableEq, Repr

/-- The kinds that `_dispatch_event` tells apart. -/
def kindOf : EventType → EventKind
  | .executionReport => .executionReport
  | .listStatus => .listStatus
  | .other "outboundAccountPosition" | .other "balanceUpdate" | .other "externalLockUpdate" =>
    .account
  | .other "eventStreamTerminated" | .other "serverShutdown" => .closing
  | .other _ => .unknown

/-- The callbacks of a `ModernUserDataStream`. -/
structure Callbacks where
  onOrderUpdate : Option (Event → Folding Unit) := none
  onListUpdate : Option (Event → Folding Unit) := none
  onResync : Option (Folding Unit) := none
  onAccountUpdate : Option (Event → Folding Unit) := none

/-- `_dispatch_event`, less the socket that a closing event closes. -/
def Callbacks.dispatchEvent (c : Callbacks) (e : Event) : Folding Unit :=
  match kindOf e.eventType with
  | .executionReport => match c.onOrderUpdate with
    | some onOrderUpdate => onOrderUpdate e
    | none => pure ()
  | .listStatus => match c.onListUpdate with
    | some onListUpdate => onListUpdate e
    | none => pure ()
  | .account => match c.onAccountUpdate, c.onResync with
    | some onAccountUpdate, _ => onAccountUpdate e
    -- A stream without an account callback takes the event for a reconnect.
    | none, some onResync => onResync
    | none, none => pure ()
  | .closing | .unknown => pure ()

/-- What reaches a stream: a frame with an event, and the end of its socket. -/
inductive Arrival where
  | event (e : Event)
  | closed

/-- `_on_message` and `_on_close`: an error of a callback is logged. A socket that has closed is
reconciled before it is connected again. -/
def Callbacks.deliver (c : Callbacks) : Arrival → Folding Unit
  | .event e => do
    let _ ← (c.dispatchEvent e).attempt
    return ()
  | .closed => do
    let _ ← (c.onResync.getD (pure ())).attempt
    return ()

/-- `stream_factory(gateway, _on_order_update, _on_list_update, _on_resync)` -/
def streamFactory : Callbacks where
  onOrderUpdate := some SpotSidecar.onOrderUpdate
  onListUpdate := some SpotSidecar.onListUpdate
  onResync := some (liftM SpotSidecar.onResync)

/-- The stream that `restart_user_stream` constructs. -/
def restarted : Callbacks := streamFactory

/-- The stream that `start` constructs. -/
def started : Callbacks :=
  { streamFactory with onAccountUpdate := some fun _ => liftM SpotSidecar.onAccountUpdate }

variable {σ : Type} (env : Env σ)

/-- The adapter after what has reached the stream. -/
def Callbacks.evolve (c : Callbacks) (w : World σ) (arrivals : List Arrival) : World σ :=
  arrivals.foldl (fun w a => ((c.deliver a).eval (Fold.exec env) w).2) w

/-! ### The account mark -/

/-- The time at which an account event asked for a reconciliation. -/
def Marked (p : Option ℚ → Prop) (w : World σ) : Prop := p w.memory.accountDirtySince

section marked
open Prog
variable {env} {α : Type} {p : Option ℚ → Prop}

theorem marked_calm {m : Asking α} (hm : Calm m) : Keeps (Ask.exec env) (Marked p) m := by
  apply hm.keeps
  intro γ a ha w hw
  cases a with
  | setMemory m => cases ha
  | setData d | claimSignal id | recordSignal id result => exact hw
  | store | memory | signalResult id => exact hw
  | call c =>
    unfold Ask.exec
    dsimp only
    split <;> exact hw

theorem marked_setMemory {f : Memory → Memory}
    (hf : ∀ m : Memory, p m.accountDirtySince → p (f m).accountDirtySince) :
    Keeps (Ask.exec env) (Marked p) (setMemory f) := by
  intro w hw
  exact ⟨hw, hw, hf _ hw⟩

theorem marked_setData {f : SidecarData → SidecarData} :
    Keeps (Ask.exec env) (Marked p) (setData f) := by
  intro w hw
  exact ⟨hw, hw, hw⟩

theorem marked_pause (reason : String) : Keeps (Ask.exec env) (Marked p) (pause reason) := by
  have hentries : Keeps (Ask.exec env) (Marked p) (setEntries false reason) := by
    intro w hw
    exact ⟨hw, hw, hw⟩
  refine .bind (marked_setMemory fun _ hm => hm) fun _ => .bind hentries fun _ => ?_
  exact .bind (.attempt (marked_calm (.call _))) fun _ => .pure

theorem marked_record (e : Event) :
    Keeps (Fold.exec env) (Marked p) (Prog.perform (.recordExchangeEvent e)) :=
  Keeps.perform fun _ hw => hw

theorem marked_recordAuthenticatedEvent (e : Event) :
    Keeps (Fold.exec env) (Marked p) (recordAuthenticatedEvent e) := by
  apply Keeps.bind (Keeps.asks (marked_calm (.eventInScope e)))
  intro inScope
  cases inScope with
  | false => exact .pure
  | true =>
    apply Keeps.bind (marked_record e)
    intro isNew
    cases isNew with
    | false => exact .pure
    | true => exact .bind (Keeps.asks (marked_calm (.call _))) fun _ => .pure

theorem marked_onOrderUpdate (e : Event) :
    Keeps (Fold.exec env) (Marked p) (onOrderUpdate e) := by
  refine .bind (.attempt ?_) fun result => ?_
  · apply Keeps.bind (Keeps.asks (marked_calm (.eventInScope e)))
    intro inScope
    cases inScope with
    | false => exact .pure
    | true =>
      apply Keeps.bind (marked_recordAuthenticatedEvent e)
      intro _
      apply Keeps.bind Keeps.ofExcept
      intro needed
      cases needed with
      | false => exact .pure
      | true =>
        exact .bind (Keeps.asks (marked_setMemory fun _ hm => hm)) fun _ =>
          Keeps.asks (marked_pause _)
  · cases result with
    | ok _ => exact .pure
    | error _ => exact Keeps.asks (marked_pause _)

theorem marked_onListUpdate (e : Event) : Keeps (Fold.exec env) (Marked p) (onListUpdate e) := by
  refine .bind (.attempt ?_) fun result => ?_
  · apply Keeps.bind (Keeps.asks (marked_calm (.eventInScope e)))
    intro inScope
    cases inScope with
    | false => exact .pure
    | true => exact .bind (marked_record e) fun _ => .pure
  · cases result with
    | ok _ => exact .pure
    | error _ => exact Keeps.asks (marked_pause _)

theorem marked_onResync : Keeps (Ask.exec env) (Marked p) onResync :=
  .bind (marked_calm (.call _)) fun _ => .bind marked_setData fun _ => marked_pause _

/-- The account callback leaves a mark that is there. -/
theorem marked_onAccountUpdate :
    Keeps (Ask.exec env) (Marked (·.isSome)) onAccountUpdate := by
  apply Keeps.bind (marked_calm .theMemory)
  intro m
  split
  · exact .bind (marked_calm (.call _)) fun now => marked_setMemory fun _ _ => rfl
  · exact .pure

end marked

/-! ### The two streams -/

section streams
open Prog
variable {env}

/-- The two streams deliver the same, an account event apart. -/
theorem deliver_eq {a : Arrival} (h : ∀ e, a = .event e → kindOf e.eventType ≠ .account) :
    restarted.deliver a = started.deliver a := by
  cases a with
  | closed => rfl
  | event e =>
    have hdispatch : restarted.dispatchEvent e = started.dispatchEvent e := by
      unfold Callbacks.dispatchEvent
      cases hkind : kindOf e.eventType with
      | account => exact absurd hkind (h e rfl)
      | _ => rfl
    simp only [Callbacks.deliver, hdispatch]

/-- A restarted stream never asks for an account reconciliation. -/
theorem marked_restarted {p : Option ℚ → Prop} (a : Arrival) :
    Keeps (Fold.exec env) (Marked p) (restarted.deliver a) := by
  cases a with
  | closed => exact .bind (.attempt (Keeps.asks marked_onResync)) fun _ => .pure
  | event e =>
    refine .bind (.attempt ?_) fun _ => .pure
    unfold Callbacks.dispatchEvent
    cases kindOf e.eventType with
    | executionReport => exact marked_onOrderUpdate e
    | listStatus => exact marked_onListUpdate e
    | account => exact Keeps.asks marked_onResync
    | closing => exact .pure
    | unknown => exact .pure

theorem marked_started (a : Arrival) :
    Keeps (Fold.exec env) (Marked (·.isSome)) (started.deliver a) := by
  by_cases h : ∃ e, a = .event e ∧ kindOf e.eventType = .account
  · obtain ⟨e, rfl, hkind⟩ := h
    refine .bind (.attempt ?_) fun _ => .pure
    simp only [Callbacks.dispatchEvent, hkind, started]
    exact Keeps.asks marked_onAccountUpdate
  · rw [← deliver_eq]
    · exact marked_restarted a
    · intro e he hkind
      exact h ⟨e, he, hkind⟩

theorem Callbacks.evolve_marked {c : Callbacks} {p : Option ℚ → Prop}
    (h : ∀ a, Keeps (Fold.exec env) (Marked p) (c.deliver a)) (arrivals : List Arrival)
    {w : World σ} (hw : Marked p w) : Marked p (c.evolve env w arrivals) := by
  induction arrivals generalizing w with
  | nil => exact hw
  | cons a arrivals ih => exact ih (Keeps.eval (h a) hw)

/-- A clock that reads one, and collaborators that refuse everything else. -/
def refusing : Env Unit where
  call
    | _, .time, s => (.ok 1, s)
    | _, _, s => (.error { kind := .runtime }, s)
  post _ s := (.error { kind := .runtime }, s)

theorem marked_account (e : Event) (hkind : kindOf e.eventType = .account) (w : World Unit) :
    Marked (·.isSome) ((started.deliver (.event e)).eval (Fold.exec refusing) w).2 := by
  simp only [Callbacks.deliver, Callbacks.dispatchEvent, hkind, started]
  rw [eval_bind_ok eval_attempt]
  obtain ⟨store, signals, ⟨isStarted, enabled, partialRecovery, dirty⟩, env, history⟩ := w
  cases dirty <;> rfl

/-- A list of arrivals moves the adapter in the same way whichever stream they reach, from every
state and with every collaborator, if and only if there is no account event among them. -/
theorem streams_agree_iff (arrivals : List Arrival) :
    (∀ (σ : Type) (env : Env σ) (w : World σ),
        (restarted.evolve env w arrivals).store = (started.evolve env w arrivals).store ∧
          (restarted.evolve env w arrivals).memory = (started.evolve env w arrivals).memory) ↔
      ∀ e, .event e ∈ arrivals → kindOf e.eventType ≠ .account := by
  constructor
  · intro hagree e he hkind
    obtain ⟨before, after, rfl⟩ := List.append_of_mem he
    obtain ⟨-, hmemory⟩ := hagree Unit refusing { env := () }
    have hrestarted : Marked (· = none)
        (restarted.evolve refusing { env := () } (before ++ .event e :: after)) :=
      Callbacks.evolve_marked marked_restarted _ rfl
    have hstarted : Marked (·.isSome)
        (started.evolve refusing { env := () } (before ++ .event e :: after)) := by
      unfold Callbacks.evolve
      rw [List.foldl_append, List.foldl_cons]
      exact Callbacks.evolve_marked marked_started after (marked_account e hkind _)
    unfold Marked at hrestarted hstarted
    rw [← hmemory, hrestarted] at hstarted
    cases hstarted
  · intro h σ env w
    have hsame : restarted.evolve env w arrivals = started.evolve env w arrivals := by
      unfold Callbacks.evolve
      apply List.foldl_ext
      intro w a ha
      rw [deliver_eq]
      rintro e rfl
      exact h e ha
    rw [hsame]
    exact ⟨rfl, rfl⟩

/-- One balance event while entries are on: the stream of `start` marks it, that of
`restart_user_stream` turns the entries off and asks for a reconciliation. -/
theorem streams_agree_fails :
    let e : Event := { eventType := .other "balanceUpdate" }
    let w : World Unit := {
      env := ()
      memory := { started := true, enabled := true }
      store := { data := { entriesEnabled := true } } }
    (started.evolve refusing w [.event e]).memory.enabled = true ∧
      (started.evolve refusing w [.event e]).memory.accountDirtySince = some 1 ∧
      (restarted.evolve refusing w [.event e]).memory.enabled = false ∧
      (restarted.evolve refusing w [.event e]).memory.accountDirtySince = none ∧
      (restarted.evolve refusing w [.event e]).store.data.lastReconciliationStatus =
        "RECONCILIATION_REQUIRED" :=
  ⟨rfl, rfl, rfl, rfl, rfl⟩

end streams

end SpotSidecar.UserStream
