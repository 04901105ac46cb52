import SpotSidecar.Rounding.Significant
import SpotSidecar.State.Store

/-! The risk guard's memory, its authoritative SQLite row and the JSON projection of it. -/
namespace SpotSidecar.Risk

/-! ### Times -/

/-- The first and the last microsecond of the years 1 to 9999, from the epoch. -/
def firstMicro : ℤ := -62135596800000000
def lastMicro : ℤ := 253402300799999999

/-- An aware `datetime`: its microsecond in UTC and the offset of its zone. -/
structure Instant where
  micros : ℤ
  offset : ℤ := 0
  valid : firstMicro ≤ micros + offset ∧ micros + offset ≤ lastMicro
  deriving DecidableEq

namespace Instant

/-- `now + timedelta(...)` -/
def add (t : Instant) (delta : ℤ) : Except Exc Instant :=
  if h : firstMicro ≤ t.micros + delta + t.offset ∧ t.micros + delta + t.offset ≤ lastMicro then
    .ok ⟨t.micros + delta, t.offset, h⟩
  else .error { kind := .arithmetic }

/-- `_day`; days count from the epoch. -/
def day (t : Instant) : Except Exc ℤ :=
  if firstMicro ≤ t.micros ∧ t.micros ≤ lastMicro then .ok (t.micros / 86400000000)
  else .error { kind := .arithmetic }

/-- `now.date()` -/
def localDay (t : Instant) : ℤ := (t.micros + t.offset) / 86400000000

end Instant

/-- The time of an exchange event: a number of seconds or milliseconds, an ISO text, or neither. -/
inductive EventTime where
  | missing
  | number (q : ℚ)
  | text (t : Instant)
  | malformed
  deriving DecidableEq

/-- `_dt(event_time) if event_time else datetime.now(timezone.utc)` -/
def EventTime.instant (wall : Instant) : EventTime → Except Exc Instant
  | .missing => .ok wall
  | .number q =>
    if q = 0 then .ok wall
    else
      let micros := Rounding.halfEven (q / (if 10000000000 < q then 1000 else 1) * 1000000)
      if h : firstMicro ≤ micros + 0 ∧ micros + 0 ≤ lastMicro then .ok ⟨micros, 0, h⟩
      else .error { kind := .value }
  | .text t => .ok t
  | .malformed => .error { kind := .value }

/-! ### The guard's state -/

structure PairState where
  signalId : Option String := none
  candleTime : Option String := none
  result : Option String := none
  recordedAt : Option Instant := none
  lastStopoutTime : Option Instant := none
  cooldownUntil : Option Instant := none
  deriving DecidableEq

structure DayState where
  globalStopouts : ℕ := 0
  pairs : List (Pair × ℕ) := []
  deriving DecidableEq

structure RiskState where
  pairs : List (Pair × PairState) := []
  daily : List (ℤ × DayState) := []
  globalPause : String := ""
  deriving DecidableEq

/-- `mapping[key] = value` -/
def assign {κ β : Type} [DecidableEq κ] (mapping : List (κ × β)) (key : κ) (value : β) :
    List (κ × β) :=
  if mapping.any (fun entry => entry.1 = key) then
    mapping.map fun entry => if entry.1 = key then (key, value) else entry
  else mapping ++ [(key, value)]

structure RecordedSignal where
  pair : Option Pair
  signalId : Option String
  candleTime : Option String
  deriving DecidableEq

/-- What changes the guard's state. A mutation that reads the clock is given the reading. -/
inductive Mutation where
  | setGlobalPause (reason : String)
  | clearGlobalPause
  | record (signal : RecordedSignal) (result : String) (now : Instant)
  | recordStopout (symbol : Symbol) (eventTime : EventTime) (wall : Instant)
  deriving DecidableEq

def RiskState.record (state : RiskState) (signal : RecordedSignal) (result : String)
    (now : Instant) : Except Exc Unit × RiskState :=
  match signal.pair, signal.signalId with
  | some pair, some signalId =>
    let prior := (state.pairs.lookup pair).getD {}
    (.ok (), { state with pairs := assign state.pairs pair { prior with
      signalId := some signalId
      candleTime := signal.candleTime
      result := some result
      recordedAt := some now } })
  | _, _ => (.error { kind := .key }, state)

/-- One more stop-out of the pair on a day; days before the cutoff are dropped. -/
def RiskState.countStopout (state : RiskState) (pair : Pair) (day cutoff : ℤ) (now : Instant) :
    RiskState :=
  let kept := state.daily.filter fun entry => cutoff ≤ entry.1
  let daily := (kept.lookup day).getD {}
  let counted : DayState := {
    globalStopouts := daily.globalStopouts + 1
    pairs := assign daily.pairs pair ((daily.pairs.lookup pair).getD 0 + 1) }
  let pairState := (state.pairs.lookup pair).getD {}
  { state with
    daily := assign kept day counted
    pairs := assign state.pairs pair { pairState with lastStopoutTime := some now } }

/-- What `record_stopout` reads before it changes anything: the time, the pair, the day and the
cutoff. -/
def stopoutOf (symbolPairs : List (Symbol × Pair)) (symbol : Symbol) (eventTime : EventTime)
    (wall : Instant) : Except Exc (Instant × Pair × ℤ × ℤ) := do
  let now ← eventTime.instant wall
  let pair ← match symbolPairs.lookup symbol with
    | some pair => .ok pair
    | none => .error { kind := .value, text := "no authoritative pair mapping registered" }
  let day ← now.day
  let cutoff ← now.add (-14 * 86400000000)
  return (now, pair, day, cutoff.localDay)

def RiskState.recordStopout (state : RiskState) (cooldownSeconds : ℕ)
    (symbolPairs : List (Symbol × Pair)) (symbol : Symbol) (eventTime : EventTime)
    (wall : Instant) : Except Exc Unit × RiskState :=
  match stopoutOf symbolPairs symbol eventTime wall with
  | .error e => (.error e, state)
  | .ok (now, pair, day, cutoff) =>
    let state := state.countStopout pair day cutoff now
    -- The counters have changed when the cooldown is added.
    match now.add (cooldownSeconds * 1000000) with
    | .error e => (.error e, state)
    | .ok ends =>
      let pairState := (state.pairs.lookup pair).getD {}
      (.ok (), { state with
        pairs := assign state.pairs pair { pairState with cooldownUntil := some ends } })

/-- The change in memory, up to `_save`. -/
def Mutation.change (cooldownSeconds : ℕ) (symbolPairs : List (Symbol × Pair)) (state : RiskState) :
    Mutation → Except Exc Unit × RiskState
  | .setGlobalPause reason => (.ok (), { state with globalPause := reason })
  | .clearGlobalPause => (.ok (), { state with globalPause := "" })
  | .record signal result now => state.record signal result now
  | .recordStopout symbol eventTime wall =>
    state.recordStopout cooldownSeconds symbolPairs symbol eventTime wall

/-! ### The stores behind it -/

inductive AuditEvent where
  | projectionWriteFailed
  | commitFailedEntriesDisabled
  deriving DecidableEq

structure Guard where
  /-- `self.state` -/
  memory : RiskState
  sqlite : RiskState
  projection : Option RiskState := none
  /-- `self.store.data`, and the side file it was last saved to. -/
  data : SidecarData := {}
  saved : SidecarData := {}
  cooldownSeconds : ℕ := 60
  audits : List AuditEvent := []
  deriving DecidableEq

/-- What goes wrong during one mutation: the SQLite commit and the projection's directory with the
error they raise, the projection's file, and the side file. -/
structure Faults where
  commit : Option Exc := none
  mkdir : Option Exc := none
  write : Bool := false
  save : Bool := false
  deriving DecidableEq

namespace Guard

/-- `_write_projection`: only the error of the file is caught. -/
def writeProjection (g : Guard) (faults : Faults) : Except Exc Unit × Guard :=
  match faults.mkdir with
  | some e => (.error e, g)
  | none =>
    if faults.write then (.ok (), { g with audits := g.audits ++ [.projectionWriteFailed] })
    else (.ok (), { g with projection := some g.memory })

/-- The `except` branch of `_save`. -/
def rollBack (g : Guard) (faults : Faults) (prior : RiskState) : Guard :=
  let data :=
    { g.data with entriesEnabled := false, pauseReason := "risk-state-persistence-failed" }
  { g with
    memory := prior
    data := data
    saved := if faults.save then g.saved else data
    audits := g.audits ++ [.commitFailedEntriesDisabled] }

/-- `_save` -/
def save (g : Guard) (faults : Faults) (prior : RiskState) : Except Exc Unit × Guard :=
  match faults.commit with
  | some e => (.error e, g.rollBack faults prior)
  | none =>
    match { g with sqlite := g.memory }.writeProjection faults with
    | (.ok (), g) => (.ok (), g)
    | (.error e, g) => (.error e, g.rollBack faults prior)

def mutate (g : Guard) (mutation : Mutation) (faults : Faults) : Except Exc Unit × Guard :=
  match mutation.change g.cooldownSeconds g.data.symbolPairs g.memory with
  | (.error e, memory) => (.error e, { g with memory := memory })
  | (.ok (), memory) => { g with memory := memory }.save faults g.memory

end Guard

/-! ### What a mutation leaves -/

/-- The mutation reads what it needs: a signal with its pair and id; a stop-out with a readable time
and a registered symbol, whose cutoff and cooldown are dates too. -/
def Mutation.Readable (cooldownSeconds : ℕ) (symbolPairs : List (Symbol × Pair)) :
    Mutation → Prop
  | .setGlobalPause _ | .clearGlobalPause => True
  | .record signal _ _ => signal.pair.isSome ∧ signal.signalId.isSome
  | .recordStopout symbol eventTime wall => ∃ now, eventTime.instant wall = .ok now ∧
      (symbolPairs.lookup symbol).isSome ∧
      (firstMicro ≤ now.micros ∧ now.micros ≤ lastMicro) ∧
      firstMicro ≤ now.micros + now.offset - 14 * 86400000000 ∧
      now.micros + now.offset + cooldownSeconds * 1000000 ≤ lastMicro

namespace Instant

theorem add_ok_iff {t : Instant} {delta : ℤ} :
    (∃ later, t.add delta = .ok later) ↔
      firstMicro ≤ t.micros + t.offset + delta ∧ t.micros + t.offset + delta ≤ lastMicro := by
  have hsum : t.micros + delta + t.offset = t.micros + t.offset + delta := by omega
  unfold add
  split
  · next h =>
    rw [hsum] at h
    simp [h]
  · next h =>
    rw [hsum] at h
    simp [h]

theorem day_ok_iff {t : Instant} :
    (∃ day, t.day = .ok day) ↔ firstMicro ≤ t.micros ∧ t.micros ≤ lastMicro := by
  unfold day
  split
  · next h => simp [h]
  · next h => simp [h]

end Instant

theorem stopoutOf_ok_iff {symbolPairs : List (Symbol × Pair)} {symbol : Symbol}
    {eventTime : EventTime} {wall now : Instant} {pair : Pair} {day cutoff : ℤ} :
    stopoutOf symbolPairs symbol eventTime wall = .ok (now, pair, day, cutoff) ↔
      eventTime.instant wall = .ok now ∧ symbolPairs.lookup symbol = some pair ∧
        now.day = .ok day ∧ ∃ earlier, now.add (-14 * 86400000000) = .ok earlier ∧
          cutoff = earlier.localDay := by
  unfold stopoutOf
  cases eventTime.instant wall with
  | error e => simp [Bind.bind, Except.bind]
  | ok t =>
    cases symbolPairs.lookup symbol with
    | none => simp [Bind.bind, Except.bind]
    | some registered =>
      cases hday : t.day with
      | error e =>
        simp only [Bind.bind, Except.bind, hday]
        constructor
        · intro h
          cases h
        · rintro ⟨heq, -, hok, -⟩
          cases heq
          rw [hday] at hok
          cases hok
      | ok d =>
        cases hearlier : t.add (-14 * 86400000000) with
        | error e =>
          simp only [Bind.bind, Except.bind, hday, hearlier]
          constructor
          · intro h
            cases h
          · rintro ⟨heq, -, -, earlier, hok, -⟩
            cases heq
            rw [hearlier] at hok
            cases hok
        | ok earlier =>
          simp only [Bind.bind, Except.bind, hday, hearlier]
          constructor
          · intro h
            cases h
            exact ⟨rfl, rfl, hday, earlier, hearlier, rfl⟩
          · rintro ⟨heq, hpair, hok, earlier', hok', rfl⟩
            cases heq
            cases hpair
            rw [hday] at hok
            rw [hearlier] at hok'
            cases hok
            cases hok'
            rfl

theorem recordStopout_ok_iff {cooldownSeconds : ℕ} {symbolPairs : List (Symbol × Pair)}
    {state : RiskState} {symbol : Symbol} {eventTime : EventTime} {wall : Instant} :
    (state.recordStopout cooldownSeconds symbolPairs symbol eventTime wall).1 = .ok () ↔
      ∃ now pair day cutoff ends,
        stopoutOf symbolPairs symbol eventTime wall = .ok (now, pair, day, cutoff) ∧
          now.add (cooldownSeconds * 1000000) = .ok ends := by
  unfold RiskState.recordStopout
  cases stopoutOf symbolPairs symbol eventTime wall with
  | error e => simp
  | ok read =>
    obtain ⟨now, pair, day, cutoff⟩ := read
    cases hends : now.add (cooldownSeconds * 1000000) with
    | error e =>
      simp only [hends]
      constructor
      · intro h
        cases h
      · rintro ⟨now', pair', day', cutoff', ends, heq, hok⟩
        cases heq
        rw [hends] at hok
        cases hok
    | ok ends =>
      simp only [hends, true_iff]
      exact ⟨now, pair, day, cutoff, ends, rfl, hends⟩

theorem change_ok_iff {cooldownSeconds : ℕ} {symbolPairs : List (Symbol × Pair)}
    {mutation : Mutation} {state : RiskState} :
    (mutation.change cooldownSeconds symbolPairs state).1 = .ok () ↔
      mutation.Readable cooldownSeconds symbolPairs := by
  cases mutation with
  | setGlobalPause reason => exact ⟨fun _ => trivial, fun _ => rfl⟩
  | clearGlobalPause => exact ⟨fun _ => trivial, fun _ => rfl⟩
  | record signal result now =>
    simp only [Mutation.change, RiskState.record, Mutation.Readable]
    cases signal.pair <;> cases signal.signalId <;> simp
  | recordStopout symbol eventTime wall =>
    simp only [Mutation.change, Mutation.Readable, recordStopout_ok_iff, stopoutOf_ok_iff]
    constructor
    · rintro ⟨now, pair, day, cutoff, ends, ⟨hnow, hpair, hday, earlier, hearlier, -⟩, hends⟩
      have hin := Instant.day_ok_iff.mp ⟨day, hday⟩
      have hlo := Instant.add_ok_iff.mp ⟨earlier, hearlier⟩
      have hhi := Instant.add_ok_iff.mp ⟨ends, hends⟩
      refine ⟨now, hnow, ?_, hin, ?_, hhi.2⟩
      · rw [hpair]
        rfl
      · omega
    · rintro ⟨now, hnow, hpair, hin, hlo, hhi⟩
      have hvalid := now.valid
      obtain ⟨pair, hpair⟩ := Option.isSome_iff_exists.mp hpair
      obtain ⟨day, hday⟩ := Instant.day_ok_iff.mpr hin
      obtain ⟨earlier, hearlier⟩ : ∃ earlier, now.add (-14 * 86400000000) = .ok earlier := by
        apply Instant.add_ok_iff.mpr
        omega
      obtain ⟨ends, hends⟩ : ∃ ends, now.add (cooldownSeconds * 1000000) = .ok ends := by
        apply Instant.add_ok_iff.mpr
        omega
      exact ⟨now, pair, day, earlier.localDay, ends, ⟨hnow, hpair, hday, earlier, hearlier, rfl⟩,
        hends⟩

/-! ### Runs of mutations -/

structure Step where
  mutation : Mutation
  faults : Faults := {}
  deriving DecidableEq

namespace Guard

/-- The mutation reached the SQLite commit, and that failed. -/
def CommitFailed (g : Guard) (step : Step) : Prop :=
  (step.mutation.change g.cooldownSeconds g.data.symbolPairs g.memory).1 = .ok () ∧
    step.faults.commit.isSome

/-- What a mutation promises: memory is what SQLite holds, and it raises exactly when the commit
failed. -/
def Atomic (g : Guard) (step : Step) : Prop :=
  (g.mutate step.mutation step.faults).2.memory = (g.mutate step.mutation step.faults).2.sqlite ∧
    ((∃ e, (g.mutate step.mutation step.faults).1 = .error e) ↔ g.CommitFailed step)

/-- The guard after some mutations; what each of them raised has been handled. -/
def after (g : Guard) (steps : List Step) : Guard :=
  steps.foldl (fun g step => (g.mutate step.mutation step.faults).2) g

end Guard

/-- The mutation can be read, and the projection's directory is there unless nothing was
committed. -/
def Step.Sound (cooldownSeconds : ℕ) (symbolPairs : List (Symbol × Pair)) (step : Step) : Prop :=
  step.mutation.Readable cooldownSeconds symbolPairs ∧
    (step.faults.mkdir = none ∨ step.faults.commit.isSome)

namespace Guard
variable {g : Guard} {step : Step}

theorem mutate_config (g : Guard) (mutation : Mutation) (faults : Faults) :
    (g.mutate mutation faults).2.cooldownSeconds = g.cooldownSeconds ∧
      (g.mutate mutation faults).2.data.symbolPairs = g.data.symbolPairs := by
  unfold mutate save writeProjection
  split
  · exact ⟨rfl, rfl⟩
  · cases faults.commit with
    | some e => exact ⟨rfl, rfl⟩
    | none =>
      cases faults.mkdir with
      | some e => exact ⟨rfl, rfl⟩
      | none => cases faults.write <;> exact ⟨rfl, rfl⟩

theorem atomic_iff (hsync : g.memory = g.sqlite) :
    g.Atomic step ↔ step.Sound g.cooldownSeconds g.data.symbolPairs := by
  unfold Atomic CommitFailed Step.Sound
  have hreadable : (step.mutation.change g.cooldownSeconds g.data.symbolPairs g.memory).1 = .ok () ↔
      step.mutation.Readable g.cooldownSeconds g.data.symbolPairs := change_ok_iff
  rw [← hreadable]
  unfold mutate save writeProjection
  cases hchange : step.mutation.change g.cooldownSeconds g.data.symbolPairs g.memory with
  | mk raised memory =>
    cases raised with
    | error e => simp
    | ok _ =>
      cases step.faults.commit with
      | some e => simp [rollBack, hsync]
      | none =>
        cases step.faults.mkdir with
        | some e => simp
        | none => cases step.faults.write <;> simp

theorem Atomic.synced (h : g.Atomic step) :
    (g.mutate step.mutation step.faults).2.memory = (g.mutate step.mutation step.faults).2.sqlite :=
  h.1

/-- From a guard that holds what SQLite holds, over every run of mutations with any failures: each
one commits atomically if and only if each of them can be read and none loses the projection's
directory after its commit. -/
theorem commits_atomic_iff (g : Guard) (steps : List Step) (hsync : g.memory = g.sqlite) :
    (∀ before step later, steps = before ++ step :: later → (g.after before).Atomic step) ↔
      ∀ step ∈ steps, step.Sound g.cooldownSeconds g.data.symbolPairs := by
  induction steps generalizing g with
  | nil =>
    constructor
    · intro _ step hstep
      cases hstep
    · intro _ before step later hsplit
      simp at hsplit
  | cons first rest ih =>
    obtain ⟨hcooldown, hpairs⟩ := g.mutate_config first.mutation first.faults
    have hrest : (∀ before step later, first :: rest = before ++ step :: later →
          (g.after before).Atomic step) ↔
        g.Atomic first ∧ ∀ before step later, rest = before ++ step :: later →
          ((g.mutate first.mutation first.faults).2.after before).Atomic step := by
      constructor
      · intro h
        constructor
        · exact h [] first rest rfl
        · intro before step later hsplit
          exact h (first :: before) step later (by rw [hsplit, List.cons_append])
      · rintro ⟨hfirst, hlater⟩ before step later hsplit
        cases before with
        | nil =>
          cases hsplit
          exact hfirst
        | cons head before =>
          obtain ⟨hhead, htail⟩ := List.cons_eq_cons.mp hsplit
          subst hhead
          exact hlater before step later htail
    rw [hrest, List.forall_mem_cons]
    constructor
    · rintro ⟨hfirst, hlater⟩
      have := (ih _ hfirst.synced).mp hlater
      rw [hcooldown, hpairs] at this
      exact ⟨(atomic_iff hsync).mp hfirst, this⟩
    · rintro ⟨hfirst, hlater⟩
      have hatomic := (atomic_iff hsync).mpr hfirst
      refine ⟨hatomic, (ih _ hatomic.synced).mpr ?_⟩
      rw [hcooldown, hpairs]
      exact hlater

end Guard

/-- A pause, and its end, whose commit fails. -/
def pauseStep : Step := { mutation := .setGlobalPause "reconcile-required" }
def clearStep : Step := {
  mutation := .clearGlobalPause
  faults := { commit := some { kind := .runtime }, mkdir := some { kind := .runtime } } }

theorem commits_atomic_iff_paused :
    (Guard.after { memory := {}, sqlite := {} } [pauseStep]).Atomic clearStep := by
  have hsound : ∀ step ∈ [pauseStep, clearStep], step.Sound 60 [] := by
    intro step hstep
    obtain rfl | rfl : step = pauseStep ∨ step = clearStep := by simpa using hstep
    · exact ⟨trivial, .inl rfl⟩
    · exact ⟨trivial, .inr rfl⟩
  exact (Guard.commits_atomic_iff { memory := {}, sqlite := {} } [pauseStep, clearStep] rfl).mpr
    hsound [pauseStep] clearStep [] rfl

/-- The pause is committed and the projection's directory cannot be made: memory goes back to no
pause, and the error is that of a commit. -/
theorem commits_atomic_fails :
    let g : Guard := { memory := {}, sqlite := {} }
    let lost : Faults := { mkdir := some { kind := .runtime } }
    let left := (g.mutate (.setGlobalPause "reconcile-required") lost).2
    g.memory = g.sqlite ∧ left.sqlite.globalPause = "reconcile-required" ∧
      left.memory.globalPause = "" ∧
      ¬g.Atomic { mutation := .setGlobalPause "reconcile-required", faults := lost } := by
  refine ⟨rfl, rfl, rfl, ?_⟩
  rw [Guard.atomic_iff rfl]
  rintro ⟨-, hmkdir | hcommit⟩
  · cases hmkdir
  · cases hcommit

end SpotSidecar.Risk
