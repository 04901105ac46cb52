import SpotSidecar.Adapter.Requests
import SpotSidecar.Risk.Guard

/-! The gate of the risk guard: what it admits of a signal, and what it remembers of all that was
committed before. -/
namespace SpotSidecar.Risk
open Checks (refuseIf refuseIf_eq_ok orRefuse orRefuse_eq_ok)

/-! ### Lookups -/

section Lookup
variable {κ β : Type} [DecidableEq κ]

theorem lookup_cons_ite (key : κ) (value : β) (rest : List (κ × β)) (other : κ) :
    ((key, value) :: rest).lookup other =
      if other = key then some value else rest.lookup other := by
  rw [List.lookup_cons]
  by_cases h : other = key
  · rw [beq_iff_eq.mpr h, if_pos h]
  · rw [beq_eq_false_iff_ne.mpr h, if_neg h]

theorem lookup_map_assign (mapping : List (κ × β)) (key : κ) (value : β) (other : κ) :
    (mapping.map fun entry => if entry.1 = key then (key, value) else entry).lookup other =
      if other = key then
        if mapping.any (fun entry => entry.1 = key) then some value else none
      else mapping.lookup other := by
  induction mapping with
  | nil => simp
  | cons entry rest ih =>
    obtain ⟨k, v⟩ := entry
    rw [List.map_cons, List.any_cons]
    by_cases hk : k = key
    · subst hk
      rw [if_pos rfl, lookup_cons_ite, lookup_cons_ite, ih]
      simp only [decide_true, Bool.true_or, if_true]
      split <;> rfl
    · rw [if_neg hk, lookup_cons_ite, lookup_cons_ite, ih, decide_eq_false hk, Bool.false_or]
      by_cases hother : other = key
      · subst hother
        rw [if_neg (Ne.symm hk), if_pos rfl, if_pos rfl]
      · rw [if_neg hother, if_neg hother]

theorem lookup_assign (mapping : List (κ × β)) (key : κ) (value : β) (other : κ) :
    (assign mapping key value).lookup other =
      if other = key then some value else mapping.lookup other := by
  unfold assign
  split
  · next hany => rw [lookup_map_assign, if_pos hany]
  · next hany =>
    have hnone : mapping.lookup key = none := by
      rw [List.lookup_eq_none_iff]
      intro entry hentry
      have hne : entry.1 ≠ key := by
        intro heq
        exact hany (List.any_eq_true.mpr ⟨entry, hentry, decide_eq_true heq⟩)
      simpa using Ne.symm hne
    rw [List.lookup_append, lookup_cons_ite, List.lookup_nil]
    split
    · next hother => rw [hother, hnone, Option.none_or]
    · rw [Option.or_none]

theorem lookup_filter_key (keep : κ → Bool) (mapping : List (κ × β)) {key : κ}
    (h : keep key = true) :
    (mapping.filter fun entry => keep entry.1).lookup key = mapping.lookup key := by
  induction mapping with
  | nil => rfl
  | cons entry rest ih =>
    obtain ⟨k, v⟩ := entry
    by_cases hkeep : keep k = true
    · rw [List.filter_cons_of_pos (by exact hkeep), lookup_cons_ite, lookup_cons_ite, ih]
    · have hk : key ≠ k := by
        rintro rfl
        exact hkeep h
      rw [List.filter_cons_of_neg (by exact hkeep), ih, lookup_cons_ite, if_neg hk]

end Lookup

/-! ### The gate -/

structure Limits where
  maxStopoutsPair : ℕ := 3
  maxStopoutsGlobal : ℕ := 10
  maxAgeSeconds : ℕ := 180
  maxCandleAgeSeconds : ℕ := 180
  deriving DecidableEq

structure Proposal extends RecordedSignal where
  generatedAt : Option String
  pairStateHash : Option String
  deriving DecidableEq

/-- The pair and the token of a signal that has both. -/
def RecordedSignal.named (signal : RecordedSignal) : Option (Pair × String) := do
  let pair ← signal.pair
  let token ← signal.signalId.filter (· ≠ "")
  return (pair, token)

def Instant.utcDay (t : Instant) : ℤ := t.micros / 86400000000

/-- Seconds are compared in microseconds. -/
def Instant.aged (now t : Instant) (seconds : ℕ) : Prop :=
  (seconds : ℤ) * 1000000 < now.micros - t.micros

instance (now t : Instant) (seconds : ℕ) : Decidable (now.aged t seconds) :=
  inferInstanceAs (Decidable (_ < _))

def Instant.ahead (now t : Instant) : Prop := now.micros - t.micros < -30 * 1000000

instance (now t : Instant) : Decidable (now.ahead t) := inferInstanceAs (Decidable (_ < _))

def RiskState.pairState (state : RiskState) (pair : Pair) : PairState :=
  (state.pairs.lookup pair).getD {}

def RiskState.dayState (state : RiskState) (day : ℤ) : DayState := (state.daily.lookup day).getD {}

def DayState.pairStopouts (day : DayState) (pair : Pair) : ℕ := (day.pairs.lookup pair).getD 0

/-- `allow`: what it refuses a signal for, if anything. `dt` is `_dt` of a text, and `seen` what
`signal_seen` says of the token. -/
def Guard.allow (g : Guard) (limits : Limits) (dt : String → Option Instant) (now : Instant)
    (signal : Proposal) (activePair : Pair) (pairStateHash : String) (seen : Bool) :
    Except String Unit := do
  refuseIf (g.memory.globalPause ≠ "") ("global risk pause: " ++ g.memory.globalPause)
  let (pair, token) ← orRefuse signal.named "missing pair or signal token"
  let generated ← orRefuse (signal.generatedAt.bind dt) "invalid signal time"
  refuseIf (now.aged generated limits.maxAgeSeconds) "stale signal"
  refuseIf (now.ahead generated) "signal generated_at is in the future"
  refuseIf (pair ≠ activePair) "signal pair is not the active BTC pair"
  refuseIf (pairStateHash = "" ∨ signal.pairStateHash ≠ some pairStateHash)
    "active pair state hash mismatch"
  refuseIf (seen = true) "duplicate signal token"
  let candle ← orRefuse (signal.candleTime.bind dt) "invalid candle timestamp"
  refuseIf (now.aged candle limits.maxCandleAgeSeconds) "stale signal candle"
  refuseIf (now.ahead candle) "signal candle is in the future"
  let pairState := g.memory.pairState pair
  refuseIf (pairState.signalId = some token) "duplicate signal token"
  refuseIf (pairState.candleTime = signal.candleTime) "same-candle re-entry blocked"
  refuseIf (∃ stopout ∈ pairState.lastStopoutTime, candle.micros ≤ stopout.micros)
    "signal candle is not newer than stop-loss exit"
  refuseIf (∃ ends ∈ pairState.cooldownUntil, now.micros < ends.micros) "pair cooldown active"
  let daily := g.memory.dayState now.utcDay
  refuseIf (limits.maxStopoutsGlobal ≤ daily.globalStopouts) "global daily stop-loss guard active"
  refuseIf (limits.maxStopoutsPair ≤ daily.pairStopouts pair)
    "maximum stop-outs for pair reached today"

/-! ### Protective exits -/

/-- Why an exit counts as a stop-out or not. -/
inductive Verdict where
  | averageUnknown
  | thresholdUnknown
  | aboveBreakEven (exitAverage threshold : ℚ)
  | netLoss (exitAverage threshold : ℚ)
  deriving DecidableEq

/-- `quote / executed`; a quote that is no number is compared further on, and raises there. -/
def exitAverage (e : Event) : Except Exc (Option ℚ) :=
  match e.cumulative.decimalOrZero, e.quote.decimalOrZero with
  | .ok (some executed), .ok (some quote) =>
    .ok (if 0 < executed then some (quote / executed) else none)
  | .ok (some executed), .ok none =>
    if 0 < executed then .error { kind := .arithmetic } else .ok none
  | _, _ => .ok none

/-- The percentages that `_classify_protective_exit` reads. -/
structure Costs where
  feePctPerSide : ℚ := 1 / 10
  breakEvenSlippagePct : ℚ := 1 / 20
  deriving DecidableEq

/-- `_classify_protective_exit`; `entryAverage` is what the store says of the pair's latest
trade. -/
def classifyProtectiveExit (costs : Costs) (entryAverage : Option ℚ) (e : Event) :
    Except Exc Verdict := do
  let exit ← exitAverage e
  match exit, entryAverage with
  | some exit, some entry =>
    match feeAdjustedBreakEven entry costs.feePctPerSide costs.feePctPerSide
        costs.breakEvenSlippagePct with
    | .error _ => return .thresholdUnknown
    | .ok threshold =>
      return if threshold < exit then .aboveBreakEven exit threshold else .netLoss exit threshold
  | _, _ => return .averageUnknown

def Verdict.isLoss : Verdict → Bool
  | .aboveBreakEven _ _ => false
  | _ => true

/-- The whole fill of a stop-type SELL. -/
def stopFilled (e : Event) : Bool :=
  e.eventType = .executionReport && e.side = .sell && e.status = .filled &&
    (e.orderType = .stopLoss || e.orderType = .stopLossLimit)

/-- `event.get("E")` -/
def reportedTime (e : Event) : EventTime :=
  match e.eventTime with
  | some ms => .number ms
  | none => .missing

/-- What `on_exchange_event` records of an event. -/
def heard (costs : Costs) (entryAverage : Option ℚ) (e : Event) (wall : Instant) :
    Except Exc (Option Mutation) :=
  if stopFilled e then
    (classifyProtectiveExit costs entryAverage e).map fun verdict =>
      if verdict.isLoss then some (.recordStopout (e.symbol.getD "") (reportedTime e) wall)
      else none
  else .ok none

/-! ### Lives of the guard -/

/-- What happens to the guard: a call of the sidecar, an event of the exchange with the entry
average the store has then, a restart, and a crash between the commit of a mutation and the write
of its projection. -/
inductive Turn where
  | mutate (step : Step)
  | event (e : Event) (entryAverage : Option ℚ) (wall : Instant) (faults : Faults)
  | restart
  | crash (mutation : Mutation)

/-- The mutation a turn asks for. -/
def Turn.step? (costs : Costs) : Turn → Option Step
  | .mutate step => some step
  | .event e entryAverage wall faults =>
    match heard costs entryAverage e wall with
    | .ok (some mutation) => some { mutation, faults }
    | _ => none
  | .restart => none
  | .crash mutation => some { mutation }

/-- The guard of a new installation. -/
def Guard.fresh (data : SidecarData) (cooldownSeconds : ℕ) : Guard where
  memory := {}
  sqlite := {}
  data := data
  saved := data
  cooldownSeconds := cooldownSeconds

/-- `_load_state` of the authoritative row. -/
def Guard.reload (g : Guard) : Guard :=
  { g with memory := g.sqlite, projection := some g.sqlite, data := g.saved }

/-- The commit of a mutation, and a restart. -/
def Guard.crash (g : Guard) (mutation : Mutation) : Guard :=
  match mutation.change g.cooldownSeconds g.data.symbolPairs g.memory with
  | (.error _, _) => g.reload
  | (.ok (), state) => { g with sqlite := state }.reload

def Guard.onExchangeEvent (costs : Costs) (g : Guard) (e : Event) (entryAverage : Option ℚ)
    (wall : Instant) (faults : Faults) : Except Exc Unit × Guard :=
  match heard costs entryAverage e wall with
  | .error error => (.error error, g)
  | .ok none => (.ok (), g)
  | .ok (some mutation) => g.mutate mutation faults

def Guard.turn (costs : Costs) (g : Guard) : Turn → Guard
  | .mutate step => (g.mutate step.mutation step.faults).2
  | .event e entryAverage wall faults => (g.onExchangeEvent costs e entryAverage wall faults).2
  | .restart => g.reload
  | .crash mutation => g.crash mutation

def Guard.live (costs : Costs) (g : Guard) (turns : List Turn) : Guard :=
  turns.foldl (Guard.turn costs) g

/-- The mutations of a life whose commit did not fail, in order. -/
def committed (costs : Costs) (turns : List Turn) : List Mutation :=
  ((turns.filterMap (Turn.step? costs)).filter (·.faults.commit = none)).map (·.mutation)

/-! ### What the committed mutations say -/

structure Stopout where
  time : Instant
  pair : Pair
  day : ℤ
  cutoff : ℤ
  deriving DecidableEq

def Mutation.stopout? (symbolPairs : List (Symbol × Pair)) : Mutation → Option Stopout
  | .recordStopout symbol eventTime wall =>
    match stopoutOf symbolPairs symbol eventTime wall with
    | .ok (time, pair, day, cutoff) => some { time, pair, day, cutoff }
    | .error _ => none
  | _ => none

def Mutation.pause? : Mutation → Option String
  | .setGlobalPause reason => some reason
  | .clearGlobalPause => some ""
  | _ => none

def Mutation.recorded? (pair : Pair) : Mutation → Option RecordedSignal
  | .record signal _ _ => if signal.pair = some pair then some signal else none
  | _ => none

section History
variable (symbolPairs : List (Symbol × Pair)) (history : List Mutation)

def stopouts : List Stopout := history.filterMap (Mutation.stopout? symbolPairs)

def pauseAfter : String := (history.filterMap Mutation.pause?).getLastD ""

/-- The last signal of a pair that was recorded. -/
def lastRecorded (pair : Pair) : Option RecordedSignal :=
  (history.filterMap (Mutation.recorded? pair)).getLast?

/-- The last stop-out of a pair that was counted. -/
def lastStopout (pair : Pair) : Option Stopout :=
  ((stopouts symbolPairs history).filter (·.pair = pair)).getLast?

def stopoutsOn (day : ℤ) : ℕ := (stopouts symbolPairs history).countP (·.day = day)

def pairStopoutsOn (day : ℤ) (pair : Pair) : ℕ :=
  (stopouts symbolPairs history).countP fun s => s.day = day ∧ s.pair = pair

/-- No stop-out since was two weeks ahead of the day. -/
def Retained (day : ℤ) : Prop := ∀ s ∈ stopouts symbolPairs history, s.cutoff ≤ day

/-- The guard's state says what the committed mutations say. -/
structure Tracks (cooldownSeconds : ℕ) (state : RiskState) : Prop where
  pause : state.globalPause = pauseAfter history
  signal : ∀ pair, (state.pairState pair).signalId =
    (lastRecorded history pair).bind (·.signalId)
  candle : ∀ pair, (state.pairState pair).candleTime =
    (lastRecorded history pair).bind (·.candleTime)
  stopout : ∀ pair, (state.pairState pair).lastStopoutTime =
    (lastStopout symbolPairs history pair).map (·.time)
  cooldown : ∀ pair, ((state.pairState pair).cooldownUntil).map (·.micros) =
    (lastStopout symbolPairs history pair).map fun s =>
      s.time.micros + (cooldownSeconds : ℤ) * 1000000
  count : ∀ day, Retained symbolPairs history day →
    (state.dayState day).globalStopouts = stopoutsOn symbolPairs history day
  pairCount : ∀ day pair, Retained symbolPairs history day →
    (state.dayState day).pairStopouts pair = pairStopoutsOn symbolPairs history day pair

end History

section Append
variable {symbolPairs : List (Symbol × Pair)} (history : List Mutation) (m : Mutation)

theorem pauseAfter_append : pauseAfter (history ++ [m]) = m.pause?.getD (pauseAfter history) := by
  unfold pauseAfter
  rw [List.filterMap_append]
  cases h : m.pause? with
  | none => simp [h]
  | some reason => simp [h]

theorem lastRecorded_append (pair : Pair) :
    lastRecorded (history ++ [m]) pair = (m.recorded? pair).or (lastRecorded history pair) := by
  unfold lastRecorded
  rw [List.filterMap_append, List.getLast?_append]
  cases h : m.recorded? pair with
  | none => simp [h]
  | some signal => simp [h]

theorem stopouts_append :
    stopouts symbolPairs (history ++ [m]) =
      stopouts symbolPairs history ++ (m.stopout? symbolPairs).toList := by
  unfold stopouts
  rw [List.filterMap_append]
  cases h : m.stopout? symbolPairs <;> simp [h]

variable {history m}

theorem lastStopout_append_of_none (h : m.stopout? symbolPairs = none) (pair : Pair) :
    lastStopout symbolPairs (history ++ [m]) pair = lastStopout symbolPairs history pair := by
  simp [lastStopout, stopouts_append, h]

theorem lastStopout_append_of_some {s : Stopout} (h : m.stopout? symbolPairs = some s)
    (pair : Pair) :
    lastStopout symbolPairs (history ++ [m]) pair =
      if s.pair = pair then some s else lastStopout symbolPairs history pair := by
  unfold lastStopout
  rw [stopouts_append, h, Option.toList_some, List.filter_append]
  by_cases hpair : s.pair = pair
  · simp [hpair]
  · simp [hpair]

theorem stopoutsOn_append_of_some {s : Stopout} (h : m.stopout? symbolPairs = some s) (day : ℤ) :
    stopoutsOn symbolPairs (history ++ [m]) day =
      stopoutsOn symbolPairs history day + if s.day = day then 1 else 0 := by
  unfold stopoutsOn
  rw [stopouts_append, h, Option.toList_some, List.countP_append, List.countP_singleton]
  simp

theorem pairStopoutsOn_append_of_some {s : Stopout} (h : m.stopout? symbolPairs = some s)
    (day : ℤ) (pair : Pair) :
    pairStopoutsOn symbolPairs (history ++ [m]) day pair =
      pairStopoutsOn symbolPairs history day pair +
        if s.day = day ∧ s.pair = pair then 1 else 0 := by
  unfold pairStopoutsOn
  rw [stopouts_append, h, Option.toList_some, List.countP_append, List.countP_singleton]
  simp

theorem Retained.of_append {day : ℤ} (h : Retained symbolPairs (history ++ [m]) day) :
    Retained symbolPairs history day := by
  intro s hs
  apply h
  rw [stopouts_append]
  exact List.mem_append_left _ hs

theorem Retained.cutoff_le {day : ℤ} (h : Retained symbolPairs (history ++ [m]) day) {s : Stopout}
    (hs : m.stopout? symbolPairs = some s) : s.cutoff ≤ day := by
  apply h
  rw [stopouts_append, hs]
  exact List.mem_append_right _ (List.mem_singleton_self s)

end Append

/-! ### One mutation -/

theorem pairState_assign (state : RiskState) (pair : Pair) (value : PairState) (other : Pair) :
    RiskState.pairState { state with pairs := assign state.pairs pair value } other =
      if other = pair then value else state.pairState other := by
  unfold RiskState.pairState
  rw [lookup_assign]
  split <;> rfl

section Step
variable {symbolPairs : List (Symbol × Pair)} {history : List Mutation} {cooldownSeconds : ℕ}
  {state : RiskState}

/-- A mutation that counts no stop-out leaves the stop-outs as they were. -/
theorem Tracks.keep_stopouts (h : Tracks symbolPairs history cooldownSeconds state) {m : Mutation}
    (hm : m.stopout? symbolPairs = none) {state' : RiskState}
    (hdaily : state'.daily = state.daily)
    (htimes : ∀ pair, (state'.pairState pair).lastStopoutTime =
        (state.pairState pair).lastStopoutTime ∧
      (state'.pairState pair).cooldownUntil = (state.pairState pair).cooldownUntil)
    (hpause : state'.globalPause = pauseAfter (history ++ [m]))
    (hsignal : ∀ pair, (state'.pairState pair).signalId =
        (lastRecorded (history ++ [m]) pair).bind (·.signalId) ∧
      (state'.pairState pair).candleTime =
        (lastRecorded (history ++ [m]) pair).bind (·.candleTime)) :
    Tracks symbolPairs (history ++ [m]) cooldownSeconds state' := by
  have hstopouts : stopouts symbolPairs (history ++ [m]) = stopouts symbolPairs history := by
    rw [stopouts_append, hm, Option.toList_none, List.append_nil]
  have hday : ∀ day, state'.dayState day = state.dayState day := by
    intro day
    unfold RiskState.dayState
    rw [hdaily]
  constructor
  · exact hpause
  · exact fun pair => (hsignal pair).1
  · exact fun pair => (hsignal pair).2
  · intro pair
    rw [(htimes pair).1, h.stopout, lastStopout_append_of_none hm]
  · intro pair
    rw [(htimes pair).2, h.cooldown, lastStopout_append_of_none hm]
  · intro day hretained
    rw [hday, h.count day hretained.of_append, stopoutsOn, stopoutsOn, hstopouts]
  · intro day pair hretained
    rw [hday, h.pairCount day pair hretained.of_append, pairStopoutsOn, pairStopoutsOn, hstopouts]

theorem Tracks.setPause (h : Tracks symbolPairs history cooldownSeconds state) {m : Mutation}
    {reason : String} (hm : m.stopout? symbolPairs = none) (hpause : m.pause? = some reason)
    (hrecorded : ∀ pair, m.recorded? pair = none) :
    Tracks symbolPairs (history ++ [m]) cooldownSeconds { state with globalPause := reason } := by
  refine h.keep_stopouts hm ?_ ?_ ?_ ?_
  · rfl
  · exact fun pair => ⟨rfl, rfl⟩
  · rw [pauseAfter_append, hpause]
    rfl
  · intro pair
    rw [lastRecorded_append, hrecorded, Option.none_or]
    exact ⟨h.signal pair, h.candle pair⟩

theorem Tracks.record (h : Tracks symbolPairs history cooldownSeconds state)
    {signal : RecordedSignal} {result : String} {now : Instant} {state' : RiskState}
    (hok : state.record signal result now = (.ok (), state')) :
    Tracks symbolPairs (history ++ [.record signal result now]) cooldownSeconds state' := by
  unfold RiskState.record at hok
  cases hpair : signal.pair with
  | none =>
    rw [hpair] at hok
    cases hok
  | some pair =>
    cases hid : signal.signalId with
    | none =>
      rw [hpair, hid] at hok
      cases hok
    | some token =>
      rw [hpair, hid] at hok
      obtain ⟨-, rfl⟩ := Prod.mk.inj hok
      have hnone : (Mutation.record signal result now).stopout? symbolPairs = none := rfl
      refine h.keep_stopouts hnone ?_ ?_ ?_ ?_
      · rfl
      · intro other
        rw [pairState_assign]
        split
        · next heq =>
          rw [heq]
          exact ⟨rfl, rfl⟩
        · exact ⟨rfl, rfl⟩
      · rw [pauseAfter_append]
        exact h.pause
      · intro other
        have hrecorded : (Mutation.record signal result now).recorded? other =
            if other = pair then some signal else none := by
          simp only [Mutation.recorded?, hpair, Option.some.injEq, eq_comm]
        rw [pairState_assign, lastRecorded_append, hrecorded]
        split
        · exact ⟨hid.symm, rfl⟩
        · exact ⟨h.signal other, h.candle other⟩

theorem stopout?_of_ok {symbol : Symbol} {eventTime : EventTime} {wall time : Instant} {pair : Pair}
    {day cutoff : ℤ} (h : stopoutOf symbolPairs symbol eventTime wall =
      .ok (time, pair, day, cutoff)) :
    (Mutation.recordStopout symbol eventTime wall).stopout? symbolPairs =
      some { time, pair, day, cutoff } := by
  simp only [Mutation.stopout?, h]

theorem dayState_countStopout (state : RiskState) (pair : Pair) (day cutoff : ℤ) (now : Instant)
    {other : ℤ} (h : cutoff ≤ other) :
    (state.countStopout pair day cutoff now).dayState other =
      if other = day then {
        globalStopouts := (state.dayState other).globalStopouts + 1
        pairs := assign (state.dayState other).pairs pair
          ((state.dayState other).pairStopouts pair + 1) }
      else state.dayState other := by
  have hkept : (state.daily.filter fun entry => decide (cutoff ≤ entry.1)).lookup other =
      state.daily.lookup other :=
    lookup_filter_key (fun day => decide (cutoff ≤ day)) state.daily (decide_eq_true h)
  unfold RiskState.countStopout RiskState.dayState
  rw [lookup_assign, hkept]
  split
  · next heq =>
    subst heq
    rw [hkept]
    rfl
  · rfl

theorem pairStopouts_assign (day : DayState) (pair : Pair) (count : ℕ) (other : Pair) (n : ℕ) :
    DayState.pairStopouts { globalStopouts := n, pairs := assign day.pairs pair count } other =
      if other = pair then count else day.pairStopouts other := by
  unfold DayState.pairStopouts
  rw [lookup_assign]
  split <;> rfl

theorem Tracks.recordStopout (h : Tracks symbolPairs history cooldownSeconds state)
    {symbol : Symbol} {eventTime : EventTime} {wall : Instant} {state' : RiskState}
    (hok : state.recordStopout cooldownSeconds symbolPairs symbol eventTime wall =
      (.ok (), state')) :
    Tracks symbolPairs (history ++ [.recordStopout symbol eventTime wall]) cooldownSeconds
      state' := by
  unfold RiskState.recordStopout at hok
  cases hread : stopoutOf symbolPairs symbol eventTime wall with
  | error e =>
    rw [hread] at hok
    cases hok
  | ok read =>
    obtain ⟨time, pair, day, cutoff⟩ := read
    have hstopout := stopout?_of_ok hread
    cases hends : time.add (cooldownSeconds * 1000000) with
    | error e =>
      simp only [hread, hends] at hok
      cases hok
    | ok ends =>
      simp only [hread, hends] at hok
      obtain ⟨-, rfl⟩ := Prod.mk.inj hok
      have hmicros : ends.micros = time.micros + (cooldownSeconds : ℤ) * 1000000 := by
        unfold Instant.add at hends
        split at hends
        · cases hends
          rfl
        · cases hends
      -- Both changes of the pair's entry, as one.
      have hpairs : ∀ other, RiskState.pairState
          { state.countStopout pair day cutoff time with
            pairs := assign (state.countStopout pair day cutoff time).pairs pair
              { ((state.countStopout pair day cutoff time).pairs.lookup pair).getD {} with
                cooldownUntil := some ends } } other =
          if other = pair then { state.pairState pair with
            lastStopoutTime := some time
            cooldownUntil := some ends }
          else state.pairState other := by
        intro other
        have hcounted := pairState_assign state pair
          { state.pairState pair with lastStopoutTime := some time }
        rw [pairState_assign]
        split
        · have hself := hcounted pair
          rw [if_pos rfl] at hself
          unfold RiskState.countStopout
          exact congrArg (fun s : PairState => { s with cooldownUntil := some ends }) hself
        · next hother =>
          have hsame := hcounted other
          rw [if_neg hother] at hsame
          exact hsame
      constructor
      · rw [pauseAfter_append]
        exact h.pause
      · intro other
        rw [hpairs, lastRecorded_append]
        split
        · next heq =>
          subst heq
          exact h.signal other
        · exact h.signal other
      · intro other
        rw [hpairs, lastRecorded_append]
        split
        · next heq =>
          subst heq
          exact h.candle other
        · exact h.candle other
      · intro other
        rw [hpairs, lastStopout_append_of_some hstopout]
        by_cases heq : other = pair
        · rw [if_pos heq, if_pos heq.symm]
          rfl
        · rw [if_neg heq, if_neg (Ne.symm heq)]
          exact h.stopout other
      · intro other
        rw [hpairs, lastStopout_append_of_some hstopout]
        by_cases heq : other = pair
        · rw [if_pos heq, if_pos heq.symm, Option.map_some, Option.map_some, hmicros]
        · rw [if_neg heq, if_neg (Ne.symm heq)]
          exact h.cooldown other
      · intro other hretained
        have hcount := h.count other hretained.of_append
        rw [stopoutsOn_append_of_some hstopout, ← hcount]
        change ((state.countStopout pair day cutoff time).dayState other).globalStopouts = _
        rw [dayState_countStopout _ _ _ _ _ (hretained.cutoff_le hstopout)]
        by_cases heq : other = day
        · rw [if_pos heq, if_pos heq.symm]
        · rw [if_neg heq, if_neg (Ne.symm heq), add_zero]
      · intro other pair' hretained
        have hcount := h.pairCount other pair' hretained.of_append
        rw [pairStopoutsOn_append_of_some hstopout, ← hcount]
        change ((state.countStopout pair day cutoff time).dayState other).pairStopouts pair' = _
        rw [dayState_countStopout _ _ _ _ _ (hretained.cutoff_le hstopout)]
        by_cases heq : other = day
        · rw [if_pos heq, pairStopouts_assign]
          by_cases hpair : pair' = pair
          · rw [if_pos hpair, if_pos ⟨heq.symm, hpair.symm⟩, hpair]
          · rw [if_neg hpair, if_neg (fun hboth => hpair hboth.2.symm), add_zero]
        · rw [if_neg heq, if_neg (fun hboth => heq hboth.1.symm), add_zero]

/-- What was committed is what the state says, one mutation after another. -/
theorem Tracks.change (h : Tracks symbolPairs history cooldownSeconds state) {m : Mutation}
    {state' : RiskState} (hok : m.change cooldownSeconds symbolPairs state = (.ok (), state')) :
    Tracks symbolPairs (history ++ [m]) cooldownSeconds state' := by
  cases m with
  | setGlobalPause reason =>
    obtain ⟨-, rfl⟩ := Prod.mk.inj hok
    exact h.setPause rfl rfl fun _ => rfl
  | clearGlobalPause =>
    obtain ⟨-, rfl⟩ := Prod.mk.inj hok
    exact h.setPause rfl rfl fun _ => rfl
  | record signal result now => exact h.record hok
  | recordStopout symbol eventTime wall => exact h.recordStopout hok

end Step

/-! ### Whole lives -/

/-- Between its turns the guard holds what SQLite holds, and both say what was committed. -/
structure Guard.Follows (symbolPairs : List (Symbol × Pair)) (cooldownSeconds : ℕ)
    (history : List Mutation) (g : Guard) : Prop where
  synced : g.memory = g.sqlite
  cooldown : g.cooldownSeconds = cooldownSeconds
  pairs : g.data.symbolPairs = symbolPairs
  saved : g.saved.symbolPairs = symbolPairs
  tracks : Tracks symbolPairs history cooldownSeconds g.memory

section Life
variable {symbolPairs : List (Symbol × Pair)} {cooldownSeconds : ℕ} {history : List Mutation}
  {g : Guard}

theorem Guard.mutate_saved (hdata : g.data.symbolPairs = symbolPairs)
    (hsaved : g.saved.symbolPairs = symbolPairs) (mutation : Mutation) (faults : Faults) :
    (g.mutate mutation faults).2.saved.symbolPairs = symbolPairs := by
  have hback : ∀ (g' : Guard) prior, g'.data.symbolPairs = symbolPairs →
      g'.saved.symbolPairs = symbolPairs → (g'.rollBack faults prior).saved.symbolPairs =
        symbolPairs := by
    intro g' prior hdata hsaved
    unfold rollBack
    cases faults.save
    · exact hdata
    · exact hsaved
  unfold mutate save writeProjection
  split
  · exact hsaved
  · cases faults.commit with
    | some e => exact hback _ _ hdata hsaved
    | none =>
      cases faults.mkdir with
      | some e => exact hback _ _ hdata hsaved
      | none => cases faults.write <;> exact hsaved

/-- A readable mutation leaves the new state in memory if it was committed, and the old one
otherwise. -/
theorem Guard.mutate_memory {step : Step}
    (hsound : step.Sound g.cooldownSeconds g.data.symbolPairs) :
    (g.mutate step.mutation step.faults).2.memory =
      if step.faults.commit = none then
        (step.mutation.change g.cooldownSeconds g.data.symbolPairs g.memory).2
      else g.memory := by
  have hok : (step.mutation.change g.cooldownSeconds g.data.symbolPairs g.memory).1 = .ok () :=
    change_ok_iff.mpr hsound.1
  unfold mutate save writeProjection
  cases hchange : step.mutation.change g.cooldownSeconds g.data.symbolPairs g.memory with
  | mk raised state =>
    rw [hchange] at hok
    cases hok
    cases hcommit : step.faults.commit with
    | some e => simp [rollBack]
    | none =>
      have hmkdir : step.faults.mkdir = none := by
        obtain hmkdir | hsome := hsound.2
        · exact hmkdir
        · rw [hcommit] at hsome
          cases hsome
      rw [hmkdir]
      cases step.faults.write <;> rfl

theorem Guard.Follows.tracks_change (h : g.Follows symbolPairs cooldownSeconds history)
    {mutation : Mutation} (hreadable : mutation.Readable cooldownSeconds symbolPairs) :
    Tracks symbolPairs (history ++ [mutation]) cooldownSeconds
      (mutation.change g.cooldownSeconds g.data.symbolPairs g.memory).2 := by
  rw [h.cooldown, h.pairs]
  apply h.tracks.change
  exact Prod.ext (change_ok_iff.mpr hreadable) rfl

theorem Guard.Follows.mutate (h : g.Follows symbolPairs cooldownSeconds history) {step : Step}
    (hsound : step.Sound cooldownSeconds symbolPairs) :
    (g.mutate step.mutation step.faults).2.Follows symbolPairs cooldownSeconds
      (history ++ if step.faults.commit = none then [step.mutation] else []) := by
  have hown : step.Sound g.cooldownSeconds g.data.symbolPairs := by
    rw [h.cooldown, h.pairs]
    exact hsound
  obtain ⟨hcooldown, hpairs⟩ := g.mutate_config step.mutation step.faults
  refine ⟨((atomic_iff h.synced).mpr hown).synced, hcooldown.trans h.cooldown,
    hpairs.trans h.pairs, mutate_saved h.pairs h.saved _ _, ?_⟩
  rw [mutate_memory hown]
  split
  · exact h.tracks_change hsound.1
  · rw [List.append_nil]
    exact h.tracks

theorem Guard.Follows.reload (h : g.Follows symbolPairs cooldownSeconds history) :
    g.reload.Follows symbolPairs cooldownSeconds history := by
  have htracks := h.tracks
  rw [h.synced] at htracks
  exact ⟨rfl, h.cooldown, h.saved, h.saved, htracks⟩

theorem Guard.Follows.crash (h : g.Follows symbolPairs cooldownSeconds history)
    {mutation : Mutation} (hreadable : mutation.Readable cooldownSeconds symbolPairs) :
    (g.crash mutation).Follows symbolPairs cooldownSeconds (history ++ [mutation]) := by
  have htracks := h.tracks_change hreadable
  have hok : (mutation.change g.cooldownSeconds g.data.symbolPairs g.memory).1 = .ok () := by
    rw [h.cooldown, h.pairs]
    exact change_ok_iff.mpr hreadable
  unfold Guard.crash
  cases hchange : mutation.change g.cooldownSeconds g.data.symbolPairs g.memory with
  | mk raised state =>
    rw [hchange] at hok htracks
    cases hok
    exact ⟨rfl, h.cooldown, h.saved, h.saved, htracks⟩

theorem committed_of_none {costs : Costs} {turn : Turn} (h : turn.step? costs = none) :
    committed costs [turn] = [] := by
  simp [committed, h]

theorem committed_of_some {costs : Costs} {turn : Turn} {step : Step}
    (h : turn.step? costs = some step) :
    committed costs [turn] = if step.faults.commit = none then [step.mutation] else [] := by
  by_cases hcommit : step.faults.commit = none
  · simp [committed, h, hcommit]
  · simp [committed, h, hcommit]

/-- What one turn adds to the committed mutations. -/
theorem Guard.Follows.turn {costs : Costs} (h : g.Follows symbolPairs cooldownSeconds history)
    (turn : Turn) (hsound : ∀ step ∈ turn.step? costs, step.Sound cooldownSeconds symbolPairs) :
    (g.turn costs turn).Follows symbolPairs cooldownSeconds
      (history ++ committed costs [turn]) := by
  cases turn with
  | mutate step =>
    rw [committed_of_some rfl]
    exact h.mutate (hsound step rfl)
  | event e entryAverage wall faults =>
    have hturn : g.turn costs (.event e entryAverage wall faults) =
        (g.onExchangeEvent costs e entryAverage wall faults).2 := rfl
    rw [hturn]
    cases hheard : heard costs entryAverage e wall with
    | error error =>
      rw [committed_of_none (by simp only [Turn.step?, hheard]), List.append_nil]
      simpa only [onExchangeEvent, hheard] using h
    | ok mutation =>
      cases mutation with
      | none =>
        rw [committed_of_none (by simp only [Turn.step?, hheard]), List.append_nil]
        simpa only [onExchangeEvent, hheard] using h
      | some mutation =>
        have hstep : (Turn.event e entryAverage wall faults).step? costs =
            some { mutation, faults } := by
          simp only [Turn.step?, hheard]
        rw [committed_of_some hstep]
        simpa only [onExchangeEvent, hheard] using h.mutate (hsound _ hstep)
  | restart =>
    rw [committed_of_none rfl, List.append_nil]
    exact h.reload
  | crash mutation => exact h.crash (hsound { mutation } rfl).1

theorem committed_cons (costs : Costs) (turn : Turn) (turns : List Turn) :
    committed costs (turn :: turns) = committed costs [turn] ++ committed costs turns := by
  unfold committed
  rw [← List.map_append, ← List.filter_append, ← List.filterMap_append, List.singleton_append]

theorem Guard.Follows.live {costs : Costs} (turns : List Turn)
    (h : g.Follows symbolPairs cooldownSeconds history)
    (hsound : ∀ step ∈ turns.filterMap (Turn.step? costs), step.Sound cooldownSeconds symbolPairs) :
    (g.live costs turns).Follows symbolPairs cooldownSeconds
      (history ++ committed costs turns) := by
  induction turns generalizing g history with
  | nil =>
    rw [show committed costs [] = [] from rfl, List.append_nil]
    exact h
  | cons turn rest ih =>
    rw [committed_cons, ← List.append_assoc]
    apply ih (h.turn turn ?_)
    · intro step hstep
      apply hsound
      rw [List.mem_filterMap] at hstep ⊢
      obtain ⟨later, hlater, hread⟩ := hstep
      exact ⟨later, List.mem_cons_of_mem _ hlater, hread⟩
    · intro step hstep
      exact hsound step (List.mem_filterMap.mpr ⟨turn, List.mem_cons_self, hstep⟩)

theorem Guard.follows_fresh (data : SidecarData) (cooldownSeconds : ℕ) :
    (fresh data cooldownSeconds).Follows data.symbolPairs cooldownSeconds [] := by
  refine ⟨rfl, rfl, rfl, rfl, ?_⟩
  constructor
  · rfl
  · exact fun _ => rfl
  · exact fun _ => rfl
  · exact fun _ => rfl
  · exact fun _ => rfl
  · exact fun _ _ => rfl
  · exact fun _ _ _ => rfl

end Life

/-- The signal may be acted on, by the signal itself and the committed mutations alone. -/
structure Admissible (symbolPairs : List (Symbol × Pair)) (history : List Mutation)
    (cooldownSeconds : ℕ) (limits : Limits) (dt : String → Option Instant) (now : Instant)
    (signal : Proposal) (activePair : Pair) (pairStateHash : String) (seen : Bool) : Prop where
  unpaused : pauseAfter history = ""
  pair : signal.pair = some activePair
  hash : pairStateHash ≠ "" ∧ signal.pairStateHash = some pairStateHash
  unseen : seen = false
  generated : ∃ t, signal.generatedAt.bind dt = some t ∧
    ¬now.aged t limits.maxAgeSeconds ∧ ¬now.ahead t
  candle : ∃ t, signal.candleTime.bind dt = some t ∧
    ¬now.aged t limits.maxCandleAgeSeconds ∧ ¬now.ahead t ∧
      ∀ s ∈ lastStopout symbolPairs history activePair, s.time.micros < t.micros
  token : ∃ token, signal.signalId = some token ∧ token ≠ ""
  unrepeated : ∀ last ∈ lastRecorded history activePair,
    last.signalId ≠ signal.signalId ∧ last.candleTime ≠ signal.candleTime
  cooled : ∀ s ∈ lastStopout symbolPairs history activePair,
    s.time.micros + cooldownSeconds * 1000000 ≤ now.micros
  budget : stopoutsOn symbolPairs history now.utcDay < limits.maxStopoutsGlobal
  pairBudget : pairStopoutsOn symbolPairs history now.utcDay activePair < limits.maxStopoutsPair

/-! ### The gate over a life -/

theorem RecordedSignal.named_eq_some {signal : RecordedSignal} {pair : Pair} {token : String} :
    signal.named = some (pair, token) ↔
      signal.pair = some pair ∧ signal.signalId = some token ∧ token ≠ "" := by
  unfold RecordedSignal.named
  cases signal.pair with
  | none => simp
  | some own =>
    cases signal.signalId with
    | none => simp
    | some id =>
      by_cases hid : id = ""
      · subst hid
        simp only [Option.filter_some]
        constructor
        · intro h
          cases h
        · rintro ⟨-, htoken, hne⟩
          cases htoken
          exact absurd rfl hne
      · simp only [Option.filter_some, decide_eq_true hid, if_true]
        constructor
        · intro h
          cases h
          exact ⟨rfl, rfl, hid⟩
        · rintro ⟨hpair, htoken, -⟩
          cases hpair
          cases htoken
          rfl

section Allow
variable {symbolPairs : List (Symbol × Pair)} {history : List Mutation} {cooldownSeconds : ℕ}
  {g : Guard} {limits : Limits} {dt : String → Option Instant} {now : Instant} {signal : Proposal}
  {activePair : Pair} {pairStateHash : String} {seen : Bool}

theorem Tracks.unrepeated_iff (h : Tracks symbolPairs history cooldownSeconds g.memory)
    {pair : Pair} {token candle : String} :
    (g.memory.pairState pair).signalId ≠ some token ∧
        (g.memory.pairState pair).candleTime ≠ some candle ↔
      ∀ last ∈ lastRecorded history pair, last.signalId ≠ some token ∧
        last.candleTime ≠ some candle := by
  rw [h.signal, h.candle]
  cases lastRecorded history pair <;> simp

theorem Tracks.newer_iff (h : Tracks symbolPairs history cooldownSeconds g.memory)
    {pair : Pair} {candle : Instant} :
    (¬∃ stopout ∈ (g.memory.pairState pair).lastStopoutTime, candle.micros ≤ stopout.micros) ↔
      ∀ s ∈ lastStopout symbolPairs history pair, s.time.micros < candle.micros := by
  rw [h.stopout]
  cases lastStopout symbolPairs history pair <;> simp

theorem Tracks.cooled_iff (h : Tracks symbolPairs history cooldownSeconds g.memory)
    {pair : Pair} {now : Instant} :
    (¬∃ ends ∈ (g.memory.pairState pair).cooldownUntil, now.micros < ends.micros) ↔
      ∀ s ∈ lastStopout symbolPairs history pair,
        s.time.micros + (cooldownSeconds : ℤ) * 1000000 ≤ now.micros := by
  have hcooldown := h.cooldown pair
  cases hends : (g.memory.pairState pair).cooldownUntil with
  | none =>
    rw [hends] at hcooldown
    rw [Option.map_eq_none_iff.mp hcooldown.symm]
    simp
  | some ends =>
    rw [hends] at hcooldown
    obtain ⟨s, hs, hmicros⟩ := Option.map_eq_some_iff.mp hcooldown.symm
    rw [hs]
    simp [← hmicros]

/-- The gate, on a state that says what was committed. -/
theorem Tracks.allowed_iff (h : Tracks symbolPairs history cooldownSeconds g.memory)
    (hretained : Retained symbolPairs history now.utcDay) :
    g.allow limits dt now signal activePair pairStateHash seen = .ok () ↔
      Admissible symbolPairs history cooldownSeconds limits dt now signal activePair pairStateHash
        seen := by
  have hglobal := h.count now.utcDay hretained
  have hpair := h.pairCount now.utcDay activePair hretained
  simp only [Guard.allow, except_bind_eq_ok, refuseIf_eq_ok, orRefuse_eq_ok, exists_const,
    not_not, Prod.exists, RecordedSignal.named_eq_some]
  constructor
  · rintro ⟨hpause, pair, token, ⟨hsignal, htoken, hne⟩, generated, hgenerated, haged,
      hahead, hactive, hhash, hseen, candle, hcandle, hcandleAged, hcandleAhead, hid, htime,
      hnewer, hcooled,
      hbudget, hpairBudget⟩
    subst hactive
    rw [not_or, not_not] at hhash
    obtain ⟨text, htext, -⟩ := Option.bind_eq_some_iff.mp hcandle
    rw [htext] at htime
    exact {
      unpaused := h.pause.symm.trans hpause
      pair := hsignal
      hash := hhash
      unseen := Bool.eq_false_iff.mpr hseen
      generated := ⟨generated, hgenerated, haged, hahead⟩
      candle := ⟨candle, hcandle, hcandleAged, hcandleAhead, h.newer_iff.mp hnewer⟩
      token := ⟨token, htoken, hne⟩
      unrepeated := by
        rw [htoken, htext]
        exact h.unrepeated_iff.mp ⟨hid, htime⟩
      cooled := h.cooled_iff.mp hcooled
      budget := by omega
      pairBudget := by omega }
  · rintro ⟨hunpaused, hsignal, hhash, hunseen, ⟨generated, hgenerated, haged, hahead⟩,
      ⟨candle, hcandle, hcandleAged, hcandleAhead, hnewer⟩, ⟨token, htoken, hne⟩, hunrepeated,
      hcooled, hbudget, hpairBudget⟩
    obtain ⟨text, htext, -⟩ := Option.bind_eq_some_iff.mp hcandle
    rw [htoken, htext] at hunrepeated
    obtain ⟨hid, htime⟩ := h.unrepeated_iff.mpr hunrepeated
    rw [← htext] at htime
    refine ⟨h.pause.trans hunpaused, activePair, token, ⟨hsignal, htoken, hne⟩, generated,
      hgenerated, haged, hahead, rfl, ?_, Bool.eq_false_iff.mp hunseen, candle,
        hcandle, hcandleAged,
      hcandleAhead, hid, htime, h.newer_iff.mpr hnewer, h.cooled_iff.mpr hcooled, ?_, ?_⟩
    · rw [not_or, not_not]
      exact hhash
    · omega
    · omega

/-- Over every life of a new guard in which each mutation can be read and none loses the
projection's directory after its commit, with any failed commits, restarts and crashes: the gate
passes a signal if and only if the committed mutations admit it, unless a stop-out reported two
weeks ahead of the clock has dropped the counters of today. -/
theorem allow_ok_iff (data : SidecarData) (costs : Costs) (turns : List Turn)
    (hsound : ∀ step ∈ turns.filterMap (Turn.step? costs),
      step.Sound cooldownSeconds data.symbolPairs)
    (hretained : Retained data.symbolPairs (committed costs turns) now.utcDay) :
    ((Guard.fresh data cooldownSeconds).live costs turns).allow limits dt now signal activePair
        pairStateHash seen = .ok () ↔
      Admissible data.symbolPairs (committed costs turns) cooldownSeconds limits dt now signal
        activePair pairStateHash seen := by
  have hfollows := (Guard.follows_fresh data cooldownSeconds).live turns hsound
  rw [List.nil_append] at hfollows
  exact hfollows.tracks.allowed_iff hretained

end Allow

/-- A losing stop, a crash while a pause was committed, and the end of the pause after a restart
whose commit failed at first. -/
def sampleLife : List Turn := [
  .event { eventType := .executionReport, symbol := some "BTCUSDT", side := .sell,
           status := .filled, orderType := .stopLossLimit, cumulative := .num 1, quote := .num 90,
           eventTime := some 1700000000000 } (some 100) ⟨0, 0, by decide⟩ {},
  .crash (.setGlobalPause "reconcile-required"),
  .mutate { mutation := .clearGlobalPause, faults := { commit := some { kind := .runtime } } },
  .restart,
  .mutate { mutation := .clearGlobalPause }]

def sampleData : SidecarData := { symbolPairs := [("BTCUSDT", ⟨"BTC", "USDT"⟩)] }

/-- `_dt` of the two times of the sample. -/
def sampleTimes (text : String) : Option Instant :=
  if text = "2023-11-14T22:14:20+00:00" then some ⟨1700000060000000, 0, by decide⟩
  else if text = "2023-11-14T22:15:10+00:00" then some ⟨1700000110000000, 0, by decide⟩
  else none

def sampleProposal : Proposal where
  pair := some ⟨"BTC", "USDT"⟩
  signalId := some "token"
  candleTime := some "2023-11-14T22:14:20+00:00"
  generatedAt := some "2023-11-14T22:15:10+00:00"
  pairStateHash := some "hash"

def sampleNow : Instant := ⟨1700000120000000, 0, by decide⟩

theorem allow_ok_iff_sample :
    stopoutsOn sampleData.symbolPairs (committed {} sampleLife) sampleNow.utcDay = 1 ∧
      Admissible sampleData.symbolPairs (committed {} sampleLife) 60 {} sampleTimes
        sampleNow sampleProposal ⟨"BTC", "USDT"⟩ "hash" false := by
  have hok : ∀ step ∈ sampleLife.filterMap (Turn.step? {}),
      (step.mutation.change 60 sampleData.symbolPairs {}).1 = .ok () ∧
        (step.faults.mkdir = none ∨ step.faults.commit.isSome) := by
    decide +kernel
  have hsound : ∀ step ∈ sampleLife.filterMap (Turn.step? {}),
      step.Sound 60 sampleData.symbolPairs := by
    intro step hstep
    exact ⟨change_ok_iff.mp (hok step hstep).1, (hok step hstep).2⟩
  have hretained : Retained sampleData.symbolPairs (committed {} sampleLife) sampleNow.utcDay := by
    unfold Retained
    decide +kernel
  refine ⟨by decide +kernel, (allow_ok_iff sampleData {} sampleLife hsound hretained).mp ?_⟩
  decide +kernel

end SpotSidecar.Risk
