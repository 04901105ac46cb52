import Mathlib.Data.Nat.Find
import SpotSidecar.Rounding.Significant
import SpotSidecar.State.Values

/-! The quota ledger of one market-context provider: a single row with a month, a minute, an
interval and a back-off, and every call that reads and writes it. -/
namespace SpotSidecar.MoneyFlow

/-! ### The calendar -/

def isLeap (year : ℕ) : Bool := year % 4 == 0 && (year % 100 != 0 || year % 400 == 0)

/-- The days of a common year before each of its months. -/
def daysBeforeInYear : ℕ → ℕ
  | 0 => 0
  | 1 => 31
  | 2 => 59
  | 3 => 90
  | 4 => 120
  | 5 => 151
  | 6 => 181
  | 7 => 212
  | 8 => 243
  | 9 => 273
  | 10 => 304
  | _ => 334

/-- The days before a month; months count from January of the year 1. -/
def daysBeforeMonth (month : ℕ) : ℕ :=
  let past := month / 12
  past * 365 + past / 4 - past / 100 + past / 400 + daysBeforeInYear (month % 12) +
    if 2 ≤ month % 12 ∧ isLeap (past + 1) then 1 else 0

/-- The last month that has begun on a day. No month is shorter than 28 days. -/
def monthOfDay (day : ℕ) : ℕ := Nat.findGreatest (daysBeforeMonth · ≤ day) (day / 28)

theorem monthOfDay_mono : Monotone monthOfDay := by
  intro day later h
  apply Nat.findGreatest_mono
  · intro month hbegun
    exact le_trans hbegun h
  · exact Nat.div_le_div_right h

def lastDay : ℤ := 3652058

/-- `_month_utc`: `datetime` rounds a reading to the microsecond and knows the years 1 to 9999. -/
def monthUtc (now : ℚ) : Except Exc ℕ :=
  let day := Rounding.halfEven (now * 1000000) / 86400000000 + 719162
  if 0 ≤ day ∧ day ≤ lastDay then .ok (monthOfDay day.toNat) else .error { kind := .value }

-- Half a second around the new year of 2025.
example : monthUtc 1735689599.5 = .ok (2023 * 12 + 11) := by decide +kernel
example : monthUtc 1735689600 = .ok (2024 * 12) := by decide +kernel

/-- The UTC month in which an instant lies. -/
def utcMonth (t : ℚ) : ℕ := monthOfDay (⌊t / 86400⌋ + 719162).toNat

/-- A reading as `datetime` holds it: to the microsecond, half to even. -/
def microsecond (now : ℚ) : ℚ := Rounding.halfEven (now * 1000000) / 1000000

theorem utcMonth_mono : Monotone utcMonth := by
  intro t later h
  have hdays : t / 86400 ≤ later / 86400 := by linarith
  have hfloor := Int.floor_le_floor hdays
  apply monthOfDay_mono
  omega

theorem microsecond_mono : Monotone microsecond := by
  intro now later h
  have hscaled : now * 1000000 ≤ later * 1000000 := by linarith
  have hround : (Rounding.halfEven (now * 1000000) : ℚ) ≤ Rounding.halfEven (later * 1000000) := by
    exact_mod_cast Rounding.halfEven_mono hscaled
  unfold microsecond
  linarith

/-- What the code takes for the month of a reading is the month of the rounded reading. -/
theorem monthUtc_ok {now : ℚ} {month : ℕ} (h : monthUtc now = .ok month) :
    utcMonth (microsecond now) = month := by
  have hday : ⌊microsecond now / 86400⌋ = Rounding.halfEven (now * 1000000) / 86400000000 := by
    have hcast : microsecond now / 86400 =
        (Rounding.halfEven (now * 1000000) : ℚ) / ((86400000000 : ℕ) : ℚ) := by
      unfold microsecond
      push_cast
      rw [div_div]
      norm_num
    rw [hcast, Rat.floor_intCast_div_natCast]
    rfl
  unfold monthUtc at h
  dsimp only at h
  split at h
  · cases h
    rw [utcMonth, hday]
  · cases h

/-- `_minute_window` -/
def minuteWindow (now : ℚ) : ℤ := ⌊now / 60⌋

theorem minuteWindow_mono {now later : ℚ} (h : now ≤ later) :
    minuteWindow now ≤ minuteWindow later := by
  apply Int.floor_le_floor
  linarith

/-! ### The row and its calls -/

inductive QuotaStatus where
  | never
  | reserved
  | success
  | minuteRateLimited
  | authError
  | planError
  | rateLimited
  | providerError
  | transportError
  | payloadError
  | httpError
  deriving DecidableEq, Repr

/-- The statuses `mark_failure` takes. -/
def QuotaStatus.isFailure : QuotaStatus → Bool
  | .never | .reserved | .success | .minuteRateLimited => false
  | _ => true

structure QuotaRow where
  monthUtc : ℕ
  monthAttempts : ℕ
  minuteWindow : ℤ
  minuteAttempts : ℕ
  nextAllowedAt : ℚ
  failureCount : ℕ
  lastStatus : QuotaStatus
  deriving DecidableEq, Repr

structure Limits where
  minuteCap : ℕ
  monthlyCap : ℕ
  minimumIntervalSeconds : ℤ
  deriving DecidableEq, Repr

structure PublicQuota where
  policy : String := "local_attempts_96_percent_of_current_free_quota"
  monthUtc : ℕ
  monthlyAttemptsReserved : ℕ
  monthlyAttemptCap : ℕ
  minuteWindowUtc : ℤ
  minuteAttemptsReserved : ℕ
  minuteAttemptCap : ℕ
  nextAllowedAtEpoch : ℚ
  nextAllowedInSeconds : ℚ
  deriving DecidableEq, Repr

inductive QuotaReason where
  | refreshWait
  | backoff
  | monthlyQuotaExhausted
  | minuteRateLimited
  | reserved
  deriving DecidableEq, Repr

structure QuotaDecision where
  allowed : Bool
  reason : QuotaReason
  quota : PublicQuota
  deriving DecidableEq, Repr

def Limits.validate (limits : Limits) : Except Exc Unit :=
  if limits.minuteCap < 1 ∨ limits.monthlyCap < 1 then
    .error { kind := .runtime, text := "quota caps must be positive" }
  else .ok ()

/-- `_normalize_row` -/
def normalizeRow (row : Option QuotaRow) (now : ℚ) : Except Exc QuotaRow := do
  let currentMonth ← MoneyFlow.monthUtc now
  let currentMinute := MoneyFlow.minuteWindow now
  match row with
  | none =>
    return {
      monthUtc := currentMonth
      monthAttempts := 0
      minuteWindow := currentMinute
      minuteAttempts := 0
      nextAllowedAt := 0
      failureCount := 0
      lastStatus := .never }
  | some row =>
    let state := if row.monthUtc ≠ currentMonth then
      { row with monthUtc := currentMonth, monthAttempts := 0 } else row
    return if state.minuteWindow ≠ currentMinute then
      { state with minuteWindow := currentMinute, minuteAttempts := 0 } else state

/-- Three decimals. -/
def milli (q : ℚ) : ℚ := Rounding.halfEven (q * 1000) / 1000

/-- `_public` -/
def QuotaRow.public (state : QuotaRow) (limits : Limits) (now : ℚ) : PublicQuota where
  monthUtc := state.monthUtc
  monthlyAttemptsReserved := state.monthAttempts
  monthlyAttemptCap := limits.monthlyCap
  minuteWindowUtc := state.minuteWindow
  minuteAttemptsReserved := state.minuteAttempts
  minuteAttemptCap := limits.minuteCap
  nextAllowedAtEpoch := milli state.nextAllowedAt
  nextAllowedInSeconds := milli (max 0 (state.nextAllowedAt - now))

/-- How a transaction ends: a refused one is rolled back and raises; after an unanswered one the
process is gone, and nobody has seen the result. -/
inductive Commit where
  | done
  | refused
  | unanswered
  deriving DecidableEq, Repr

/-- One transaction on the row. -/
def transact {α : Type} (limits : Limits) (row : Option QuotaRow) (now : ℚ) (commit : Commit)
    (failure : String) (write : QuotaRow → α × QuotaRow) :
    Except Exc (Option α) × Option QuotaRow :=
  match limits.validate, normalizeRow row now, commit with
  | .error e, _, _ => (.error e, row)
  | .ok _, .error e, _ => (.error e, row)
  | .ok _, .ok _, .refused => (.error { kind := .runtime, text := failure }, row)
  | .ok _, .ok state, .unanswered => (.ok none, (write state).2)
  | .ok _, .ok state, .done => (.ok (write state).1, (write state).2)

/-- What `reserve` decides on a normalized row, and the row it writes. -/
def QuotaRow.reserve (limits : Limits) (now : ℚ) (state : QuotaRow) : QuotaDecision × QuotaRow :=
  let refuse (reason : QuotaReason) (state : QuotaRow) : QuotaDecision × QuotaRow :=
    ({ allowed := false, reason := reason, quota := state.public limits now }, state)
  if now < state.nextAllowedAt then
    refuse (if state.lastStatus = .success ∨ state.lastStatus = .reserved ∨
      state.lastStatus = .never then .refreshWait else .backoff) state
  else if limits.monthlyCap ≤ state.monthAttempts then refuse .monthlyQuotaExhausted state
  else if limits.minuteCap ≤ state.minuteAttempts then
    refuse .minuteRateLimited { state with
      nextAllowedAt := max state.nextAllowedAt ((state.minuteWindow + 1) * 60)
      lastStatus := .minuteRateLimited }
  else
    let state := { state with
      monthAttempts := state.monthAttempts + 1
      minuteAttempts := state.minuteAttempts + 1
      nextAllowedAt := now + limits.minimumIntervalSeconds
      lastStatus := .reserved }
    ({ allowed := true, reason := .reserved, quota := state.public limits now }, state)

/-- `_mark` with `failure=False`, which is how `mark_success` calls it. -/
def QuotaRow.markSuccess (limits : Limits) (now : ℚ) (state : QuotaRow) : PublicQuota × QuotaRow :=
  let state := { state with
    failureCount := 0
    lastStatus := .success
    nextAllowedAt := max state.nextAllowedAt (now + limits.minimumIntervalSeconds) }
  (state.public limits now, state)

def Limits.failureDelay (limits : Limits) (status : QuotaStatus) (retryAfterSeconds : Option ℤ)
    (failures : ℕ) : ℤ :=
  match status, retryAfterSeconds with
  | .authError, _ | .planError, _ => 3600
  | .rateLimited, none | .rateLimited, some 0 => max 60 limits.minimumIntervalSeconds
  | .rateLimited, some seconds => max 60 seconds
  | _, _ => min 3600 (max limits.minimumIntervalSeconds (300 * 2 ^ min (failures - 1) 4))

def QuotaRow.markFailure (limits : Limits) (now : ℚ) (status : QuotaStatus)
    (retryAfterSeconds : Option ℤ) (state : QuotaRow) : PublicQuota × QuotaRow :=
  let failures := state.failureCount + 1
  let delay := limits.failureDelay status retryAfterSeconds failures
  let state := { state with
    failureCount := failures
    lastStatus := status
    nextAllowedAt := max state.nextAllowedAt (now + delay) }
  (state.public limits now, state)

inductive QuotaCall where
  | reserve
  | markSuccess
  | markFailure (status : QuotaStatus) (retryAfterSeconds : Option ℤ)
  | status
  /-- The process starts again and opens the ledger it left. -/
  | restart
  deriving DecidableEq, Repr

structure QuotaRequest where
  call : QuotaCall
  now : ℚ
  commit : Commit := .done
  deriving DecidableEq, Repr

inductive QuotaAnswer where
  | decision (decision : QuotaDecision)
  | quota (quota : PublicQuota)
  | opened
  deriving DecidableEq, Repr

/-- One call on the ledger: what it returns, and the row it leaves. -/
def Limits.step (limits : Limits) (row : Option QuotaRow) (request : QuotaRequest) :
    Except Exc (Option QuotaAnswer) × Option QuotaRow :=
  match request.call with
  | .reserve =>
    transact limits row request.now request.commit "quota reservation failed closed" fun state =>
      let (decision, state) := state.reserve limits request.now
      (.decision decision, state)
  | .markSuccess =>
    transact limits row request.now request.commit "quota state update failed" fun state =>
      let (quota, state) := state.markSuccess limits request.now
      (.quota quota, state)
  | .markFailure status retryAfterSeconds =>
    if status.isFailure then
      transact limits row request.now request.commit "quota failure state could not be persisted"
        fun state =>
          let (quota, state) := state.markFailure limits request.now status retryAfterSeconds
          (.quota quota, state)
    else
      (do
        limits.validate
        .error { kind := .runtime, text := "unsupported provider failure status" }, row)
  | .status =>
    transact limits row request.now request.commit "quota status failed closed" fun state =>
      (.quota (state.public limits request.now), state)
  | .restart => (.ok (some .opened), row)

def Limits.rowAfter (limits : Limits) (row : Option QuotaRow) (requests : List QuotaRequest) :
    Option QuotaRow :=
  requests.foldl (fun row request => (limits.step row request).2) row

/-- What the caller learns: only a decision that reaches it lets a request go out. -/
def allows : Except Exc (Option QuotaAnswer) → Bool
  | .ok (some (.decision decision)) => decision.allowed
  | _ => false

def Limits.grants (limits : Limits) (row : Option QuotaRow) (request : QuotaRequest) : Bool :=
  allows (limits.step row request).1

/-- The readings at which the calls were allowed to go out. -/
def Limits.granted (limits : Limits) : Option QuotaRow → List QuotaRequest → List ℚ
  | _, [] => []
  | row, request :: rest =>
    (if limits.grants row request then [request.now] else []) ++
      limits.granted (limits.step row request).2 rest

/-! ### What a call writes -/

theorem normalizeRow_ok {row : Option QuotaRow} {now : ℚ} {state : QuotaRow}
    (h : normalizeRow row now = .ok state) :
    MoneyFlow.monthUtc now = .ok state.monthUtc ∧ state.minuteWindow = MoneyFlow.minuteWindow now ∧
      ∀ r, row = some r → state.nextAllowedAt = r.nextAllowedAt ∧
        (r.monthUtc = state.monthUtc → state.monthAttempts = r.monthAttempts) ∧
        (r.minuteWindow = state.minuteWindow → state.minuteAttempts = r.minuteAttempts) := by
  unfold normalizeRow at h
  obtain ⟨month, hmonth, h⟩ := except_bind_eq_ok.mp h
  cases row with
  | none =>
    cases h
    exact ⟨hmonth, rfl, by simp⟩
  | some row =>
    cases h
    constructor
    · rw [hmonth]
      split <;> split <;> simp_all
    constructor
    · split <;> split <;> simp_all
    · intro r hr
      cases hr
      constructor
      · split <;> split <;> rfl
      constructor
      · split <;> split <;> simp_all
      · split <;> split <;> simp_all

/-- The row a call writes over a normalized one: the months and minutes stay, attempts are added
for a reservation only, and a wait is shortened by a reservation only. -/
inductive QuotaRow.Written (limits : Limits) (now : ℚ) (state : QuotaRow) :
    Bool → QuotaRow → Prop where
  | held {next : QuotaRow} (hmonth : next.monthUtc = state.monthUtc)
      (hminute : next.minuteWindow = state.minuteWindow)
      (hmonthAttempts : next.monthAttempts = state.monthAttempts)
      (hminuteAttempts : next.minuteAttempts = state.minuteAttempts)
      (hwait : state.nextAllowedAt ≤ next.nextAllowedAt) : Written limits now state false next
  | reserved {allowed : Bool} {next : QuotaRow} (hmonth : next.monthUtc = state.monthUtc)
      (hminute : next.minuteWindow = state.minuteWindow)
      (hmonthAttempts : next.monthAttempts = state.monthAttempts + 1)
      (hminuteAttempts : next.minuteAttempts = state.minuteAttempts + 1)
      (hwait : next.nextAllowedAt = now + limits.minimumIntervalSeconds)
      (hdue : state.nextAllowedAt ≤ now) (hmonthly : state.monthAttempts < limits.monthlyCap)
      (hminutely : state.minuteAttempts < limits.minuteCap) : Written limits now state allowed next

theorem QuotaRow.written_reserve (limits : Limits) (now : ℚ) (state : QuotaRow) :
    state.Written limits now (state.reserve limits now).1.allowed (state.reserve limits now).2 := by
  unfold reserve
  dsimp only
  split
  · exact .held rfl rfl rfl rfl le_rfl
  · next hdue =>
    split
    · exact .held rfl rfl rfl rfl le_rfl
    · next hmonthly =>
      split
      · exact .held rfl rfl rfl rfl (le_max_left _ _)
      · next hminutely =>
        exact .reserved rfl rfl rfl rfl rfl (not_lt.mp hdue) (not_le.mp hmonthly)
          (not_le.mp hminutely)

/-- An unanswered call has allowed nothing that anyone knows of. -/
theorem QuotaRow.Written.unanswered {limits : Limits} {now : ℚ} {state next : QuotaRow}
    {allowed : Bool} (h : state.Written limits now allowed next) :
    state.Written limits now false next := by
  cases h with
  | held hmonth hminute hmonthAttempts hminuteAttempts hwait =>
    exact .held hmonth hminute hmonthAttempts hminuteAttempts hwait
  | reserved hmonth hminute hmonthAttempts hminuteAttempts hwait hdue hmonthly hminutely =>
    exact .reserved hmonth hminute hmonthAttempts hminuteAttempts hwait hdue hmonthly hminutely

/-- A transaction leaves the row as it is, or writes over the normalized one. -/
theorem transact_cases {limits : Limits} {row : Option QuotaRow} {now : ℚ} {commit : Commit}
    {failure : String} {write : QuotaRow → QuotaAnswer × QuotaRow}
    (hwrite : ∀ state : QuotaRow, state.Written limits now (allows (.ok (some (write state).1)))
      (write state).2) :
    (allows (transact limits row now commit failure write).1 = false ∧
        (transact limits row now commit failure write).2 = row) ∨
      ∃ state next, normalizeRow row now = .ok state ∧
        (transact limits row now commit failure write).2 = some next ∧
        state.Written limits now (allows (transact limits row now commit failure write).1)
          next := by
  unfold transact
  split
  · exact .inl ⟨rfl, rfl⟩
  · exact .inl ⟨rfl, rfl⟩
  · exact .inl ⟨rfl, rfl⟩
  · next hstate => exact .inr ⟨_, _, hstate, rfl, (hwrite _).unanswered⟩
  · next hstate => exact .inr ⟨_, _, hstate, rfl, hwrite _⟩

theorem Limits.step_cases (limits : Limits) (row : Option QuotaRow) (request : QuotaRequest) :
    (limits.grants row request = false ∧ (limits.step row request).2 = row) ∨
      ∃ state next, normalizeRow row request.now = .ok state ∧
        (limits.step row request).2 = some next ∧
        state.Written limits request.now (limits.grants row request) next := by
  unfold grants step
  cases request.call with
  | reserve =>
    apply transact_cases
    intro state
    exact state.written_reserve limits request.now
  | markSuccess =>
    apply transact_cases
    intro state
    exact .held rfl rfl rfl rfl (le_max_left _ _)
  | markFailure status retryAfterSeconds =>
    dsimp only
    split
    · apply transact_cases
      intro state
      exact .held rfl rfl rfl rfl (le_max_left _ _)
    · left
      constructor
      · cases limits.validate <;> rfl
      · rfl
  | status =>
    apply transact_cases
    intro state
    exact .held rfl rfl rfl rfl le_rfl
  | restart => exact .inl ⟨rfl, rfl⟩

/-! ### The ledger over a run -/

/-- `past` was granted under the limits, where the month of a reading is that of the reading
rounded to the microsecond. -/
structure Limits.Within (limits : Limits) (past : List ℚ) : Prop where
  month : ∀ month, past.countP (fun t => utcMonth (microsecond t) = month) ≤ limits.monthlyCap
  minute : ∀ window, past.countP (fun t => minuteWindow t = window) ≤ limits.minuteCap
  spaced : past.Pairwise fun earlier later : ℚ => earlier + limits.minimumIntervalSeconds ≤ later

/-- The row has counted every grant of its month and its minute, and waits for the interval of
each; `stamp` is the reading of its last write. -/
structure QuotaRow.Counts (limits : Limits) (past : List ℚ) (stamp : ℚ) (row : QuotaRow) :
    Prop where
  month : utcMonth (microsecond stamp) = row.monthUtc
  minute : MoneyFlow.minuteWindow stamp = row.minuteWindow
  before : ∀ t ∈ past, t ≤ stamp
  monthly : past.countP (fun t => utcMonth (microsecond t) = row.monthUtc) ≤ row.monthAttempts
  minutely : past.countP (fun t => MoneyFlow.minuteWindow t = row.minuteWindow) ≤ row.minuteAttempts
  waits : ∀ t ∈ past, t + limits.minimumIntervalSeconds ≤ row.nextAllowedAt

/-- Nothing has been granted yet, or the row has counted it. -/
def Limits.Accounts (limits : Limits) (past : List ℚ) (row : Option QuotaRow) (clock : ℚ) : Prop :=
  past = [] ∨ ∃ r stamp, row = some r ∧ stamp ≤ clock ∧ r.Counts limits past stamp

theorem Limits.Accounts.normalized {limits : Limits} {past : List ℚ} {row : Option QuotaRow}
    {clock now : ℚ} {state : QuotaRow} (h : limits.Accounts past row clock) (hnow : clock ≤ now)
    (hstate : normalizeRow row now = .ok state) : state.Counts limits past now := by
  obtain ⟨hok, hminute, hrow⟩ := normalizeRow_ok hstate
  have hmonth := monthUtc_ok hok
  obtain rfl | ⟨r, stamp, rfl, hstamp, hr⟩ := h
  · exact ⟨hmonth, hminute.symm, by simp, by simp, by simp, by simp⟩
  · obtain ⟨hwait, hmonthly, hminutely⟩ := hrow r rfl
    have hbefore : ∀ t ∈ past, t ≤ now := fun t ht => by
      have := hr.before t ht
      linarith
    refine ⟨hmonth, hminute.symm, hbefore, ?_, ?_, ?_⟩
    · by_cases hsame : r.monthUtc = state.monthUtc
      · rw [hmonthly hsame, ← hsame]
        exact hr.monthly
      · -- A grant of the new month would have been written before the row's own month.
        rw [List.countP_eq_zero.mpr]
        · exact Nat.zero_le _
        · intro t ht hin
          have hin : utcMonth (microsecond t) = state.monthUtc := by simpa using hin
          have hlo := utcMonth_mono (microsecond_mono (hr.before t ht))
          have hhi := utcMonth_mono (microsecond_mono (hstamp.trans hnow))
          have := hr.month
          omega
    · by_cases hsame : r.minuteWindow = state.minuteWindow
      · rw [hminutely hsame, ← hsame]
        exact hr.minutely
      · rw [List.countP_eq_zero.mpr]
        · exact Nat.zero_le _
        · intro t ht hin
          have hin : minuteWindow t = state.minuteWindow := by simpa using hin
          have hlo := minuteWindow_mono (hr.before t ht)
          have hhi := minuteWindow_mono (hstamp.trans hnow)
          have := hr.minute
          omega
    · rw [hwait]
      exact hr.waits

theorem Limits.Within.concat {limits : Limits} {past : List ℚ} {now : ℚ} {state : QuotaRow}
    (hpast : limits.Within past) (hstate : state.Counts limits past now)
    (hdue : state.nextAllowedAt ≤ now) (hmonthly : state.monthAttempts < limits.monthlyCap)
    (hminutely : state.minuteAttempts < limits.minuteCap) : limits.Within (past ++ [now]) := by
  constructor
  · intro month
    rw [List.countP_append]
    by_cases hsame : utcMonth (microsecond now) = month
    · have : month = state.monthUtc := hsame.symm.trans hstate.month
      have := hstate.monthly
      simp_all
      omega
    · have := hpast.month month
      simp_all
  · intro window
    rw [List.countP_append]
    by_cases hsame : minuteWindow now = window
    · have : window = state.minuteWindow := hsame.symm.trans hstate.minute
      have := hstate.minutely
      simp_all
      omega
    · have := hpast.minute window
      simp_all
  · apply List.pairwise_append.mpr
    constructor
    · exact hpast.spaced
    constructor
    · exact List.pairwise_singleton _ _
    · intro t ht u hu
      cases List.mem_singleton.mp hu
      exact (hstate.waits t ht).trans hdue

theorem QuotaRow.Counts.moved {limits : Limits} {past : List ℚ} {now : ℚ} {state next : QuotaRow}
    (h : state.Counts limits past now) (hmonth : next.monthUtc = state.monthUtc)
    (hminute : next.minuteWindow = state.minuteWindow)
    (hmonthAttempts : state.monthAttempts ≤ next.monthAttempts)
    (hminuteAttempts : state.minuteAttempts ≤ next.minuteAttempts)
    (hwait : ∀ t ∈ past, t + limits.minimumIntervalSeconds ≤ next.nextAllowedAt) :
    next.Counts limits past now := by
  constructor
  · rw [hmonth]
    exact h.month
  · rw [hminute]
    exact h.minute
  · exact h.before
  · rw [hmonth]
    exact h.monthly.trans hmonthAttempts
  · rw [hminute]
    exact h.minutely.trans hminuteAttempts
  · exact hwait

theorem QuotaRow.Counts.concat {limits : Limits} {past : List ℚ} {now : ℚ} {state next : QuotaRow}
    (h : state.Counts limits past now) (hmonth : next.monthUtc = state.monthUtc)
    (hminute : next.minuteWindow = state.minuteWindow)
    (hmonthAttempts : next.monthAttempts = state.monthAttempts + 1)
    (hminuteAttempts : next.minuteAttempts = state.minuteAttempts + 1)
    (hwait : next.nextAllowedAt = now + limits.minimumIntervalSeconds) :
    next.Counts limits (past ++ [now]) now := by
  have hbefore : ∀ t ∈ past ++ [now], t ≤ now := by
    intro t ht
    obtain ht | ht := List.mem_append.mp ht
    · exact h.before t ht
    · exact (List.mem_singleton.mp ht).le
  constructor
  · rw [hmonth]
    exact h.month
  · rw [hminute]
    exact h.minute
  · exact hbefore
  · rw [hmonth, hmonthAttempts, List.countP_append]
    exact Nat.add_le_add h.monthly List.countP_le_length
  · rw [hminute, hminuteAttempts, List.countP_append]
    exact Nat.add_le_add h.minutely List.countP_le_length
  · intro t ht
    have := hbefore t ht
    rw [hwait]
    linarith

/-- The grants after one call. -/
def Limits.pastAfter (limits : Limits) (past : List ℚ) (row : Option QuotaRow)
    (request : QuotaRequest) : List ℚ :=
  past ++ if limits.grants row request then [request.now] else []

theorem Limits.within_step {limits : Limits} {past : List ℚ} {row : Option QuotaRow} {clock : ℚ}
    {request : QuotaRequest} (hpast : limits.Within past) (hrow : limits.Accounts past row clock)
    (hnow : clock ≤ request.now) :
    limits.Within (limits.pastAfter past row request) ∧
      limits.Accounts (limits.pastAfter past row request) (limits.step row request).2
        request.now := by
  unfold pastAfter
  obtain ⟨hno, hsame⟩ | ⟨state, next, hstate, hnext, hwritten⟩ := limits.step_cases row request
  · rw [hno, hsame, if_neg (by simp), List.append_nil]
    constructor
    · exact hpast
    · obtain hnil | ⟨r, stamp, hr, hstamp, hcounts⟩ := hrow
      · exact .inl hnil
      · exact .inr ⟨r, stamp, hr, hstamp.trans hnow, hcounts⟩
  · have hcounts := hrow.normalized hnow hstate
    rw [hnext]
    generalize limits.grants row request = allowed at hwritten ⊢
    cases hwritten with
    | held hmonth hminute hmonthAttempts hminuteAttempts hwait =>
      rw [if_neg (by simp), List.append_nil]
      constructor
      · exact hpast
      · have hnextCounts := hcounts.moved hmonth hminute hmonthAttempts.ge hminuteAttempts.ge
          fun t ht => (hcounts.waits t ht).trans hwait
        exact .inr ⟨next, request.now, rfl, le_rfl, hnextCounts⟩
    | reserved hmonth hminute hmonthAttempts hminuteAttempts hwait hdue hmonthly hminutely =>
      have hnextCounts := hcounts.concat hmonth hminute hmonthAttempts hminuteAttempts hwait
      cases allowed with
      | false =>
        -- The attempt is counted, and its answer was lost.
        rw [if_neg (by simp), List.append_nil]
        constructor
        · exact hpast
        · refine .inr ⟨next, request.now, rfl, le_rfl, ?_⟩
          apply hcounts.moved hmonth hminute
          · omega
          · omega
          · intro t ht
            exact hnextCounts.waits t (List.mem_append_left _ ht)
      | true =>
        rw [if_pos rfl]
        constructor
        · exact hpast.concat hcounts hdue hmonthly hminutely
        · exact .inr ⟨next, request.now, rfl, le_rfl, hnextCounts⟩

theorem Limits.within_granted {limits : Limits} (requests : List QuotaRequest) {past : List ℚ}
    {row : Option QuotaRow} {clock : ℚ} (hpast : limits.Within past)
    (hrow : limits.Accounts past row clock) (hclock : ∀ request ∈ requests, clock ≤ request.now)
    (hsorted : requests.Pairwise fun earlier later => earlier.now ≤ later.now) :
    limits.Within (past ++ limits.granted row requests) := by
  induction requests generalizing past row clock with
  | nil =>
    rw [granted, List.append_nil]
    exact hpast
  | cons request rest ih =>
    obtain ⟨hfirst, hrest⟩ := List.pairwise_cons.mp hsorted
    obtain ⟨hwithin, haccounts⟩ :=
      within_step hpast hrow (hclock request List.mem_cons_self)
    rw [granted, ← List.append_assoc]
    exact ih hwithin haccounts hfirst hrest

/-! ### Waiting after a failure -/

/-- The back-off time that a failure has set. -/
def Limits.backoffUntil (limits : Limits) (row : Option QuotaRow) (request : QuotaRequest) :
    Option ℚ :=
  match request.call, limits.step row request with
  | .markFailure _ _, (.ok _, some next) => some next.nextAllowedAt
  | _, _ => none

/-- Nothing is allowed before `time`: the row still waits for it, or the clock has passed it. -/
def Waits (time : ℚ) (row : Option QuotaRow) (clock : ℚ) : Prop :=
  time ≤ clock ∨ ∃ r, row = some r ∧ time ≤ r.nextAllowedAt

theorem Limits.waits_backoff {limits : Limits} {row : Option QuotaRow} {request : QuotaRequest}
    {time : ℚ} (h : limits.backoffUntil row request = some time) (clock : ℚ) :
    Waits time (limits.step row request).2 clock := by
  unfold backoffUntil at h
  split at h
  · next hstep =>
    cases h
    rw [hstep]
    exact .inr ⟨_, rfl, le_rfl⟩
  · cases h

theorem Limits.waits_step {limits : Limits} {row : Option QuotaRow} {request : QuotaRequest}
    {time clock : ℚ} (h : Waits time row clock) (hnow : clock ≤ request.now) :
    (limits.grants row request = true → time ≤ request.now) ∧
      Waits time (limits.step row request).2 request.now := by
  obtain hpassed | ⟨r, rfl, hr⟩ := h
  · have : time ≤ request.now := hpassed.trans hnow
    exact ⟨fun _ => this, .inl this⟩
  · obtain ⟨hno, hsame⟩ | ⟨state, next, hstate, hnext, hwritten⟩ :=
      limits.step_cases (some r) request
    · rw [hno, hsame]
      constructor
      · intro hyes
        cases hyes
      · exact .inr ⟨r, rfl, hr⟩
    · obtain ⟨-, -, hrow⟩ := normalizeRow_ok hstate
      obtain ⟨hwaited, -, -⟩ := hrow r rfl
      rw [hnext]
      generalize limits.grants (some r) request = allowed at hwritten ⊢
      cases hwritten with
      | held hmonth hminute hmonthAttempts hminuteAttempts hwait =>
        constructor
        · intro hyes
          cases hyes
        · refine .inr ⟨next, rfl, ?_⟩
          linarith
      | reserved hmonth hminute hmonthAttempts hminuteAttempts hwait hdue hmonthly hminutely =>
        have : time ≤ request.now := by linarith
        exact ⟨fun _ => this, .inl this⟩

theorem Limits.waits_rowAfter {limits : Limits} {time : ℚ} (requests : List QuotaRequest)
    {row : Option QuotaRow} {clock later : ℚ} (h : Waits time row clock)
    (hclock : ∀ request ∈ requests, clock ≤ request.now ∧ request.now ≤ later)
    (hlater : clock ≤ later)
    (hsorted : requests.Pairwise fun earlier later => earlier.now ≤ later.now) :
    Waits time (limits.rowAfter row requests) later := by
  induction requests generalizing row clock with
  | nil =>
    obtain hpassed | hrow := h
    · exact .inl (hpassed.trans hlater)
    · exact .inr hrow
  | cons request rest ih =>
    obtain ⟨hfirst, hrest⟩ := List.pairwise_cons.mp hsorted
    obtain ⟨hnow, hend⟩ := hclock request List.mem_cons_self
    have hstep := (limits.waits_step h hnow).2
    apply ih hstep
    · intro other hother
      exact ⟨hfirst other hother, (hclock other (List.mem_cons_of_mem _ hother)).2⟩
    · exact hend
    · exact hrest

/-- Over every run of calls on a provider's row with a clock that does not go back, whatever row it
starts from and whichever of its transactions fail or are cut short: the grants stay within the
caps of the minute and of the month of the rounded reading and keep the interval, and none is made
before the back-off time of a failure. -/
theorem quota_kept (limits : Limits) (row : Option QuotaRow) (requests : List QuotaRequest)
    (hclock : requests.Pairwise fun earlier later => earlier.now ≤ later.now) :
    limits.Within (limits.granted row requests) ∧
      ∀ before failure between grant after time,
        requests = before ++ failure :: (between ++ grant :: after) →
        limits.backoffUntil (limits.rowAfter row before) failure = some time →
        limits.grants (limits.rowAfter row (before ++ failure :: between)) grant = true →
        time ≤ grant.now := by
  constructor
  · have hnil : limits.Within [] := by
      constructor <;> simp
    cases requests with
    | nil => exact hnil
    | cons first rest =>
      have hfirst : ∀ request ∈ first :: rest, first.now ≤ request.now := by
        intro request hrequest
        obtain rfl | hrest := List.mem_cons.mp hrequest
        · exact le_rfl
        · exact List.rel_of_pairwise_cons hclock hrest
      simpa using limits.within_granted (first :: rest) hnil (.inl rfl) hfirst hclock
  · intro before failure between grant after time hsplit hbackoff hgrant
    rw [hsplit] at hclock
    obtain ⟨-, hclock, -⟩ := List.pairwise_append.mp hclock
    obtain ⟨hfailure, hclock⟩ := List.pairwise_cons.mp hclock
    obtain ⟨hbetween, -, hcross⟩ := List.pairwise_append.mp hclock
    have hrow : limits.rowAfter row (before ++ failure :: between) =
        limits.rowAfter (limits.step (limits.rowAfter row before) failure).2 between := by
      simp only [Limits.rowAfter, List.foldl_append, List.foldl_cons]
    rw [hrow] at hgrant
    have hwaits := limits.waits_rowAfter between (limits.waits_backoff hbackoff failure.now)
      (fun request hrequest => ⟨hfailure request (List.mem_append_left _ hrequest),
        hcross request hrequest grant List.mem_cons_self⟩)
      (hfailure grant (by simp)) hbetween
    exact (limits.waits_step hwaits le_rfl).1 hgrant

/-- A failure ten minutes before a new year, and a monthly cap of one. -/
def newYear : List QuotaRequest := [
  { call := .reserve, now := 1735689000 },
  { call := .markFailure .rateLimited (some 500), now := 1735689001 },
  { call := .restart, now := 1735689400 },
  { call := .reserve, now := 1735689500 },
  { call := .reserve, now := 1735689502 },
  { call := .reserve, now := 1735689600, commit := .refused },
  { call := .reserve, now := 1735689601 },
  { call := .markSuccess, now := 1735689602 },
  { call := .reserve, now := 1735690000 }]

theorem quota_kept_newYear :
    let limits : Limits := { minuteCap := 1, monthlyCap := 1, minimumIntervalSeconds := 300 }
    limits.granted none newYear = [1735689000, 1735689601] ∧
      limits.Within (limits.granted none newYear) :=
  ⟨by decide +kernel, (quota_kept _ none newYear (by decide +kernel)).1⟩

/-- Two reservations of one December: the second reading, the last double before the new year, is
rounded up into it. -/
theorem quota_kept_rounded :
    let limits : Limits := { minuteCap := 1, monthlyCap := 1, minimumIntervalSeconds := 300 }
    let last : ℚ := 1735689600 - 1 / 4194304
    let granted := limits.granted none
      [{ call := .reserve, now := 1735600000 }, { call := .reserve, now := last }]
    granted = [1735600000, last] ∧ utcMonth last = utcMonth 1735600000 ∧
      limits.monthlyCap < granted.countP fun t => utcMonth t = utcMonth 1735600000 := by
  decide +kernel

end SpotSidecar.MoneyFlow
