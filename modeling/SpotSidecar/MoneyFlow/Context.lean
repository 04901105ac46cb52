import SpotSidecar.Collections.History
import SpotSidecar.Interaction.Triple
import SpotSidecar.MoneyFlow.Quota

/-! The advisory context of the market: two providers, a ledger that counts what is asked of them,
and a cache of what they have answered. -/
namespace SpotSidecar.MoneyFlow.Context
open Interaction

inductive Provider where
  | coingecko
  | coinmarketcap
  deriving DecidableEq, Repr

/-- The normalized data of a provider; its identity is the provider's. -/
structure Metrics where
  priceUsd : ℚ
  marketCapUsd : ℚ
  volume24hUsd : ℚ
  percentChange24h : ℚ
  sourceUpdatedAt : ℚ
  deriving DecidableEq, Repr

structure Cached where
  fetchedAt : ℚ
  data : Metrics
  deriving DecidableEq, Repr

abbrev Cache := Provider → Option Cached

/-- `_sanitize_cached` -/
def Cached.sanitized (c : Cached) : Option Cached :=
  if 1 ≤ c.fetchedAt ∧ 1 / 100000000 ≤ c.data.priceUsd ∧ 0 ≤ c.data.marketCapUsd ∧
      0 ≤ c.data.volume24hUsd ∧ -100 ≤ c.data.percentChange24h ∧
      c.data.percentChange24h ≤ 1000000 ∧ 1 ≤ c.data.sourceUpdatedAt then some c else none

structure ProviderSpec where
  enabled : Bool
  credentialPresent : Bool
  minuteCap : ℕ := 1
  monthlyCap : ℕ := 1
  deriving DecidableEq, Repr

structure Config where
  specs : Provider → ProviderSpec
  refreshSeconds : ℤ
  staleAfterSeconds : ℤ

def Config.limits (cfg : Config) (p : Provider) : Limits where
  minuteCap := (cfg.specs p).minuteCap
  monthlyCap := (cfg.specs p).monthlyCap
  minimumIntervalSeconds := cfg.refreshSeconds

/-- A provider that is enabled and has its key. -/
def Config.serves (cfg : Config) (p : Provider) : Bool :=
  (cfg.specs p).enabled && (cfg.specs p).credentialPresent

/-- What a manager keeps while its process lives. -/
structure Memory where
  cache : Cache := fun _ => none
  ledger : Bool
  ledgerError : Bool := false

/-- What becomes of a request that brings no data. -/
inductive FetchFailure where
  | http (statusCode : ℕ) (retryAfterSeconds : Option ℤ)
  | transport
  | payload
  | other
  deriving DecidableEq, Repr

def FetchFailure.status : FetchFailure → QuotaStatus
  | .http code _ =>
    if code = 401 ∨ code = 403 then .authError
    else if code = 402 then .planError
    else if code = 429 then .rateLimited
    else if 500 ≤ code then .providerError
    else .httpError
  | .transport => .transportError
  | .payload => .payloadError
  | .other => .providerError

/-- The seconds to wait that the provider has named. -/
def FetchFailure.retryAfterSeconds : FetchFailure → Option ℤ
  | .http _ seconds => seconds
  | _ => none

abbrev FetchAnswer := Except FetchFailure Metrics

inductive Status where
  | disabled
  | missingKey
  | cached
  | storageError
  | fresh
  | stale
  | refused (reason : QuotaReason)
  | failed (status : QuotaStatus)
  deriving DecidableEq, Repr

inductive Reason where
  | providerDisabled
  | enabledProviderHasNoApiKey
  | quotaLedgerUnavailableFailClosed
  | quotaReservationFailedClosed
  | refused (reason : QuotaReason)
  | failed (status : QuotaStatus)
  deriving DecidableEq, Repr

/-- A provider's part of a snapshot. Without a `quota` only the caps are shown. -/
structure Result where
  status : Status
  enabled : Bool
  available : Bool := false
  fresh : Bool := false
  advisoryOnly : Bool := true
  quota : Option PublicQuota
  reason : Option Reason
  cacheAgeSeconds : Option ℚ := none
  fetchedAtEpoch : Option ℚ := none
  data : Option Metrics := none
  cachePersisted : Option Bool := none
  deriving DecidableEq, Repr

/-- The age of a cached answer. -/
def Cached.age (c : Cached) (now : ℚ) : ℚ := max 0 (now - c.fetchedAt)

/-- `_result` -/
def Config.result (cfg : Config) (m : Memory) (p : Provider) (now : ℚ) (status : Status)
    (reason : Option Reason) (quota : Option PublicQuota) (ignoreCache : Bool := false) : Result :=
  let out : Result := { status, enabled := (cfg.specs p).enabled, quota, reason }
  match if ignoreCache then none else m.cache p with
  | none => out
  | some c => { out with
      status := if cfg.staleAfterSeconds < c.age now then .stale else status
      available := true
      fresh := c.age now ≤ cfg.staleAfterSeconds
      cacheAgeSeconds := some (milli (c.age now))
      fetchedAtEpoch := some c.fetchedAt
      data := some c.data }

inductive Act : Type → Type 1 where
  | memory : Act Memory
  | setMemory (m : Memory) : Act Unit
  | status (p : Provider) (now : ℚ) : Act PublicQuota
  | reserve (p : Provider) (now : ℚ) : Act QuotaDecision
  | mark (p : Provider) (now : ℚ) (call : QuotaCall) : Act PublicQuota
  | fetch (p : Provider) (now : ℚ) : Act FetchAnswer
  | saveCache (cache : Cache) : Act Bool

abbrev Working := Prog Exc Act

def modify (f : Memory → Memory) : Working Memory := do
  let m ← .perform .memory
  .perform (.setMemory (f m))
  return f m

/-- Set after a failure of the ledger; nothing clears it. -/
def Memory.mistrusted (m : Memory) : Memory := { m with ledgerError := true }

/-- A call on the ledger, with its `QuotaLedgerError` as a value. -/
def ledgerCall {α : Type} (op : Act α) : Working (Except Exc α) := do
  match ← (Prog.perform op : Working α).attempt with
  | .ok a => return .ok a
  | .error e => if e.kind = .runtime then return .error e else .raise e

/-- `_quota_status`, or only the caps where it fails. -/
def quotaStatus (m : Memory) (p : Provider) (now : ℚ) : Working (Option PublicQuota) :=
  if m.ledger then do
    match ← ledgerCall (.status p now) with
    | .ok quota => return some quota
    | .error _ => return none
  else return none

/-- A mark of the ledger: what it shows then, or what the reservation had shown. -/
def marked (p : Provider) (now : ℚ) (call : QuotaCall) (before : PublicQuota) :
    Working PublicQuota := do
  match ← ledgerCall (.mark p now call) with
  | .ok quota => return quota
  | .error _ =>
    let _ ← modify Memory.mistrusted
    return before

section provider
variable (cfg : Config) (p : Provider) (now : ℚ)

/-- A reserved request. -/
def request (before : PublicQuota) : Working Result := do
  match ← .perform (.fetch p now) with
  | .ok data =>
    let m ← modify fun m =>
      { m with cache := Function.update m.cache p (some { fetchedAt := now, data }) }
    let persisted ← .perform (.saveCache m.cache)
    let quota ← marked p now .markSuccess before
    let m ← .perform .memory
    return { cfg.result m p now .fresh none (some quota) with cachePersisted := some persisted }
  | .error failure =>
    let quota ← marked p now (.markFailure failure.status failure.retryAfterSeconds) before
    let m ← .perform .memory
    return cfg.result m p now (.failed failure.status) (some (.failed failure.status)) (some quota)

/-- A request if the ledger grants one. -/
def reserved : Working Result := do
  match ← ledgerCall (.reserve p now) with
  | .error _ =>
    let m ← modify Memory.mistrusted
    return cfg.result m p now .storageError (some .quotaReservationFailedClosed) none
  | .ok decision =>
    if decision.allowed then request cfg p now decision.quota
    else
      let m ← .perform .memory
      return cfg.result m p now (.refused decision.reason) (some (.refused decision.reason))
        (some decision.quota)

/-- The cached answer is not due for a refresh. -/
def Config.recent (m : Memory) : Bool :=
  match m.cache p with
  | none => false
  | some c => c.age now < cfg.refreshSeconds

/-- `_provider` -/
def provider : Working Result := do
  let m ← .perform .memory
  if (cfg.specs p).enabled = false then
    return cfg.result m p now .disabled (some .providerDisabled) none true
  else if (cfg.specs p).credentialPresent = false then
    return cfg.result m p now .missingKey (some .enabledProviderHasNoApiKey) none true
  else if cfg.recent p now m then
    let quota ← quotaStatus m p now
    return cfg.result m p now .cached none quota
  else if m.ledgerError ∨ m.ledger = false then
    return cfg.result m p now .storageError (some .quotaLedgerUnavailableFailClosed) none
  else reserved cfg p now

end provider

/-- `snapshot`: the results of the providers. -/
def snapshot (cfg : Config) (now : ℚ) : Working (Provider → Result) := do
  let coingecko ← provider cfg .coingecko now
  let coinmarketcap ← provider cfg .coinmarketcap now
  return fun
    | .coingecko => coingecko
    | .coinmarketcap => coinmarketcap

inductive Event where
  | opened
  | granted (p : Provider) (now : ℚ)
  | ledgerFailed (p : Provider)
  | fetched (p : Provider) (now : ℚ) (answer : FetchAnswer)
  | answered (now : ℚ) (results : Provider → Result)

/-- Whether a transaction of the ledger is committed, what a request brings, and whether the cache
file is written. -/
structure Env (σ : Type) where
  commits : σ → Bool × σ
  fetches : Provider → σ → FetchAnswer × σ
  saves : σ → Bool × σ

/-- The rows of the ledger, the cache file as it would be read, and the memory of the process. The
log is a record of the run that nothing reads. -/
structure World (σ : Type) where
  rows : Provider → Option QuotaRow
  file : Cache
  memory : Memory
  alive : Bool := false
  log : List Event := []
  env : σ

/-- What a call on the ledger shows: it grants a request, or it fails. -/
def ledgerEvent (p : Provider) (now : ℚ) :
    QuotaCall → Except Exc (Option QuotaAnswer) → Option Event
  | .status, _ => none
  | _, .error e => if e.kind = .runtime then some (.ledgerFailed p) else none
  | _, answer => if allows answer then some (.granted p now) else none

section run
variable {σ : Type} (env : Env σ) (cfg : Config)

/-- A call on the ledger, and its answer. -/
def World.call (w : World σ) (p : Provider) (call : QuotaCall) (now : ℚ) :
    Except Exc (Option QuotaAnswer) × World σ :=
  let commit := env.commits w.env
  let step := (cfg.limits p).step (w.rows p)
    { call, now, commit := if commit.1 then .done else .refused }
  (step.1, { w with
    rows := Function.update w.rows p step.2
    log := w.log ++ (ledgerEvent p now call step.1).toList
    env := commit.2 })

/-- The answer of a call as far as `read` finds it. -/
def answerOf {α : Type} (read : QuotaAnswer → Option α) :
    Except Exc (Option QuotaAnswer) → Except Exc α
  | .error e => .error e
  | .ok answer =>
    match answer.bind read with
    | some a => .ok a
    | none => .error { kind := .runtime }

def readDecision : QuotaAnswer → Option QuotaDecision
  | .decision d => some d
  | _ => none

def readQuota : QuotaAnswer → Option PublicQuota
  | .quota q => some q
  | _ => none

def exec : (γ : Type) → Act γ → World σ → Except Exc γ × World σ
  | _, .memory, w => (.ok w.memory, w)
  | _, .setMemory m, w => (.ok (), { w with memory := m })
  | _, .status p now, w =>
    let r := w.call env cfg p .status now
    (answerOf readQuota r.1, r.2)
  | _, .reserve p now, w =>
    let r := w.call env cfg p .reserve now
    (answerOf readDecision r.1, r.2)
  | _, .mark p now call, w =>
    let r := w.call env cfg p call now
    (answerOf readQuota r.1, r.2)
  | _, .fetch p now, w =>
    let answer := env.fetches p w.env
    (.ok answer.1, { w with log := w.log ++ [.fetched p now answer.1], env := answer.2 })
  | _, .saveCache cache, w =>
    let saving := env.saves w.env
    (.ok saving.1, { w with file := if saving.1 then cache else w.file, env := saving.2 })

/-- A snapshot, in which the process may die, or a new process: whether it can read the cache file
and open the ledger. -/
inductive Turn where
  | snapshot (now : ℚ) (budget : ℕ)
  | start (readable opens : Bool)
  deriving DecidableEq, Repr

def Turn.now : Turn → Option ℚ
  | .snapshot now _ => some now
  | .start _ _ => none

/-- `from_env`: the ledger is opened where a provider is served. -/
def Config.opened (readable opens : Bool) (file : Cache) : Memory :=
  let needed := cfg.serves .coingecko || cfg.serves .coinmarketcap
  { cache := fun p => if readable then (file p).bind Cached.sanitized else none
    ledger := needed && opens
    ledgerError := needed && !opens }

def World.turn (w : World σ) : Turn → World σ
  | .start readable opens => { w with
      memory := cfg.opened readable opens w.file
      alive := true
      log := w.log ++ [.opened] }
  | .snapshot now budget =>
    if w.alive then
      match Prog.run (exec env cfg) budget (snapshot cfg now) w with
      | (.done results, w) => { w with log := w.log ++ [.answered now results] }
      | (.raised _, w) => w
      | (.crashed, w) => { w with alive := false }
    else w

/-- The ledger and the cache file as they are found first, and no process. -/
def World.first (rows : Provider → Option QuotaRow) (file : Cache) (s : σ) : World σ :=
  { rows, file, memory := { ledger := false }, env := s }

def World.run (w : World σ) (turns : List Turn) : World σ := turns.foldl (World.turn env cfg) w

end run

/-! ### What the log shows -/

def Event.granted? (p : Provider) : Event → Option ℚ
  | .granted q now => if q = p then some now else none
  | _ => none

def Event.fetched? (p : Provider) : Event → Option ℚ
  | .fetched q now _ => if q = p then some now else none
  | _ => none

/-- The readings at which requests of a provider were granted. -/
def grants (p : Provider) (log : List Event) : List ℚ := log.filterMap (Event.granted? p)

/-- The readings at which a provider was asked. -/
def fetches (p : Provider) (log : List Event) : List ℚ := log.filterMap (Event.fetched? p)

/-- An answer, or the start of a process that has none yet. -/
def Event.answer? (p : Provider) : Event → Option (Option Cached)
  | .opened => some none
  | .fetched q now (.ok data) => if q = p then some (some { fetchedAt := now, data }) else none
  | _ => none

/-- The last answer that the process has had from a provider. -/
def newest (p : Provider) (log : List Event) : Option Cached :=
  (History.latest (Event.answer? p) log).join

def Event.trust? : Event → Option Bool
  | .opened => some true
  | .ledgerFailed _ => some false
  | _ => none

/-- No reservation and no mark of the process has failed. -/
def Trusted (log : List Event) : Prop := History.latest Event.trust? log = some true

/-- A record that a provider has answered, or that was in the file at first. -/
def Known (first : Cache) (log : List Event) (p : Provider) (c : Cached) : Prop :=
  first p = some c ∨ .fetched p c.fetchedAt (.ok c.data) ∈ log

/-- A result shows the newest answer it can, and says how old it is. -/
structure Honest (cfg : Config) (first : Cache) (log : List Event) (p : Provider) (now : ℚ)
    (r : Result) : Prop where
  shown : r.available = true → cfg.serves p = true ∧ ∃ c, Known first log p c ∧
    (∀ newer, newest p log = some newer → newer = c) ∧
    r.data = some c.data ∧ r.fetchedAtEpoch = some c.fetchedAt ∧
    (r.fresh = true ↔ c.age now ≤ cfg.staleAfterSeconds)
  hidden : r.available = false → r.data = none ∧ r.fresh = false
  advisory : r.advisoryOnly = true

/-- What stands behind an event. -/
def Allowed (cfg : Config) (first : Cache) (past : List Event) : Event → Prop
  | .fetched p now _ => cfg.serves p = true ∧ Trusted past ∧
      ∀ c, newest p past = some c → cfg.refreshSeconds ≤ c.age now
  | .answered now results => ∀ p, Honest cfg first past p now (results p)
  | _ => True

section log
variable {first : Cache} {log more : List Event} {p q : Provider} {c : Cached} {e : Event}
  {m : Memory}

theorem grants_append : grants p (log ++ more) = grants p log ++ grants p more :=
  List.filterMap_append

theorem fetches_append : fetches p (log ++ more) = fetches p log ++ fetches p more :=
  List.filterMap_append

theorem Known.later (h : Known first log p c) : Known first (log ++ more) p c := by
  obtain hfirst | hfetched := h
  · exact .inl hfirst
  · exact .inr (List.mem_append_left _ hfetched)

theorem newest_other (h : e.answer? p = none) : newest p (log ++ [e]) = newest p log := by
  rw [newest, History.latest_other h, newest]

/-- An event that is no answer of the provider leaves its results as honest as they were. -/
theorem Honest.later {cfg : Config} {now : ℚ} {r : Result} (h : Honest cfg first log p now r)
    (he : e.answer? p = none) : Honest cfg first (log ++ [e]) p now r := by
  constructor
  · intro havailable
    obtain ⟨hserves, c, hknown, hnewest, hshown⟩ := h.shown havailable
    refine ⟨hserves, c, hknown.later, ?_, hshown⟩
    rw [newest_other he]
    exact hnewest
  · exact h.hidden
  · exact h.advisory

/-- The memory that a process should have after an event. -/
def Memory.after (m : Memory) : Event → Memory
  | .ledgerFailed _ => m.mistrusted
  | .fetched p now (.ok data) =>
    { m with cache := Function.update m.cache p (some { fetchedAt := now, data }) }
  | _ => m

/-- The cache holds what is known, and the newest answers of the process. The process trusts the
ledger only where nothing has failed. -/
structure Mirrors (first : Cache) (log : List Event) (m : Memory) : Prop where
  known : ∀ p c, m.cache p = some c → Known first log p c
  newest : ∀ p c, newest p log = some c → m.cache p = some c
  trusted : m.ledgerError = false → Trusted log

theorem Mirrors.mistrusted (h : Mirrors first log m) : Mirrors first log m.mistrusted := by
  constructor
  · exact h.known
  · exact h.newest
  · intro htrusts
    cases htrusts

/-- An event that tells a process nothing. -/
theorem Mirrors.other (h : Mirrors first log m) (hanswer : ∀ p, e.answer? p = none)
    (htrust : e.trust? = none) : Mirrors first (log ++ [e]) m := by
  constructor
  · intro p c hc
    exact (h.known p c hc).later
  · intro p c hc
    rw [newest_other (hanswer p)] at hc
    exact h.newest p c hc
  · intro htrusts
    rw [Trusted, History.latest_other htrust]
    exact h.trusted htrusts

theorem Mirrors.fetched {now : ℚ} {data : Metrics} (h : Mirrors first log m) :
    Mirrors first (log ++ [.fetched p now (.ok data)])
      (m.after (.fetched p now (.ok data))) := by
  constructor
  · intro q c hc
    by_cases hq : q = p
    · subst hq
      have hsame : some { fetchedAt := now, data } = some c := by simpa [Memory.after] using hc
      cases hsame
      exact .inr (by simp)
    · have hc : m.cache q = some c := by simpa [Memory.after, hq] using hc
      exact (h.known q c hc).later
  · intro q c hc
    by_cases hq : q = p
    · subst hq
      rw [Context.newest, History.latest_mark (m := some { fetchedAt := now, data })
        (by simp [Event.answer?])] at hc
      simpa [Memory.after] using hc
    · rw [newest_other (by simp [Event.answer?, Ne.symm hq])] at hc
      simpa [Memory.after, hq] using h.newest q c hc
  · intro htrusts
    rw [Trusted, History.latest_other rfl]
    exact h.trusted htrusts

theorem Mirrors.after (h : Mirrors first log m) (he : e ≠ .opened) :
    Mirrors first (log ++ [e]) (m.after e) := by
  cases e with
  | opened => exact absurd rfl he
  | granted p now => exact h.other (fun _ => rfl) rfl
  | ledgerFailed p =>
    constructor
    · intro p c hc
      exact (h.known p c hc).later
    · intro p c hc
      rw [newest_other rfl] at hc
      exact h.newest p c hc
    · intro htrusts
      cases htrusts
  | fetched p now answer =>
    cases answer with
    | error failure => exact h.other (fun _ => rfl) rfl
    | ok data => exact h.fetched
  | answered now results => exact h.other (fun _ => rfl) rfl

/-- An answer that the process has had is due once its cache is not recent. -/
theorem Mirrors.due {cfg : Config} {now : ℚ} (h : Mirrors first log m)
    (hrecent : cfg.recent p now m = false) (hc : Context.newest p log = some c) :
    cfg.refreshSeconds ≤ c.age now := by
  unfold Config.recent at hrecent
  rw [h.newest p c hc] at hrecent
  simpa using hrecent

/-- What a result is made of. -/
theorem Mirrors.honest {cfg : Config} {now : ℚ} {status : Status} {reason : Option Reason}
    {quota : Option PublicQuota} {ignoreCache : Bool} (h : Mirrors first log m)
    (hserves : ignoreCache = false → cfg.serves p = true) :
    Honest cfg first log p now (cfg.result m p now status reason quota ignoreCache) := by
  unfold Config.result
  dsimp only
  split
  · exact ⟨nofun, fun _ => ⟨rfl, rfl⟩, rfl⟩
  · next c hc =>
    cases ignoreCache with
    | true => cases hc
    | false =>
      have hcached : m.cache p = some c := hc
      constructor
      · intro _
        refine ⟨hserves rfl, c, h.known p c hcached, ?_, rfl, rfl, ?_⟩
        · intro newer hnewer
          rw [h.newest p newer hnewer] at hcached
          exact Option.some.inj hcached
        · simp
      · nofun
      · rfl

theorem Honest.persisted {cfg : Config} {now : ℚ} {r : Result} {b : Option Bool}
    (h : Honest cfg first log p now r) :
    Honest cfg first log p now { r with cachePersisted := b } := by
  constructor
  · exact h.shown
  · exact h.hidden
  · exact h.advisory

end log

/-! ### What every act keeps -/

/-- The requests are within what the ledger has granted and counted, and the file holds nothing
that was not answered. -/
structure Sound {σ : Type} (cfg : Config) (first : Cache) (clock : ℚ) (w : World σ) : Prop where
  accounts : ∀ p, (cfg.limits p).Accounts (grants p w.log) (w.rows p) clock
  within : ∀ p, (cfg.limits p).Within (grants p w.log)
  fetched : ∀ p, (fetches p w.log).Sublist (grants p w.log)
  file : ∀ p c, w.file p = some c → Known first w.log p c
  lawful : History.Lawful (Allowed cfg first) w.log

/-- The process is to have the memory `m`. -/
structure Due {σ : Type} (cfg : Config) (first : Cache) (others : List Event → Prop) (clock : ℚ)
    (m : Memory) (w : World σ) : Prop where
  sound : Sound cfg first clock w
  mirrors : Mirrors first w.log m
  others : others w.log

/-- The process has the memory it should have. -/
def Live {σ : Type} (cfg : Config) (first : Cache) (others : List Event → Prop) (clock : ℚ)
    (w : World σ) : Prop :=
  Due cfg first others clock w.memory w

section ledger
variable {cfg : Config} {first : Cache} {p q : Provider} {now clock : ℚ}

theorem allows_eq_false {answer : Except Exc (Option QuotaAnswer)}
    (h : ∀ d, answer ≠ .ok (some (.decision d))) : allows answer = false := by
  unfold allows
  split
  · next d => exact absurd rfl (h d)
  · rfl

/-- Only a reservation grants a request. -/
theorem grants_status {limits : Limits} {row : Option QuotaRow} {request : QuotaRequest}
    (h : request.call = .status) : limits.grants row request = false := by
  apply allows_eq_false
  intro d
  unfold Limits.step
  rw [h]
  unfold transact
  dsimp only
  split <;> simp

/-- What the event of a call shows to be granted. -/
theorem grants_ledgerEvent {call : QuotaCall} {answer : Except Exc (Option QuotaAnswer)}
    (hstatus : call = .status → allows answer = false) :
    grants q (ledgerEvent p now call answer).toList =
      if q = p ∧ allows answer then [now] else [] := by
  have hasked : call ≠ .status → ledgerEvent p now call answer =
      match answer with
      | .error e => if e.kind = .runtime then some (.ledgerFailed p) else none
      | .ok _ => if allows answer then some (.granted p now) else none := by
    intro hcall
    cases call <;> cases answer <;> first | rfl | exact absurd rfl hcall
  by_cases hcall : call = .status
  · simp [hcall, ledgerEvent, hstatus hcall, grants]
  · rw [hasked hcall]
    cases answer with
    | error e =>
      have hno : allows (.error e) = false := rfl
      by_cases hruntime : e.kind = .runtime <;> simp [hno, hruntime, grants, Event.granted?]
    | ok a =>
      by_cases hallows : allows (.ok a) = true
      · by_cases hq : q = p
        · simp [hallows, hq, grants, Event.granted?]
        · simp [hallows, hq, Ne.symm hq, grants, Event.granted?]
      · simp [hallows, grants]

theorem ledgerEvent_ne {call : QuotaCall} {answer : Except Exc (Option QuotaAnswer)} {e : Event}
    (h : ledgerEvent p now call answer = some e) :
    e = .granted p now ∨ e = .ledgerFailed p := by
  unfold ledgerEvent at h
  split at h
  · cases h
  · split at h <;> cases h
    exact .inr rfl
  · split at h <;> cases h
    exact .inl rfl

end ledger

section call
variable {σ : Type} {env : Env σ} {cfg : Config} {first : Cache} {others : List Event → Prop}
  {p q : Provider} {now clock : ℚ} {m : Memory} {w : World σ} {op : QuotaCall}

/-- The request that a call makes of the rows. -/
def asked (env : Env σ) (w : World σ) (call : QuotaCall) (now : ℚ) : QuotaRequest :=
  { call, now, commit := if (env.commits w.env).1 then .done else .refused }

theorem call_log : (w.call env cfg p op now).2.log =
    w.log ++ (ledgerEvent p now op (w.call env cfg p op now).1).toList := rfl

theorem call_rows : (w.call env cfg p op now).2.rows = Function.update w.rows p
    ((cfg.limits p).step (w.rows p) (asked env w op now)).2 := rfl

theorem fetches_ledgerEvent {answer : Except Exc (Option QuotaAnswer)} :
    fetches q (ledgerEvent p now op answer).toList = [] := by
  cases h : ledgerEvent p now op answer with
  | none => rfl
  | some e =>
    obtain rfl | rfl := ledgerEvent_ne h <;> rfl

theorem fetches_call : fetches q (w.call env cfg p op now).2.log = fetches q w.log := by
  rw [call_log, fetches_append, fetches_ledgerEvent, List.append_nil]

theorem grants_call : grants q (w.call env cfg p op now).2.log =
    grants q w.log ++
      if q = p ∧ allows (w.call env cfg p op now).1 then [now] else [] := by
  rw [call_log, grants_append, grants_ledgerEvent]
  intro hstatus
  exact grants_status hstatus

/-- A call whose event the others do not mind. -/
theorem others_call
    (hothers : ∀ log e, others log → (∀ q, e.answer? q = none) → others (log ++ [e]))
    (h : others w.log) : others (w.call env cfg p op now).2.log := by
  rw [call_log]
  cases hevent : ledgerEvent p now op (w.call env cfg p op now).1 with
  | none => simpa using h
  | some e =>
    apply hothers _ _ h
    intro q
    obtain rfl | rfl := ledgerEvent_ne hevent <;> rfl

theorem Sound.call (h : Sound cfg first clock w) (hnow : clock ≤ now) :
    Sound cfg first now (w.call env cfg p op now).2 := by
  have hstep : ∀ q, (cfg.limits q).Within (grants q (w.call env cfg p op now).2.log) ∧
      (cfg.limits q).Accounts (grants q (w.call env cfg p op now).2.log)
        ((w.call env cfg p op now).2.rows q) now := by
    intro q
    rw [grants_call, call_rows]
    by_cases hq : q = p
    · subst hq
      simp only [true_and, Function.update_self]
      exact (cfg.limits q).within_step (h.within q) (h.accounts q) hnow
    · simp only [hq, false_and, if_false, List.append_nil, ne_eq, not_false_eq_true,
        Function.update_of_ne]
      constructor
      · exact h.within q
      · obtain hnil | ⟨r, stamp, hr, hstamp, hcounts⟩ := h.accounts q
        · exact .inl hnil
        · exact .inr ⟨r, stamp, hr, hstamp.trans hnow, hcounts⟩
  constructor
  · exact fun q => (hstep q).2
  · exact fun q => (hstep q).1
  · intro q
    rw [fetches_call, grants_call]
    exact (h.fetched q).trans (List.sublist_append_left _ _)
  · intro q c hc
    exact (h.file q c hc).later
  · rw [call_log]
    cases hevent : ledgerEvent p now op (w.call env cfg p op now).1 with
    | none => simpa using h.lawful
    | some e =>
      apply h.lawful.concat
      obtain rfl | rfl := ledgerEvent_ne hevent <;> trivial

end call

section triples
variable {σ : Type} {env : Env σ} {cfg : Config} {first : Cache} {others : List Event → Prop}
  {p : Provider} {now : ℚ} {w : World σ} {op : QuotaCall} {α : Type}
  (hothers : ∀ log e, others log → (∀ q ≠ p, e.answer? q = none) → others (log ++ [e]))

include hothers

/-- After a call the process should have noted a failure that it has heard of. -/
theorem Live.call (env : Env σ) (op : QuotaCall) (h : Live cfg first others now w) :
    Due cfg first others now
      ((ledgerEvent p now op (w.call env cfg p op now).1).elim w.memory w.memory.after)
      (w.call env cfg p op now).2 := by
  constructor
  · exact h.sound.call le_rfl
  · rw [call_log]
    cases hevent : ledgerEvent p now op (w.call env cfg p op now).1 with
    | none => simpa using h.mirrors
    | some e =>
      apply h.mirrors.after
      obtain rfl | rfl := ledgerEvent_ne hevent <;> nofun
  · apply others_call _ h.others
    intro log e hlog he
    exact hothers log e hlog fun q _ => he q

theorem Live.call_mistrusted (h : Live cfg first others now w) :
    Due cfg first others now w.memory.mistrusted (w.call env cfg p op now).2 := by
  have hcall := h.call hothers env op
  constructor
  · exact hcall.sound
  · have hmirrors := hcall.mirrors.mistrusted
    cases hevent : ledgerEvent p now op (w.call env cfg p op now).1 with
    | none =>
      rw [hevent] at hmirrors
      exact hmirrors
    | some e =>
      rw [hevent] at hmirrors
      obtain rfl | rfl := ledgerEvent_ne hevent <;> exact hmirrors
  · exact hcall.others

/-- A call that the process has not heard to fail. -/
theorem Live.call_trusted (h : Live cfg first others now w)
    (hevent : ledgerEvent p now op (w.call env cfg p op now).1 ≠ some (.ledgerFailed p)) :
    Live cfg first others now (w.call env cfg p op now).2 := by
  have hcall := h.call hothers env op
  constructor
  · exact hcall.sound
  · have hmirrors := hcall.mirrors
    cases hsome : ledgerEvent p now op (w.call env cfg p op now).1 with
    | none =>
      rw [hsome] at hmirrors
      exact hmirrors
    | some e =>
      rw [hsome] at hmirrors
      obtain rfl | rfl := ledgerEvent_ne hsome
      · exact hmirrors
      · exact absurd hsome hevent
  · exact hcall.others

theorem ledgerCall_triple (op : QuotaCall) {act : Act α} {read : QuotaAnswer → Option α}
    {P : World σ → Prop} {Q : α → World σ → Prop}
    (hact : ∀ w, exec env cfg α act w =
      (answerOf read (w.call env cfg p op now).1, (w.call env cfg p op now).2))
    (hP : ∀ w, P w → Live cfg first others now w)
    (hQ : ∀ w a, P w → answerOf read (w.call env cfg p op now).1 = .ok a →
      Live cfg first others now (w.call env cfg p op now).2 → Q a (w.call env cfg p op now).2) :
    Prog.Triple (exec env cfg) P (ledgerCall act)
      (fun
        | .ok a => Q a
        | .error _ => fun w => Due cfg first others now w.memory.mistrusted w ∧
            (op = .status → Live cfg first others now w) ∧ ∃ v, P v ∧ w.memory = v.memory)
      (fun _ => Live cfg first others now) (Sound cfg first now) := by
  refine .bind (Q := fun
    | .ok a => Q a
    | .error e => fun w => Due cfg first others now w.memory.mistrusted w ∧
        (e.kind ≠ .runtime ∨ op = .status → Live cfg first others now w) ∧
        ∃ v, P v ∧ w.memory = v.memory) ?_ ?_
  · apply Prog.Triple.attempt
    apply Prog.Triple.perform
    · intro w hw
      exact (hP w hw).sound
    · intro w a w' hw hrun
      rw [hact, Prod.mk.injEq] at hrun
      obtain ⟨hanswer, rfl⟩ := hrun
      apply hQ w a hw hanswer
      apply (hP w hw).call_trusted hothers
      intro hevent
      generalize (w.call env cfg p op now).1 = answer at hanswer hevent
      cases answer with
      | error e => cases hanswer
      | ok b =>
        cases op <;> simp [ledgerEvent] at hevent
    · intro w e w' hw hrun
      rw [hact, Prod.mk.injEq] at hrun
      obtain ⟨hanswer, rfl⟩ := hrun
      refine ⟨(hP w hw).call_mistrusted hothers, ?_, w, hw, rfl⟩
      intro hquiet
      apply (hP w hw).call_trusted hothers
      intro hevent
      generalize (w.call env cfg p op now).1 = answer at hanswer hevent
      cases answer with
      | error e' =>
        cases hanswer
        cases op <;> simp_all [ledgerEvent]
      | ok b =>
        cases op <;> simp [ledgerEvent] at hevent
  · rintro (e | a)
    · apply Prog.Triple.ite
      · intro hruntime
        apply Prog.Triple.pure
        intro w hw
        exact ⟨hw.1, fun hstatus => hw.2.1 (.inr hstatus), hw.2.2⟩
      · intro hother
        apply Prog.Triple.raise
        intro w hw
        exact hw.2.1 (.inl hother)
    · exact .pure fun w hw => hw

end triples

section provider
variable {σ : Type} {env : Env σ} {cfg : Config} {first : Cache} {others : List Event → Prop}
  {p : Provider} {now : ℚ} {w : World σ} {m : Memory}
  (hothers : ∀ log e, others log → (∀ q ≠ p, e.answer? q = none) → others (log ++ [e]))

/-- A request may go out. -/
structure Clear (cfg : Config) (p : Provider) (now : ℚ) (w : World σ) : Prop where
  serves : cfg.serves p = true
  trusted : Trusted w.log
  due : ∀ c, newest p w.log = some c → cfg.refreshSeconds ≤ c.age now
  counted : (fetches p w.log ++ [now]).Sublist (grants p w.log)

theorem memory_triple {P : World σ → Prop} (hP : ∀ w, P w → Live cfg first others now w) :
    Prog.Triple (exec env cfg) P (.perform .memory) (fun m w => P w ∧ w.memory = m)
      (fun _ => Live cfg first others now) (Sound cfg first now) := by
  apply Prog.Triple.perform
  · intro w hw
    exact (hP w hw).sound
  · intro w a w' hw hrun
    cases hrun
    exact ⟨hw, rfl⟩
  · intro w e w' hw hrun
    cases hrun

theorem modify_triple {f : Memory → Memory} :
    Prog.Triple (exec env cfg) (fun w => Due cfg first others now (f w.memory) w) (modify f)
      (fun m w => Live cfg first others now w ∧ w.memory = m)
      (fun _ => Live cfg first others now) (Sound cfg first now) := by
  refine .bind (Q := fun m w => Due cfg first others now (f m) w) ?_ fun m =>
    .bind (Q := fun _ w => Live cfg first others now w ∧ w.memory = f m) ?_ fun _ => ?_
  · apply Prog.Triple.perform
    · intro w hw
      exact hw.sound
    · intro w a w' hw hrun
      cases hrun
      exact hw
    · intro w e w' hw hrun
      cases hrun
  · apply Prog.Triple.perform
    · intro w hw
      exact hw.sound
    · intro w a w' hw hrun
      cases hrun
      have hsound : Sound cfg first now { w with memory := f m } :=
        ⟨hw.sound.accounts, hw.sound.within, hw.sound.fetched, hw.sound.file, hw.sound.lawful⟩
      exact ⟨⟨hsound, hw.mirrors, hw.others⟩, rfl⟩
    · intro w e w' hw hrun
      cases hrun
  · exact .pure fun w hw => hw

theorem saveCache_triple :
    Prog.Triple (exec env cfg) (fun w => Live cfg first others now w ∧ w.memory = m)
      (.perform (.saveCache m.cache)) (fun _ => Live cfg first others now)
      (fun _ => Live cfg first others now) (Sound cfg first now) := by
  apply Prog.Triple.perform
  · intro w hw
    exact hw.1.sound
  · rintro w a w' ⟨hw, rfl⟩ hrun
    cases hrun
    refine ⟨⟨hw.sound.accounts, hw.sound.within, hw.sound.fetched, ?_, hw.sound.lawful⟩,
      hw.mirrors, hw.others⟩
    intro q c hc
    dsimp only at hc
    split at hc
    · exact hw.mirrors.known q c hc
    · exact hw.sound.file q c hc
  · intro w e w' hw hrun
    cases hrun

include hothers

theorem fetch_triple :
    Prog.Triple (exec env cfg) (fun w => Live cfg first others now w ∧ Clear cfg p now w)
      (.perform (.fetch p now))
      (fun a w => Due cfg first others now (w.memory.after (.fetched p now a)) w)
      (fun _ => Live cfg first others now) (Sound cfg first now) := by
  apply Prog.Triple.perform
  · intro w hw
    exact hw.1.sound
  · rintro w a w' ⟨hw, hclear⟩ hrun
    cases hrun
    have hgrants : ∀ q, grants q (w.log ++ [.fetched p now (env.fetches p w.env).1]) =
        grants q w.log := by
      intro q
      rw [grants_append]
      exact List.append_nil _
    constructor
    · constructor
      · intro q
        exact (hgrants q).symm ▸ hw.sound.accounts q
      · intro q
        exact (hgrants q).symm ▸ hw.sound.within q
      · intro q
        refine (hgrants q).symm ▸ ?_
        dsimp only
        rw [fetches_append]
        by_cases hq : q = p
        · subst hq
          simpa [fetches, Event.fetched?] using hclear.counted
        · simpa [fetches, Event.fetched?, Ne.symm hq] using hw.sound.fetched q
      · intro q c hc
        exact (hw.sound.file q c hc).later
      · exact hw.sound.lawful.concat ⟨hclear.serves, hclear.trusted, hclear.due⟩
    · exact hw.mirrors.after nofun
    · apply hothers _ _ hw.others
      intro q hq
      cases (env.fetches p w.env).1 with
      | error failure => rfl
      | ok data => simp [Event.answer?, Ne.symm hq]
  · intro w e w' hw hrun
    cases hrun

theorem quotaStatus_triple :
    Prog.Triple (exec env cfg) (fun w => Live cfg first others now w ∧ w.memory = m)
      (quotaStatus m p now) (fun _ w => Live cfg first others now w ∧ w.memory = m)
      (fun _ => Live cfg first others now) (Sound cfg first now) := by
  unfold quotaStatus
  apply Prog.Triple.ite
  · intro _
    refine .bind (ledgerCall_triple (Q := fun _ w =>
      Live cfg first others now w ∧ w.memory = m) hothers .status (fun _ => rfl)
      (fun w hw => hw.1) fun w a hw _ hlive => ⟨hlive, hw.2⟩) ?_
    rintro (e | quota)
    · apply Prog.Triple.pure
      rintro w ⟨-, hlive, v, hv, hmemory⟩
      exact ⟨hlive rfl, hmemory.trans hv.2⟩
    · exact .pure fun w hw => hw
  · intro _
    exact .pure fun w hw => hw

theorem marked_triple {op : QuotaCall} {before : PublicQuota} :
    Prog.Triple (exec env cfg) (Live cfg first others now) (marked p now op before)
      (fun _ => Live cfg first others now) (fun _ => Live cfg first others now)
      (Sound cfg first now) := by
  refine .bind (ledgerCall_triple (P := Live cfg first others now)
    (Q := fun _ => Live cfg first others now) hothers op (fun _ => rfl)
    (fun w hw => hw) fun w a hw _ hlive => hlive) ?_
  rintro (e | quota)
  · refine .bind (modify_triple.weaken fun w hw => hw.1) fun _ => ?_
    exact .pure fun w hw => hw.1
  · exact .pure fun w hw => hw

end provider

section snapshot
variable {σ : Type} {env : Env σ} {cfg : Config} {first : Cache} {others : List Event → Prop}
  {p : Provider} {now : ℚ} {w : World σ} {m : Memory}

/-- A provider has been asked for its part, and `r` is it. -/
def Answered (cfg : Config) (first : Cache) (others : List Event → Prop) (p : Provider) (now : ℚ)
    (r : Result) (w : World σ) : Prop :=
  Live cfg first others now w ∧ Honest cfg first w.log p now r

theorem Live.answered {status : Status} {reason : Option Reason} {quota : Option PublicQuota}
    (h : Live cfg first others now w ∧ w.memory = m) (hserves : cfg.serves p = true) :
    Answered cfg first others p now (cfg.result m p now status reason quota) w := by
  obtain ⟨hlive, rfl⟩ := h
  exact ⟨hlive, hlive.mirrors.honest fun _ => hserves⟩

section keeps
variable
  (hothers : ∀ log e, others log → (∀ q ≠ p, e.answer? q = none) → others (log ++ [e]))
include hothers

theorem request_triple (hserves : cfg.serves p = true) {before : PublicQuota} :
    Prog.Triple (exec env cfg) (fun w => Live cfg first others now w ∧ Clear cfg p now w)
      (request cfg p now before) (Answered cfg first others p now)
      (fun _ => Live cfg first others now) (Sound cfg first now) := by
  refine .bind (fetch_triple hothers) ?_
  rintro (failure | data)
  · refine .bind ((marked_triple hothers).weaken fun w hw => hw) fun quota =>
      .bind (memory_triple fun w hw => hw) fun m => ?_
    exact .pure fun w hw => Live.answered hw hserves
  · refine .bind (modify_triple.weaken fun w hw => hw) fun m =>
      .bind saveCache_triple fun persisted => .bind (marked_triple hothers) fun quota =>
      .bind (memory_triple fun w hw => hw) fun m => ?_
    apply Prog.Triple.pure
    intro w hw
    have hanswered : Answered cfg first others p now
        (cfg.result m p now .fresh none (some quota)) w := Live.answered hw hserves
    exact ⟨hanswered.1, hanswered.2.persisted⟩

theorem reserve_triple (hserves : cfg.serves p = true) :
    Prog.Triple (exec env cfg)
      (fun w => Live cfg first others now w ∧ w.memory.ledgerError = false ∧
        cfg.recent p now w.memory = false)
      (ledgerCall (.reserve p now))
      (fun
        | .ok decision => fun w => Live cfg first others now w ∧
            (decision.allowed = true → Clear cfg p now w)
        | .error _ => fun w => Due cfg first others now w.memory.mistrusted w)
      (fun _ => Live cfg first others now) (Sound cfg first now) := by
  refine (ledgerCall_triple (Q := fun decision w =>
    Live cfg first others now w ∧ (decision.allowed = true → Clear cfg p now w)) hothers .reserve
    (fun _ => rfl) (fun w hw => hw.1) ?_).post ?_
  · rintro w decision ⟨hlive, htrusts, hrecent⟩ hanswer hafter
    refine ⟨hafter, fun hallowed => ?_⟩
    have hallows : allows (w.call env cfg p .reserve now).1 = true := by
      generalize (w.call env cfg p .reserve now).1 = answer at hanswer
      rcases answer with e | _ | (d | quota | _) <;> cases hanswer
      exact hallowed
    constructor
    · exact hserves
    · exact hafter.mirrors.trusted htrusts
    · intro c hc
      exact hafter.mirrors.due hrecent hc
    · rw [fetches_call, grants_call, if_pos ⟨rfl, hallows⟩]
      exact (hlive.sound.fetched p).append (List.Sublist.refl _)
  · rintro (e | decision) w hw
    · exact hw.1
    · exact hw

theorem reserved_triple (hserves : cfg.serves p = true) :
    Prog.Triple (exec env cfg)
      (fun w => Live cfg first others now w ∧ w.memory.ledgerError = false ∧
        cfg.recent p now w.memory = false)
      (reserved cfg p now) (Answered cfg first others p now)
      (fun _ => Live cfg first others now) (Sound cfg first now) := by
  refine .bind (reserve_triple hothers hserves) ?_
  rintro (e | decision)
  · refine .bind modify_triple fun m => ?_
    exact .pure fun w hw => Live.answered hw hserves
  · apply Prog.Triple.ite
    · intro hallowed
      exact (request_triple hothers hserves).weaken fun w hw => ⟨hw.1, hw.2 hallowed⟩
    · intro _
      refine .bind (memory_triple fun w hw => hw.1) fun m => ?_
      exact .pure fun w hw => Live.answered ⟨hw.1.1, hw.2⟩ hserves

theorem provider_triple :
    Prog.Triple (exec env cfg) (Live cfg first others now) (provider cfg p now)
      (Answered cfg first others p now) (fun _ => Live cfg first others now)
      (Sound cfg first now) := by
  refine .bind (memory_triple fun w hw => hw) fun m => ?_
  apply Prog.Triple.ite
  · intro _
    apply Prog.Triple.pure
    rintro w ⟨hlive, rfl⟩
    exact ⟨hlive, hlive.mirrors.honest nofun⟩
  intro henabled
  apply Prog.Triple.ite
  · intro _
    apply Prog.Triple.pure
    rintro w ⟨hlive, rfl⟩
    exact ⟨hlive, hlive.mirrors.honest nofun⟩
  intro hkey
  have hserves : cfg.serves p = true := by
    simp_all [Config.serves]
  apply Prog.Triple.ite
  · intro _
    refine .bind (quotaStatus_triple hothers) fun quota => ?_
    exact .pure fun w hw => Live.answered hw hserves
  intro hrecent
  apply Prog.Triple.ite
  · intro _
    exact .pure fun w hw => Live.answered hw hserves
  · intro hledger
    apply (reserved_triple hothers hserves).weaken
    rintro w ⟨hlive, rfl⟩
    simp_all

end keeps

/-- A snapshot shows every provider honestly, the first one still so when the second is done. -/
theorem snapshot_triple (env : Env σ) (first : Cache) :
    Prog.Triple (exec env cfg) (Live cfg first (fun _ => True) now) (snapshot cfg now)
      (fun results w => Live cfg first (fun _ => True) now w ∧
        ∀ p, Honest cfg first w.log p now (results p))
      (fun _ => Live cfg first (fun _ => True) now) (Sound cfg first now) := by
  have hsecond : ∀ coingecko, Prog.Triple (exec env cfg)
      (Live cfg first (fun log => Honest cfg first log .coingecko now coingecko) now)
      (provider cfg .coinmarketcap now)
      (Answered cfg first (fun log => Honest cfg first log .coingecko now coingecko)
        .coinmarketcap now)
      (fun _ => Live cfg first (fun log => Honest cfg first log .coingecko now coingecko) now)
      (Sound cfg first now) := by
    intro coingecko
    apply provider_triple
    intro log e hhonest he
    exact hhonest.later (he .coingecko nofun)
  refine .bind (provider_triple fun _ _ _ _ => trivial) fun coingecko =>
    .bind ((hsecond coingecko).conseq ?_ (fun _ _ hw => hw) ?_ fun _ hw => hw)
      fun coinmarketcap => ?_
  · rintro w ⟨hlive, hhonest⟩
    exact ⟨hlive.sound, hlive.mirrors, hhonest⟩
  · intro e w hw
    exact ⟨hw.sound, hw.mirrors, trivial⟩
  · apply Prog.Triple.pure
    rintro w ⟨hlive, hhonest⟩
    refine ⟨⟨hlive.sound, hlive.mirrors, trivial⟩, ?_⟩
    rintro (_ | _)
    · exact hlive.others
    · exact hhonest

end snapshot

/-! ### Runs -/

section run
variable {σ : Type} {env : Env σ} {cfg : Config} {first : Cache} {clock now : ℚ} {w w' : World σ}

theorem Sound.later (h : Sound cfg first clock w) (hnow : clock ≤ now) :
    Sound cfg first now w := by
  refine ⟨?_, h.within, h.fetched, h.file, h.lawful⟩
  intro p
  obtain hnil | ⟨r, stamp, hr, hstamp, hcounts⟩ := h.accounts p
  · exact .inl hnil
  · exact .inr ⟨r, stamp, hr, hstamp.trans hnow, hcounts⟩

/-- An event that neither grants nor makes a request. -/
theorem Sound.note {e : Event} (h : Sound cfg first clock w) (hrows : w'.rows = w.rows)
    (hfile : w'.file = w.file) (hlog : w'.log = w.log ++ [e])
    (hquiet : ∀ p, e.granted? p = none ∧ e.fetched? p = none)
    (hallowed : Allowed cfg first w.log e) : Sound cfg first clock w' := by
  have hgrants : ∀ p, grants p w'.log = grants p w.log := by
    intro p
    simp [hlog, grants, (hquiet p).1]
  have hfetches : ∀ p, fetches p w'.log = fetches p w.log := by
    intro p
    simp [hlog, fetches, (hquiet p).2]
  constructor
  · intro p
    rw [hgrants, hrows]
    exact h.accounts p
  · intro p
    rw [hgrants]
    exact h.within p
  · intro p
    rw [hgrants, hfetches]
    exact h.fetched p
  · intro p c hc
    rw [hfile] at hc
    rw [hlog]
    exact (h.file p c hc).later
  · rw [hlog]
    exact h.lawful.concat hallowed

/-- A process, if there is one, has the memory it should have. -/
structure Kept (cfg : Config) (first : Cache) (clock : ℚ) (w : World σ) : Prop where
  sound : Sound cfg first clock w
  live : w.alive = true → Mirrors first w.log w.memory

theorem Mirrors.opened {log : List Event} {file : Cache} {readable opens : Bool}
    (h : ∀ p c, file p = some c → Known first log p c) :
    Mirrors first (log ++ [.opened]) (cfg.opened readable opens file) := by
  constructor
  · intro p c hc
    have hsanitized : (file p).bind Cached.sanitized = some c := by
      simp only [Config.opened] at hc
      split at hc
      · exact hc
      · cases hc
    obtain ⟨c', hfile, hsome⟩ := Option.bind_eq_some_iff.mp hsanitized
    have hsame : c' = c := by
      unfold Cached.sanitized at hsome
      split at hsome
      · exact Option.some.inj hsome
      · cases hsome
    exact (h p c (hsame ▸ hfile)).later
  · intro p c hc
    have hanswer : Event.answer? p .opened = some none := rfl
    rw [Context.newest, History.latest_mark hanswer] at hc
    cases hc
  · intro _
    exact History.latest_mark rfl

theorem Kept.turn (h : Kept cfg first clock w) (turn : Turn)
    (hnow : ∀ now ∈ turn.now, clock ≤ now) :
    Kept cfg first (turn.now.getD clock) (w.turn env cfg turn) := by
  cases turn with
  | start readable opens =>
    constructor
    · exact h.sound.note rfl rfl rfl (fun _ => ⟨rfl, rfl⟩) trivial
    · intro _
      exact Mirrors.opened h.sound.file
  | snapshot now budget =>
    have hsound : Sound cfg first now w := h.sound.later (hnow now rfl)
    unfold World.turn
    dsimp only
    split
    · next halive =>
      have hsnapshot := snapshot_triple env first w ⟨hsound, h.live halive, trivial⟩
      have hrun := Prog.wp_run hsnapshot budget
      generalize Prog.run (exec env cfg) budget (snapshot cfg now) w = r at hrun ⊢
      rcases r with ⟨results | e | _, w'⟩
      · obtain ⟨hlive, hhonest⟩ := hrun
        constructor
        · exact hlive.sound.note rfl rfl rfl (fun _ => ⟨rfl, rfl⟩) hhonest
        · intro _
          exact hlive.mirrors.other (fun _ => rfl) rfl
      · exact ⟨hrun.sound, fun _ => hrun.mirrors⟩
      · constructor
        · exact ⟨hrun.accounts, hrun.within, hrun.fetched, hrun.file, hrun.lawful⟩
        · nofun
    · next hdead => exact ⟨hsound, fun halive => absurd halive hdead⟩

/-- Requests that are left out leave the limits. -/
theorem Within.sublist {limits : Limits} {fewer past : List ℚ} (h : limits.Within past)
    (hfewer : fewer.Sublist past) : limits.Within fewer := by
  constructor
  · intro month
    exact hfewer.countP_le.trans (h.month month)
  · intro window
    exact hfewer.countP_le.trans (h.minute window)
  · exact h.spaced.sublist hfewer

theorem Kept.run (turns : List Turn) (h : Kept cfg first clock w)
    (hclock : (clock :: turns.filterMap Turn.now).Pairwise (· ≤ ·)) :
    ∃ clock, Kept cfg first clock (w.run env cfg turns) := by
  induction turns generalizing w clock with
  | nil => exact ⟨clock, h⟩
  | cons turn rest ih =>
    cases hturn : turn.now with
    | none =>
      rw [List.filterMap_cons_none hturn] at hclock
      have hkept : Kept cfg first _ (w.turn env cfg turn) := h.turn turn (by simp [hturn])
      rw [hturn] at hkept
      exact ih hkept hclock
    | some now =>
      rw [List.filterMap_cons_some hturn] at hclock
      obtain ⟨hfirst, hrest⟩ := List.pairwise_cons.mp hclock
      have hnow : ∀ now ∈ turn.now, clock ≤ now := by
        intro now' hmem
        cases Option.mem_unique hmem hturn
        exact hfirst now List.mem_cons_self
      have hkept : Kept cfg first _ (w.turn env cfg turn) := h.turn turn hnow
      rw [hturn] at hkept
      exact ih hkept hrest

/-- Over every run of the context service with a clock that does not go back, whatever the
providers answer and whatever fails, and wherever its process dies and starts again: the requests
of each provider keep its limits. A request is made of a served provider only, by a process none of
whose reservations and marks has failed, and not before the process's newest answer of it is due;
and every snapshot shows of a provider the newest answer that the process has had, or one that was
saved. -/
theorem context_kept (env : Env σ) (cfg : Config) (rows : Provider → Option QuotaRow)
    (file : Cache) (s : σ) (turns : List Turn)
    (hclock : (turns.filterMap Turn.now).Pairwise (· ≤ ·)) :
    (∀ p, (cfg.limits p).Within (fetches p ((World.first rows file s).run env cfg turns).log)) ∧
      History.Lawful (Allowed cfg file) ((World.first rows file s).run env cfg turns).log := by
  have hfirst : ∀ clock, Kept cfg file clock (World.first rows file s) := by
    intro clock
    refine ⟨⟨fun p => .inl rfl, ?_, fun p => List.Sublist.refl _, ?_, History.Lawful.nil⟩, nofun⟩
    · intro p
      constructor <;> simp [grants, World.first]
    · intro p c hc
      exact .inl hc
  obtain ⟨clock, hkept⟩ :
      ∃ clock, Kept cfg file clock ((World.first rows file s).run env cfg turns) := by
    cases hreadings : turns.filterMap Turn.now with
    | nil =>
      apply (hfirst 0).run
      rw [hreadings]
      exact List.pairwise_singleton _ _
    | cons now rest =>
      apply (hfirst now).run
      rw [hreadings] at hclock ⊢
      obtain ⟨hnow, hrest⟩ := List.pairwise_cons.mp hclock
      apply List.pairwise_cons.mpr
      refine ⟨?_, hclock⟩
      intro later hlater
      obtain rfl | hlater := List.mem_cons.mp hlater
      · exact le_rfl
      · exact hnow later hlater
  constructor
  · intro p
    exact Within.sublist (hkept.sound.within p) (hkept.sound.fetched p)
  · exact hkept.sound.lawful

end run

/-- One provider, and one request for it that is refused and one that is answered. -/
def oneProvider : Config where
  specs
    | .coingecko => { enabled := true, credentialPresent := true, minuteCap := 96, monthlyCap := 2 }
    | .coinmarketcap => { enabled := true, credentialPresent := false }
  refreshSeconds := 300
  staleAfterSeconds := 900

def answers : Env (List FetchAnswer) where
  commits s := (true, s)
  fetches _ s := (s.headD (.error .transport), s.tail)
  saves s := (true, s)

/-- The process dies before it has marked its request, and starts again from the file it had
written. -/
def restarted : List Turn :=
  [.start true true, .snapshot 1735689500 100, .snapshot 1735689810 8, .start true true,
    .snapshot 1735690100 100]

def bitcoin : Metrics where
  priceUsd := 95000
  marketCapUsd := 1900000000000
  volume24hUsd := 40000000000
  percentChange24h := 1 / 2
  sourceUpdatedAt := 1735689400

theorem context_kept_restarted :
    let log := ((World.first (fun _ => none) (fun _ => none)
      [.error (.http 429 none), .ok bitcoin]).run answers oneProvider restarted).log
    fetches .coingecko log = [1735689500, 1735689810] ∧
      (∀ p, (oneProvider.limits p).Within (fetches p log)) ∧
      History.Lawful (Allowed oneProvider fun _ => none) log :=
  ⟨by decide +kernel, context_kept _ _ _ _ _ restarted (by decide +kernel)⟩

end SpotSidecar.MoneyFlow.Context
