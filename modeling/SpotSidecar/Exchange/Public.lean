import Mathlib.Algebra.Order.Ring.Rat
import SpotSidecar.Collections.History
import SpotSidecar.Interaction.Triple
import SpotSidecar.Json.Value

/-! The client of the public market data: its retries, its pauses, and the ban that it remembers. -/
namespace SpotSidecar.Public
open Interaction

structure Request where
  path : String
  params : List (String × String)

/-- What `requests` gives back; the text of the header, and the body where it is JSON. -/
inductive Reply (β : Type) where
  | fault (text : String)
  | response (status : ℕ) (retryAfter : Option String) (body : Option β)

inductive Failure where
  | rateLimit (status : ℕ) (retryAfter : ℚ)
  | publicError (text : String)
  | httpError (status : ℕ)
  | valueError
  | auditError

structure Client where
  /-- `float` of a text; none where it raises. -/
  floatOf : String → Option (Double ℚ)
  maxAttempts : ℕ

/-- A draw of `random.uniform(0, 0.5)`. -/
structure Jitter where
  seconds : ℚ
  nonneg : 0 ≤ seconds
  le : seconds ≤ 1 / 2

inductive Act (β : Type) : Type → Type 1 where
  | bannedUntil : Act β ℚ
  | setBannedUntil (stamp : ℚ) : Act β Unit
  | time : Act β ℚ
  | get (request : Request) : Act β (Reply β)
  | uniform : Act β Jitter
  | sleep (seconds : ℚ) : Act β Unit
  | audit : Act β Unit

abbrev Calling (β : Type) := Prog Failure (Act β)

section programs
variable {β : Type} (client : Client)

/-- `max(1.0, min(value, maximum))` -/
def clamp (maximum : ℚ) : Double ℚ → ℚ
  | .finite x => max 1 (min x maximum)
  | .nan => 1
  | .infinity negative => if negative then 1 else max 1 maximum

/-- `_retry_after_seconds` -/
def Client.retryAfterSeconds (header : Option String) (default maximum : ℚ) : ℚ :=
  clamp maximum ((header.bind client.floatOf).getD (.finite default))

def pause (seconds : ℚ) : Calling β Unit := do
  let jitter ← .perform .uniform
  .perform (.sleep (seconds + jitter.seconds))

/-- The exception at the end. -/
def Client.failed (request : Request) (lastError : Option String) : Failure :=
  .publicError (s!"public GET {request.path} failed after {client.maxAttempts} attempts: " ++
    lastError.getD "None")

/-- What follows an attempt that failed, with `left` attempts after it. -/
def Client.backoff (request : Request) (left attempt : ℕ) (lastError : String)
    (next : Calling β β) : Calling β β :=
  if left = 0 then .raise (client.failed request lastError)
  else do
    pause (min (2 * 2 ^ attempt) 30)
    next

/-- What follows a 418. -/
def Client.ban (header : Option String) : Calling β β := do
  let retryAfter := client.retryAfterSeconds header 3600 259200
  let now ← .perform .time
  .perform (.setBannedUntil (now + retryAfter))
  .perform .audit
  .raise (.rateLimit 418 retryAfter)

/-- What follows a 429. -/
def Client.limited (left : ℕ) (header : Option String) (next : Calling β β) : Calling β β := do
  let retryAfter := client.retryAfterSeconds header 2 120
  .perform .audit
  if left = 0 then .raise (.rateLimit 429 retryAfter)
  else do
    pause retryAfter
    next

/-- `raise_for_status`, and the body. -/
def settle (status : ℕ) (body : Option β) : Calling β β :=
  if 400 ≤ status ∧ status < 600 then .raise (.httpError status)
  else match body with
    | some body => Pure.pure body
    | none => .raise .valueError

/-- The loop of `get`, with `left` attempts to go. -/
def Client.attempts (request : Request) : ℕ → ℕ → Option String → Calling β β
  | 0, _, lastError => .raise (client.failed request lastError)
  | left + 1, attempt, lastError => do
    match ← .perform (.get request) with
    | .fault text =>
      client.backoff request left attempt text (attempts request left (attempt + 1) text)
    | .response status header body =>
      if status = 418 then client.ban header
      else if status = 429 then
        client.limited left header (attempts request left (attempt + 1) lastError)
      else if 500 ≤ status ∧ status < 600 then
        client.backoff request left attempt s!"HTTP {status} from {request.path}"
          (attempts request left (attempt + 1) s!"HTTP {status} from {request.path}")
      else settle status body

def Client.get (request : Request) : Calling β β := do
  let bannedUntil ← .perform .bannedUntil
  let now ← .perform .time
  if 0 < bannedUntil - now then .raise (.rateLimit 418 (bannedUntil - now))
  else client.attempts request client.maxAttempts 0 none

end programs

inductive Event (β : Type) where
  | started
  | called (request : Request)
  | time (now : ℚ)
  | sent (request : Request)
  | answered (reply : Reply β)
  | slept (seconds : ℚ)
  | banned (stamp : ℚ)
  | returned (body : β)

structure Env (β σ : Type) where
  time : σ → ℚ × σ
  get : Request → σ → Reply β × σ
  uniform : σ → Jitter × σ
  audits : σ → Bool × σ

/-- The memory of the process; the log is a record of the run that nothing reads. -/
structure World (β σ : Type) where
  bannedUntil : ℚ := 0
  log : List (Event β) := []
  env : σ

section run
variable {β σ : Type} (env : Env β σ) (client : Client)

def exec : (γ : Type) → Act β γ → World β σ → Except Failure γ × World β σ
  | _, .bannedUntil, w => (.ok w.bannedUntil, w)
  | _, .setBannedUntil stamp, w =>
    (.ok (), { w with bannedUntil := stamp, log := w.log ++ [.banned stamp] })
  | _, .time, w =>
    let read := env.time w.env
    (.ok read.1, { w with log := w.log ++ [.time read.1], env := read.2 })
  | _, .get request, w =>
    let reply := env.get request w.env
    (.ok reply.1, { w with log := w.log ++ [.sent request, .answered reply.1], env := reply.2 })
  | _, .uniform, w => (.ok (env.uniform w.env).1, { w with env := (env.uniform w.env).2 })
  | _, .sleep seconds, w => (.ok (), { w with log := w.log ++ [.slept seconds] })
  | _, .audit, w =>
    let audited := env.audits w.env
    (if audited.1 then .ok () else .error .auditError, { w with env := audited.2 })

/-- A call, in which the process may die, or a new process. -/
inductive Turn where
  | get (request : Request) (budget : ℕ)
  | restart

def World.restarted (w : World β σ) : World β σ :=
  { w with bannedUntil := 0, log := w.log ++ [.started] }

def World.turn (w : World β σ) : Turn → World β σ
  | .get request budget =>
    let called := { w with log := w.log ++ [.called request] }
    match Prog.run (exec env) budget (client.get request) called with
    | (.done body, w) => { w with log := w.log ++ [.returned body] }
    | (.raised _, w) => w
    | (.crashed, w) => w.restarted
  | .restart => w.restarted

def World.run (w : World β σ) (turns : List Turn) : World β σ :=
  turns.foldl (World.turn env client) w

end run

/-! ### What a request waits for -/

section discipline
variable {β : Type} (client : Client)

/-- The moment until which the process is banned, as the log tells. -/
def banMark : Event β → Option ℚ
  | .banned stamp => some stamp
  | .started => some 0
  | _ => none

def banOf (log : List (Event β)) : ℚ := (History.latest banMark log).getD 0

/-- The least pause after an answer to the attempt with this number, where it is tried again. -/
def Client.required (attempt : ℕ) : Reply β → Option ℚ
  | .fault _ => some (min (2 * 2 ^ attempt) 30)
  | .response status header _ =>
    if status = 429 then some (client.retryAfterSeconds header 2 120)
    else if 500 ≤ status ∧ status < 600 then some (min (2 * 2 ^ attempt) 30)
    else none

/-- The attempts of a call so far, each with the pause after it. -/
def trace (request : Request) (tries : List (Reply β × ℚ)) : List (Event β) :=
  tries.flatMap fun t => [.sent request, .answered t.1, .slept t.2]

/-- Each of the answers is one after which it is tried again, and the pause is long enough. -/
def Paced (tries : List (Reply β × ℚ)) : Prop :=
  ∀ i t, tries[i]? = some t → ∃ seconds, client.required i t.1 = some seconds ∧ seconds ≤ t.2

/-- A call is at work: no ban was on when it began, and all its attempts so far were paced. -/
def Trying (request : Request) (attempt : ℕ) (log : List (Event β)) : Prop :=
  ∃ before now tries, log = before ++ .called request :: .time now :: trace request tries ∧
    banOf before ≤ now ∧ Paced client tries ∧ tries.length = attempt

/-- What stands behind an event. -/
def Allowed (past : List (Event β)) : Event β → Prop
  | .sent request => ∃ attempt, attempt < client.maxAttempts ∧ Trying client request attempt past
  | .banned stamp => ∃ before request header body now, past = before ++
      [.sent request, .answered (.response 418 header body), .time now] ∧
      stamp = now + client.retryAfterSeconds header 3600 259200
  | .returned body => ∃ before request status header, past = before ++
      [.sent request, .answered (.response status header (some body))] ∧
      ¬(400 ≤ status ∧ status < 600)
  | _ => True

end discipline

/-! ### What every act keeps -/

section kept
variable {β σ : Type} {env : Env β σ} {client : Client} {w : World β σ} {log : List (Event β)}
  {request : Request}

theorem banOf_other {e : Event β} (h : banMark e = none) : banOf (log ++ [e]) = banOf log := by
  rw [banOf, banOf, History.latest_other h]

theorem banOf_mark {e : Event β} {stamp : ℚ} (h : banMark e = some stamp) :
    banOf (log ++ [e]) = stamp := by
  rw [banOf, History.latest_mark h]
  rfl

/-- The process remembers the ban that its log tells of. -/
structure BanRemembered (client : Client) (w : World β σ) : Prop where
  ban : w.bannedUntil = banOf w.log
  lawful : History.Lawful (Allowed client) w.log

theorem BanRemembered.note {e : Event β} (h : BanRemembered client w) (hmark : banMark e = none)
    (he : Allowed client w.log e) : BanRemembered client { w with log := w.log ++ [e] } := by
  constructor
  · rw [banOf_other hmark]
    exact h.ban
  · exact h.lawful.concat he

theorem BanRemembered.marked {e : Event β} {stamp : ℚ} (h : BanRemembered client w)
    (hmark : banMark e = some stamp) (he : Allowed client w.log e) :
    BanRemembered client { w with bannedUntil := stamp, log := w.log ++ [e] } := by
  constructor
  · rw [banOf_mark hmark]
  · exact h.lawful.concat he

/-- Where the log is `log`. -/
def BanRememberedAt (client : Client) (log : List (Event β)) (w : World β σ) : Prop :=
  BanRemembered client w ∧ w.log = log

theorem bannedUntil_triple :
    Prog.Triple (exec env) (BanRememberedAt client log) (.perform .bannedUntil)
    (fun stamp w => BanRememberedAt client log w ∧ stamp = banOf log)
    (fun _ => BanRemembered client) (BanRemembered client) := by
  apply Prog.Triple.perform
  · exact fun w hw => hw.1
  · rintro w a w' ⟨hw, rfl⟩ hrun
    cases hrun
    exact ⟨⟨hw, rfl⟩, hw.ban⟩
  · intro w e w' hw hrun
    cases hrun

theorem setBannedUntil_triple {stamp : ℚ} (h : Allowed client log (.banned stamp)) :
    Prog.Triple (exec env) (BanRememberedAt client log) (.perform (.setBannedUntil stamp))
      (fun _ => BanRememberedAt client (log ++ [.banned stamp])) (fun _ => BanRemembered client)
      (BanRemembered client) := by
  apply Prog.Triple.perform
  · exact fun w hw => hw.1
  · rintro w a w' ⟨hw, rfl⟩ hrun
    cases hrun
    exact ⟨hw.marked rfl h, rfl⟩
  · intro w e w' hw hrun
    cases hrun

theorem time_triple : Prog.Triple (exec env) (BanRememberedAt client log) (.perform .time)
    (fun now => BanRememberedAt client (log ++ [.time now])) (fun _ => BanRemembered client)
    (BanRemembered client) := by
  apply Prog.Triple.perform
  · exact fun w hw => hw.1
  · rintro w a w' ⟨hw, rfl⟩ hrun
    cases hrun
    have hnote : BanRemembered client { w with log := w.log ++ [.time (env.time w.env).1] } :=
      hw.note rfl trivial
    exact ⟨⟨hnote.ban, hnote.lawful⟩, rfl⟩
  · intro w e w' hw hrun
    cases hrun

theorem get_triple (h : Allowed client log (.sent request)) :
    Prog.Triple (exec env) (BanRememberedAt client log) (.perform (.get request))
      (fun reply => BanRememberedAt client (log ++ [.sent request, .answered reply]))
      (fun _ => BanRemembered client)
      (BanRemembered client) := by
  apply Prog.Triple.perform
  · exact fun w hw => hw.1
  · rintro w a w' ⟨hw, rfl⟩ hrun
    cases hrun
    have hsent : BanRemembered client { w with log := w.log ++ [.sent request] } := hw.note rfl h
    have hanswered : BanRemembered client { w with
        log := w.log ++ [.sent request] ++ [.answered (env.get request w.env).1] } :=
      hsent.note rfl trivial
    rw [List.append_assoc] at hanswered
    exact ⟨⟨hanswered.ban, hanswered.lawful⟩, rfl⟩
  · intro w e w' hw hrun
    cases hrun

theorem audit_triple : Prog.Triple (exec env) (BanRememberedAt client log) (.perform .audit)
    (fun _ => BanRememberedAt client log) (fun _ => BanRemembered client)
    (BanRemembered client) := by
  have hkept : ∀ w : World β σ, BanRememberedAt client log w →
      BanRememberedAt client log (exec env _ .audit w).2 := by
    rintro w ⟨hw, rfl⟩
    exact ⟨⟨hw.ban, hw.lawful⟩, rfl⟩
  have hsame := Prog.Triple.perform_same (fun _ hw => hw) hkept
  exact hsame.conseq (fun _ hw => hw) (fun _ _ hw => hw) (fun _ _ hw => hw.1) fun _ hw => hw.1

/-- A pause is never shorter than what it is for. -/
theorem pause_triple {seconds : ℚ} :
    Prog.Triple (exec env) (BanRememberedAt client log) (pause seconds)
    (fun _ w => ∃ slept, seconds ≤ slept ∧ BanRememberedAt client (log ++ [.slept slept]) w)
    (fun _ => BanRemembered client) (BanRemembered client) := by
  apply Prog.Triple.bind (Q := fun _ => BanRememberedAt client log)
  · apply Prog.Triple.perform
    · exact fun w hw => hw.1
    · rintro w a w' ⟨hw, rfl⟩ hrun
      cases hrun
      exact ⟨⟨hw.ban, hw.lawful⟩, rfl⟩
    · intro w e w' hw hrun
      cases hrun
  · intro jitter
    apply Prog.Triple.perform
    · exact fun w hw => hw.1
    · rintro w a w' ⟨hw, rfl⟩ hrun
      cases hrun
      have hlong : seconds ≤ seconds + jitter.seconds := le_add_of_nonneg_right jitter.nonneg
      exact ⟨_, hlong, hw.note rfl trivial, rfl⟩
    · intro w e w' hw hrun
      cases hrun

end kept

/-! ### A call -/

section calls
variable {β σ : Type} {env : Env β σ} {client : Client} {log : List (Event β)} {request : Request}
  {left attempt : ℕ}

theorem Paced.concat {tries : List (Reply β × ℚ)} {reply : Reply β} {seconds slept : ℚ}
    (h : Paced client tries) (hrequired : client.required tries.length reply = some seconds)
    (hslept : seconds ≤ slept) : Paced client (tries ++ [(reply, slept)]) := by
  intro i t ht
  rcases Nat.lt_or_ge i tries.length with hlt | hge
  · rw [List.getElem?_append_left hlt] at ht
    exact h i t ht
  · rw [List.getElem?_append_right hge, List.getElem?_singleton] at ht
    split at ht
    · next hi =>
      cases ht
      have hlast : i = tries.length := by omega
      rw [hlast]
      exact ⟨seconds, hrequired, hslept⟩
    · cases ht

/-- One more attempt, and the pause after it. -/
theorem Trying.again {reply : Reply β} {seconds slept : ℚ} (h : Trying client request attempt log)
    (hrequired : client.required attempt reply = some seconds) (hslept : seconds ≤ slept) :
    Trying client request (attempt + 1)
      (log ++ [.sent request, .answered reply] ++ [.slept slept]) := by
  obtain ⟨before, now, tries, rfl, hban, hpaced, rfl⟩ := h
  refine ⟨before, now, tries ++ [(reply, slept)], ?_, hban, hpaced.concat hrequired hslept, ?_⟩
  · simp [trace]
  · simp

/-- What comes next in a call: its own result, or another attempt that is allowed. -/
def Ends (client : Client) (body : β) (w : World β σ) : Prop :=
  BanRemembered client w ∧ Allowed client w.log (.returned body)

theorem pause_next {next : Calling β β} {reply : Reply β} {seconds : ℚ}
    (h : Trying client request attempt log)
    (hrequired : client.required attempt reply = some seconds)
    (hnext : ∀ log', Trying client request (attempt + 1) log' →
      Prog.Triple (exec env) (BanRememberedAt client log') next (Ends client)
        (fun _ => BanRemembered client)
        (BanRemembered client)) :
    Prog.Triple (exec env) (BanRememberedAt client (log ++ [.sent request, .answered reply]))
      (pause seconds >>= fun _ => next) (Ends client) (fun _ => BanRemembered client)
      (BanRemembered client) := by
  apply Prog.Triple.bind pause_triple
  intro _
  apply Prog.Triple.exists_pre
  intro slept w hw
  exact hnext _ (h.again hrequired hw.1) w hw.2

theorem backoff_triple {next : Calling β β} {reply : Reply β} {text : String}
    (h : Trying client request attempt log)
    (hrequired : client.required attempt reply = some (min (2 * 2 ^ attempt) 30))
    (hnext : left ≠ 0 → ∀ log', Trying client request (attempt + 1) log' →
      Prog.Triple (exec env) (BanRememberedAt client log') next (Ends client)
        (fun _ => BanRemembered client)
        (BanRemembered client)) :
    Prog.Triple (exec env) (BanRememberedAt client (log ++ [.sent request, .answered reply]))
      (client.backoff request left attempt text next) (Ends client) (fun _ => BanRemembered client)
      (BanRemembered client) := by
  unfold Client.backoff
  apply Prog.Triple.ite
  · intro _
    exact Prog.Triple.raise fun _ hw => hw.1
  · intro hleft
    exact pause_next h hrequired (hnext hleft)

theorem limited_triple {next : Calling β β} {header : Option String} {body : Option β}
    (h : Trying client request attempt log)
    (hnext : left ≠ 0 → ∀ log', Trying client request (attempt + 1) log' →
      Prog.Triple (exec env) (BanRememberedAt client log') next (Ends client)
        (fun _ => BanRemembered client)
        (BanRemembered client)) :
    Prog.Triple (exec env)
      (BanRememberedAt client (log ++ [.sent request, .answered (.response 429 header body)]))
      (client.limited left header next) (Ends client) (fun _ => BanRemembered client)
      (BanRemembered client) := by
  apply Prog.Triple.bind audit_triple
  intro _
  apply Prog.Triple.ite
  · intro _
    exact Prog.Triple.raise fun _ hw => hw.1
  · intro hleft
    exact pause_next h rfl (hnext hleft)

theorem ban_triple {header : Option String} {body : Option β} :
    Prog.Triple (exec env)
      (BanRememberedAt client (log ++ [.sent request, .answered (.response 418 header body)]))
      (client.ban header) (Ends client) (fun _ => BanRemembered client) (BanRemembered client) := by
  apply Prog.Triple.bind time_triple
  intro now
  have hallowed : Allowed client
      (log ++ [.sent request, .answered (.response 418 header body)] ++ [.time now])
      (.banned (now + client.retryAfterSeconds header 3600 259200)) :=
    ⟨log, request, header, body, now, by simp, rfl⟩
  apply Prog.Triple.bind (setBannedUntil_triple hallowed)
  intro _
  apply Prog.Triple.bind audit_triple
  intro _
  exact Prog.Triple.raise fun _ hw => hw.1

theorem settle_triple {status : ℕ} {header : Option String} {body : Option β} :
    Prog.Triple (exec env)
      (BanRememberedAt client (log ++ [.sent request, .answered (.response status header body)]))
      (settle status body) (Ends client) (fun _ => BanRemembered client)
      (BanRemembered client) := by
  unfold settle
  apply Prog.Triple.ite
  · intro _
    exact Prog.Triple.raise fun _ hw => hw.1
  · intro hstatus
    cases body with
    | none => exact Prog.Triple.raise fun _ hw => hw.1
    | some body =>
      apply Prog.Triple.pure
      intro w hw
      refine ⟨hw.1, log, request, status, header, hw.2, hstatus⟩

/-- The loop: the induction is on the attempts that are left. -/
theorem attempts_triple (hleft : attempt + left = client.maxAttempts)
    (h : Trying client request attempt log) {lastError : Option String} :
    Prog.Triple (exec env) (BanRememberedAt client log)
      (client.attempts request left attempt lastError)
      (Ends client) (fun _ => BanRemembered client) (BanRemembered client) := by
  induction left generalizing attempt log lastError with
  | zero => exact Prog.Triple.raise fun _ hw => hw.1
  | succ left ih =>
    have hsent : Allowed client log (.sent request) := ⟨attempt, by omega, h⟩
    have hnext : ∀ lastError log', Trying client request (attempt + 1) log' →
        Prog.Triple (exec env) (BanRememberedAt client log')
          (client.attempts request left (attempt + 1) lastError) (Ends client)
          (fun _ => BanRemembered client) (BanRemembered client) := by
      intro lastError log' h'
      exact ih (by omega) h'
    apply Prog.Triple.bind (get_triple hsent)
    intro reply
    cases reply with
    | fault text => exact backoff_triple h rfl fun _ => hnext _
    | response status header body =>
      dsimp only
      apply Prog.Triple.ite
      · rintro rfl
        exact ban_triple
      · intro hban
        apply Prog.Triple.ite
        · rintro rfl
          exact limited_triple h fun _ => hnext _
        · intro hlimit
          apply Prog.Triple.ite
          · intro hserver
            apply backoff_triple h _ fun _ => hnext _
            rw [Client.required, if_neg hlimit, if_pos hserver]
          · intro _
            exact settle_triple

/-- A call sends nothing while the ban is on that the log tells of. -/
theorem call_triple : Prog.Triple (exec env) (BanRememberedAt client (log ++ [.called request]))
    (client.get request) (Ends client) (fun _ => BanRemembered client) (BanRemembered client) := by
  apply Prog.Triple.bind bannedUntil_triple
  intro bannedUntil
  apply Prog.Triple.assume_eq
  intro hban
  apply Prog.Triple.bind time_triple
  intro now
  apply Prog.Triple.ite
  · intro _
    exact Prog.Triple.raise fun _ hw => hw.1
  · intro hnow
    apply attempts_triple (Nat.zero_add _)
    refine ⟨log, now, [], by simp [trace], ?_, ?_, rfl⟩
    · rw [banOf_other rfl] at hban
      rw [hban, not_lt] at hnow
      exact sub_nonpos.mp hnow
    · intro i t ht
      cases ht

end calls

/-! ### Every run -/

section every
variable {β σ : Type} {env : Env β σ} {client : Client} {w : World β σ}

theorem BanRemembered.restarted (h : BanRemembered client w) : BanRemembered client w.restarted :=
  h.marked rfl trivial

theorem BanRemembered.turn (h : BanRemembered client w) (t : Turn) :
    BanRemembered client (w.turn env client t) := by
  cases t with
  | restart => exact h.restarted
  | get request budget =>
    have hcalled : BanRemembered client { w with log := w.log ++ [.called request] } :=
      h.note rfl trivial
    have hcall : Prog.Triple (exec env) (BanRememberedAt client (w.log ++ [.called request]))
        (client.get request) (Ends client) (fun _ => BanRemembered client) (BanRemembered client) :=
          call_triple
    have hrun := Prog.wp_run (hcall { w with log := w.log ++ [.called request] }
      ⟨hcalled, rfl⟩) budget
    unfold World.turn
    dsimp only
    generalize Prog.run (exec env) budget (client.get request)
      { w with log := w.log ++ [.called request] } = r at hrun ⊢
    rcases r with ⟨body | e | _, w'⟩
    · obtain ⟨hkept, hallowed⟩ := hrun
      exact hkept.note rfl hallowed
    · exact hrun
    · exact BanRemembered.restarted hrun

/-- The requests of a process, in every run of calls that may die anywhere: none goes out in a call
that began while the last ban of the process was on, a call sends no more than its attempts, and
between two of them lies an answer after which it may be tried again, and the pause that is due. -/
theorem requests_paced (e : σ) (turns : List Turn) :
    History.Lawful (Allowed client) (({ env := e } : World β σ).run env client turns).log := by
  have hkept : BanRemembered client (({ env := e } : World β σ).run env client turns) := by
    unfold World.run
    apply List.foldlRecOn (motive := BanRemembered client) turns
    · exact ⟨rfl, History.Lawful.nil⟩
    · exact fun w hw t _ => hw.turn t
  exact hkept.lawful

end every

end SpotSidecar.Public
