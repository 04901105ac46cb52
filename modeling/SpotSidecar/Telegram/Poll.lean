import SpotSidecar.Interaction.Triple
import SpotSidecar.Telegram.UpdateStore

/-! The process that polls Telegram: it asks for the updates from an offset on, claims each of them
before it is handled, and keeps the next offset in a variable of its own. -/
namespace SpotSidecar.Telegram
open Interaction

/-- What becomes of a request for updates: whether it reaches Telegram, the new updates by the
distances of their ids, how many are delivered, and the failure of the request if it fails. -/
structure PollAnswer where
  heard : Bool := true
  gaps : List ℕ := []
  count : ℕ := 100
  failure : Option Exc := none
  deriving DecidableEq, Repr

/-- The collaborators with their state: `io` is an access to a disk or to the network. -/
structure Env (σ : Type) where
  io : σ → Except Exc Unit × σ
  time : σ → ℚ × σ
  poll : σ → PollAnswer × σ
  handle : ℤ → σ → Except Exc Unit × σ

/-- The database, the process if there is one, the older offset file, and what Telegram has sent
and forgotten. The last four fields are records about the run that nothing reads. -/
structure World (σ : Type) where
  db : Database := {}
  opened : Option ℕ := none
  cached : ℤ := 0
  legacy : LegacyFile := .absent
  sent : List ℤ := []
  confirmed : ℤ := 0
  env : σ
  claims : List ℤ := []
  handled : List ℤ := []
  imported : List ℤ := []
  foreign : Bool := false

inductive Deed : Type → Type 1 where
  | initializeStore (retention : ℤ) : Deed Unit
  | offset : Deed ℤ
  | claim (id : ℤ) : Deed Bool
  | complete (id : ℤ) (state : UpdateState) (error : String) : Deed Unit
  | uncertainCount : Deed ℕ
  | cached : Deed ℤ
  | setCached (n : ℤ) : Deed Unit
  | getUpdates (offset : ℤ) : Deed (List ℤ)
  | handle (id : ℤ) : Deed Unit
  | audit (id : ℤ) : Deed Unit
  | writeOffset (n : ℤ) : Deed Unit
  | writeHealth (ok : Bool) : Deed Unit

abbrev Polling := Prog Exc Deed

/-- New ids, each above all earlier ones. -/
def extend (sent : List ℤ) (gaps : List ℕ) : List ℤ :=
  gaps.foldl (fun sent gap => sent ++ [sent.getLast?.getD (-1) + 1 + gap]) sent

section exec
variable {σ : Type} (env : Env σ)

/-- An access that succeeds, or raises and changes nothing. -/
def World.access {α : Type} (w : World σ) (f : World σ → Except Exc α × World σ) :
    Except Exc α × World σ :=
  let answer := env.io w.env
  let w := { w with env := answer.2 }
  match answer.1 with
  | .ok () => f w
  | .error e => (.error e, w)

/-- What a request for updates does to Telegram: an offset makes it forget the updates below it. -/
def World.hearing (w : World σ) (requested : ℤ) (answer : PollAnswer × σ) : World σ :=
  let w := { w with env := answer.2, sent := extend w.sent answer.1.gaps }
  if answer.1.heard then { w with confirmed := max w.confirmed requested } else w

def Deed.exec : (γ : Type) → Deed γ → World σ → Except Exc γ × World σ
  | _, .initializeStore retention, w =>
    w.access env fun w =>
      let now := env.time w.env
      match w.db.initializeStore w.legacy now.1 with
      | .ok (_, db) =>
        (.ok (), { w with
          db := db
          opened := some (retentionOf retention)
          env := now.2
          imported := if w.db.next < db.next then db.next :: w.imported else w.imported })
      | .error e => (.error e, { w with env := now.2 })
  | _, .offset, w => w.access env fun w => (w.db.offsetUnlocked, w)
  | _, .claim id, w =>
    w.access env fun w =>
      let now := env.time w.env
      match w.db.claim (w.opened.getD 100) id now.1 with
      | .ok (isNew, db) =>
        (.ok isNew, { w with
          db := db, env := now.2, claims := if isNew then id :: w.claims else w.claims })
      | .error e => (.error e, { w with env := now.2 })
  | _, .complete id state error, w =>
    w.access env fun w =>
      let now := env.time w.env
      match w.db.complete id state error now.1 with
      | .ok db => (.ok (), { w with db := db, env := now.2 })
      | .error e => (.error e, { w with env := now.2 })
  | _, .uncertainCount, w => w.access env fun w => (.ok w.db.uncertainCount, w)
  | _, .cached, w => (.ok w.cached, w)
  | _, .setCached n, w => (.ok (), { w with cached := n })
  | _, .getUpdates requested, w =>
    let answer := env.poll w.env
    let w := w.hearing requested answer
    match answer.1.failure with
    | some e => (.error e, w)
    | none =>
      (.ok (if answer.1.heard then (w.sent.filter (w.confirmed ≤ ·)).take answer.1.count else []),
        w)
  | _, .handle id, w =>
    let answer := env.handle id w.env
    (answer.1, { w with env := answer.2, handled := id :: w.handled })
  | _, .audit _, w => w.access env fun w => (.ok (), w)
  | _, .writeOffset n, w => w.access env fun w => (.ok (), { w with legacy := .offset n })
  | _, .writeHealth _, w => w.access env fun w => (.ok (), w)

end exec

/-- `redact_text(text)[:500]`, as `_safe_error` and again `complete` have it -/
def safeText (redact : String → String) (text : String) : String :=
  String.ofList ((redact text).toList.take 500)

/-- The cached offset follows the database. -/
def refreshOffset : Polling ℤ := do
  let offset ← .perform .offset
  .perform (.setCached offset)
  return offset

/-- The body of the loop over the updates of an answer. -/
def handleUpdate (redact : String → String) (id : ℤ) : Polling Unit := do
  let isNew ← .perform (.claim id)
  if isNew then
    let handled ← (Prog.perform (.handle id)).attempt
    match handled with
    | .error e =>
      .perform (.complete id .failed (safeText redact (safeText redact e.text)))
      .raise e
    | .ok () =>
      .perform (.complete id .handled (safeText redact ""))
      let _ ← refreshOffset
  else .perform (.audit id)

/-- One turn of the loop of `main`. -/
def pollUpdates (redact : String → String) : Polling Unit := do
  let previous ← .perform .cached
  let updates ← .perform (.getUpdates previous)
  let _ ← Prog.each (handleUpdate redact) updates
  let offset ← refreshOffset
  if offset ≠ previous then
    .perform (.writeOffset offset)
  let _ ← .perform .uncertainCount
  .perform (.writeHealth true)

/-- What the loop does with a failure of its turn; a failure in it ends the process. -/
def reportFailure : Polling Unit := do
  let _ ← .perform .offset
  let _ ← .perform .uncertainCount
  .perform (.writeHealth false)

def iteration (redact : String → String) : Polling Unit :=
  (pollUpdates redact).handle fun _ => reportFailure

/-- `main` up to its loop -/
def start (retention : ℤ) : Polling Unit := do
  .perform (.initializeStore retention)
  let _ ← refreshOffset

/-- A start of the process, with a file that somebody has put where the older offset file is, or
one turn of its loop; with the number of acts after which the process dies, if it gets so far. -/
inductive Step where
  | start (legacy : Option LegacyFile) (retention : ℤ) (budget : ℕ)
  | turn (budget : ℕ)
  deriving DecidableEq, Repr

variable {σ : Type}

/-- The process ends unless the program was done. -/
def World.conclude (o : Outcome Exc Unit) (w : World σ) : World σ :=
  match o with
  | .done () => w
  | _ => { w with opened := none }

def World.begin (w : World σ) (legacy : Option LegacyFile) : World σ :=
  { w with
    opened := none
    legacy := legacy.getD w.legacy
    foreign := w.foreign || legacy.isSome }

def step (redact : String → String) (env : Env σ) (w : World σ) : Step → World σ
  | .start legacy retention budget =>
    let o := (start retention).run (Deed.exec env) budget (w.begin legacy)
    o.2.conclude o.1
  | .turn budget =>
    if w.opened.isSome then
      let o := (iteration redact).run (Deed.exec env) budget w
      o.2.conclude o.1
    else w

/-- The world after a list of steps, from a new database. -/
def runSteps (redact : String → String) (env : Env σ) (e : σ) (steps : List Step) : World σ :=
  steps.foldl (step redact env) { env := e }

end SpotSidecar.Telegram
