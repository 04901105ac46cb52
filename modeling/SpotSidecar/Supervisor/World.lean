import SpotSidecar.Adapter.Run
import SpotSidecar.PairControl.Controller

/-! The world the supervisor acts on: the adapter, the tables of claimed signals and commands,
its own part of the side file and the collaborators it was started with. -/
namespace SpotSidecar.Supervisor
open Interaction
open PairControl (ActiveState Verification)

/-- The payload of a signed signal; a key of it may be missing. -/
structure Signal where
  signalId : Option String := none
  pair : Option String := none
  symbol : Option String := none
  candleTime : Option String := none
  generatedAt : Option String := none
  strategy : Option String := none
  entryTag : Option String := none
  pairStateHash : Option String := none
  pairGeneration : Option ℕ := none
  pairConfigHash : Option String := none
  payload : Option String := none
  deriving DecidableEq, Repr

/-- What is read of a file in the signal inbox. -/
inductive SignalFile where
  | tooLarge
  | invalid (detail : String)
  | verified (signal : Signal)
  deriving DecidableEq, Repr

/-- A command of the owner with its arguments; `none` is an argument that cannot be read. -/
inductive OwnerCommand where
  | entries (enabled : Option Bool)
  | mode (mode : Option ProtectionMode)
  | status
  | balance
  | profit
  | restartStream
  | setSize (quoteAmount : Option ℚ)
  | setMax (count : Option ℤ)
  | reconcile
  | pair
  | pairs
  | switchPair (pair registryHash : String)
  | completePairSwitch
  | verifyPairSwitch
  | manualEntry (symbol : String)
  | emergencyExit (symbol : String)
  | convert (symbol : String) (mode : Option ProtectionMode)
  | breakEven (symbol : String)
  | lockProfit (symbol : String) (profitPct : Option ℚ)
  | tightTrailing (symbol : String) (deltaBips : Option ℤ)
  | autoProtection (enabled : Option Bool)
  | clearRiskPause
  | unknown (name : String)
  deriving DecidableEq, Repr

def OwnerCommand.name : OwnerCommand → String
  | .entries _ => "entries"
  | .mode _ => "mode"
  | .status => "status"
  | .balance => "balance"
  | .profit => "profit"
  | .restartStream => "restart_stream"
  | .setSize _ => "set_size"
  | .setMax _ => "set_max"
  | .reconcile => "reconcile"
  | .pair => "pair"
  | .pairs => "pairs"
  | .switchPair _ _ => "switch_pair"
  | .completePairSwitch => "complete_pair_switch"
  | .verifyPairSwitch => "verify_pair_switch"
  | .manualEntry _ => "manual_entry"
  | .emergencyExit _ => "emergency_exit"
  | .convert _ _ => "convert"
  | .breakEven _ => "break_even"
  | .lockProfit _ _ => "lock_profit"
  | .tightTrailing _ _ => "tight_trailing"
  | .autoProtection _ => "auto_protection"
  | .clearRiskPause => "clear_risk_pause"
  | .unknown name => name

/-- A file of the command inbox whose envelope verifies. -/
structure CommandPayload where
  command : OwnerCommand
  commandId : String
  createdAt : Option ℚ
  deriving DecidableEq, Repr

/-- What is read of a file in the command inbox. -/
inductive CommandFile where
  | invalid (detail : String)
  | verified (payload : CommandPayload)
  deriving DecidableEq, Repr

/-- The result of a command, as its file and its row hold it. -/
structure Payload where
  ok : Bool
  result : String
  commandId : String
  command : String
  deriving DecidableEq, Repr

/-- The result column of a claimed command. -/
inductive CommandRecord where
  | inProgress
  | finished (payload : Payload)
  deriving DecidableEq, Repr

/-- The tables of what was claimed, and the files of the results of commands. -/
structure Tables where
  signals : String → Option String := fun _ => none
  commands : String → Option CommandRecord := fun _ => none
  results : String → Option Payload := fun _ => none

/-- What the supervisor keeps in the side file besides what the adapter keeps there. -/
structure SupervisorData where
  simulation : Bool := true
  autoProtectionEnabled : Option Bool := none
  liveEvidenceLease : Option ℚ := none
  liveEvidenceOk : Bool := false
  liveEvidenceStatus : String := ""
  liveEvidenceFailureLatched : Bool := false
  deriving DecidableEq, Repr

/-- The money-flow snapshot. -/
structure Flow where
  pair : Option String := none
  pairStateHash : Option String := none
  generatedAt : Option ℚ := none
  ok : Bool := false
  bullish : Bool := false
  deriving DecidableEq, Repr

/-- The heartbeat of the signal seam in Freqtrade. -/
structure Heartbeat where
  timestamp : Option ℚ := none
  ok : Bool := false
  whitelist : Option ℕ := none
  activePairs : Option ℕ := none
  pair : Option String := none
  pairGeneration : Option ℕ := none
  pairConfigHash : Option String := none
  deriving DecidableEq, Repr

/-- What the pair controller answers to a completed switch. -/
structure Published where
  symbol : Symbol
  pair : Pair
  report : String
  deriving DecidableEq, Repr

/-- What the user stream delivers. -/
inductive StreamEvent where
  | orderUpdate (e : SpotSidecar.Event)
  | listUpdate (e : SpotSidecar.Event)
  | accountUpdate
  | resync

/-- The callback of the adapter for what the stream delivers. -/
def StreamEvent.callback : StreamEvent → Folding Unit
  | .orderUpdate e => onOrderUpdate e
  | .listUpdate e => onListUpdate e
  | .accountUpdate => onAccountUpdate
  | .resync => onResync

/-- Where the main thread does not hold the lock of the adapter: anywhere, or in `set_enabled`
between its reconciliation and its write of the flag. -/
inductive Point where
  | anywhere
  | arming
  deriving DecidableEq, Repr

/-- What the supervisor asks of its collaborators: the pair controller, the risk guard, the
streams, the evidence of a live release and the files it reads. -/
inductive Query : Type → Type 1 where
  | bootstrap : Query ActiveState
  | load : Query ActiveState
  | requireResumeReady : Query Unit
  | markActiveAfterResume : Query Unit
  | pairReport : Query String
  | eligiblePairs : Query String
  | beginSwitch (pair registryHash : String) : Query (Option (List Symbol))
  | selectTarget (verification : Except Exc Verification) : Query String
  | completeSwitch : Query (List Symbol × Pair)
  | publishSwitch (recheck : Except Exc Verification) : Query Published
  | markPairVerified : Query String
  | heartbeat : Query (Option Heartbeat)
  | moneyFlow : Query (Option Flow)
  | allow (signal : Signal) (pair stateHash : String) (seen : Bool) : Query (Bool × String)
  | recordSignal (signal : Signal) (result : String) : Query Unit
  | clearGlobalPause : Query Unit
  | startStream : Query Unit
  | streamReady : Query Bool
  | move (accepted : Bool) : Query Unit
  | verifyLiveEvidence : Query ℚ
  | leaseEvidence (minimumRemaining : ℚ) : Query (Except String Unit)

/-- The collaborators with their state; `io` is a write to a disk, and `arrivals` what the
stream delivers at a point. They answer anything. -/
structure Env (σ : Type) extends SpotSidecar.Env σ where
  ask : ∀ γ : Type, Query γ → σ → Except Exc γ × σ
  io : σ → Except Exc Unit × σ
  arrivals : Point → σ → List StreamEvent × σ

/-- What the log of a run remembers. -/
inductive Event where
  /-- A process begins. -/
  | started
  /-- The order manager calls `adapter.submit` for a signal. -/
  | submitting (signalId : String)
  /-- The action of a command begins. -/
  | executing (commandId : String)
  /-- A replay of a command that is IN_PROGRESS is being handled. -/
  | replaying (commandId : String)
  /-- A callback of the stream pauses the adapter. -/
  | paused (p : Point)
  | reconcileBegan
  | reconciled (ok : Bool)
  /-- An ENTRY intent crosses the boundary at which its POST may have landed. -/
  | entrySubmitted (id : IntentId)
  | leaseInvalid
  deriving DecidableEq, Repr

/-- The log is newest first; no act reads it. -/
structure World (σ : Type) where
  adapter : SpotSidecar.World σ
  data : SupervisorData := {}
  tables : Tables := {}
  tradeSizeQuote : ℚ := 100
  running : Bool := false
  log : List Event := []

/-- Acts that leave the tables of claims as they are. -/
inductive Work : Type → Type 1 where
  | adapter {γ : Type} (a : Act γ) : Work γ
  | callback {γ : Type} (p : Point) (f : Fold γ) : Work γ
  | arrivals (p : Point) : Work (List StreamEvent)
  | tables : Work Tables
  | data : Work SupervisorData
  | setData (d : SupervisorData) : Work Unit
  | save : Work Unit
  | tradeSize : Work ℚ
  | setTradeSize (q : ℚ) : Work Unit
  | ask {γ : Type} (q : Query γ) : Work γ
  | reconcileBegan : Work Unit
  | reconciled (ok : Bool) : Work Unit
  | leaseInvalid : Work Unit

inductive Deed : Type → Type 1 where
  | work {γ : Type} (a : Work γ) : Deed γ
  | claimSignal (id : String) : Deed Bool
  | recordSignal (id result : String) : Deed Unit
  | claimCommand (id : String) : Deed Bool
  | recordCommand (payload : Payload) : Deed Unit
  | writeResult (payload : Payload) : Deed Unit
  | removeResults (ids : List String) : Deed Unit
  | submitting (id : String) : Deed Unit
  | executing (id : String) : Deed Unit
  | replaying (id : String) : Deed Unit

namespace World
variable {σ : Type}

def note (w : World σ) (e : Event) : World σ := { w with log := e :: w.log }

def noteAll (w : World σ) (es : List Event) : World σ := { w with log := es ++ w.log }

/-- A new process over the same durable state. -/
def restart (w : World σ) : World σ :=
  { w with adapter := w.adapter.restart, running := false }

def store (w : World σ) : Store := w.adapter.store

def memory (w : World σ) : Memory := w.adapter.memory

def entries (w : World σ) : Bool := w.adapter.store.data.entriesEnabled

end World

/-- What the log remembers of an act of the adapter: the mark of an ENTRY intent. -/
def seen {γ : Type} : Act γ → Store → List Event
  | .markIntentSubmitting id, s =>
    match s.intent id with
    | some i => if i.operation = .entry ∧ i.state = .prepared then [.entrySubmitted id] else []
    | none => []
  | _, _ => []

/-- What the log remembers of an act of a callback: `_pause` tells the guard. -/
def heard {γ : Type} (p : Point) : Fold γ → List Event
  | .ask (.call (.setGlobalPause _)) => [.paused p]
  | _ => []

section exec
variable {σ : Type} (env : Env σ)

/-- An act of the adapter in the world of the supervisor. -/
def World.perform {γ : Type} (w : World σ) (a : Act γ) (es : List Event) :
    Except Exc γ × World σ :=
  let answer := Act.exec env.toEnv γ a w.adapter
  (answer.1, { w.noteAll es with adapter := answer.2 })

/-- A write that succeeds or raises and changes nothing. -/
def World.write {γ : Type} (w : World σ) (a : γ) (f : World σ → World σ) :
    Except Exc γ × World σ :=
  let answer := env.io w.adapter.env
  let w := { w with adapter := { w.adapter with env := answer.2 } }
  match answer.1 with
  | .ok () => (.ok a, f w)
  | .error e => (.error e, w)

def Work.exec : (γ : Type) → Work γ → World σ → Except Exc γ × World σ
  | _, .adapter a, w => w.perform env a (seen a w.store)
  | _, .callback p f, w => w.perform env (.fold f) (heard p f)
  | _, .arrivals p, w =>
    let answer := env.arrivals p w.adapter.env
    (.ok answer.1, { w with adapter := { w.adapter with env := answer.2 } })
  | _, .tables, w => (.ok w.tables, w)
  | _, .data, w => (.ok w.data, w)
  | _, .setData d, w => (.ok (), { w with data := d })
  | _, .save, w => w.write env () id
  | _, .tradeSize, w => (.ok w.tradeSizeQuote, w)
  | _, .setTradeSize q, w => (.ok (), { w with tradeSizeQuote := q })
  | _, .ask q, w =>
    let answer := env.ask _ q w.adapter.env
    (answer.1, { w with adapter := { w.adapter with env := answer.2 } })
  | _, .reconcileBegan, w => (.ok (), w.note .reconcileBegan)
  | _, .reconciled ok, w => (.ok (), w.note (.reconciled ok))
  | _, .leaseInvalid, w => (.ok (), w.note .leaseInvalid)

/-- `INSERT OR IGNORE` on a primary key: whether there was no row, and the table after it. -/
def claimed {ρ : Type} (t : String → Option ρ) (id : String) (r : ρ) : Bool × (String → Option ρ) :=
  if (t id).isSome then (false, t) else (true, Function.update t id (some r))

def Deed.exec : (γ : Type) → Deed γ → World σ → Except Exc γ × World σ
  | _, .work a, w => a.exec env _ w
  | _, .claimSignal id, w =>
    let claim := claimed w.tables.signals id "IN_PROGRESS"
    w.write env claim.1 fun w => { w with tables := { w.tables with signals := claim.2 } }
  | _, .recordSignal id result, w =>
    w.write env () fun w => { w with tables := { w.tables with
      signals := Function.update w.tables.signals id (some result) } }
  | _, .claimCommand id, w =>
    let claim := claimed w.tables.commands id .inProgress
    w.write env claim.1 fun w => { w with tables := { w.tables with commands := claim.2 } }
  | _, .recordCommand payload, w =>
    w.write env () fun w => { w with tables := { w.tables with
      commands := Function.update w.tables.commands payload.commandId (some (.finished payload)) } }
  | _, .writeResult payload, w =>
    w.write env () fun w => { w with tables := { w.tables with
      results := Function.update w.tables.results payload.commandId (some payload) } }
  | _, .removeResults ids, w =>
    w.write env () fun w => { w with tables := { w.tables with
      results := fun id => if id ∈ ids then none else w.tables.results id } }
  | _, .submitting id, w => (.ok (), w.note (.submitting id))
  | _, .executing id, w => (.ok (), w.note (.executing id))
  | _, .replaying id, w => (.ok (), w.note (.replaying id))

end exec

/-- Programs of the supervisor, those that leave the claims alone usable as the others. -/
abbrev Working := Prog Exc Work
abbrev Doing := Prog Exc Deed

instance : MonadLift Working Doing := ⟨Prog.lift fun _ => Deed.work⟩

end SpotSidecar.Supervisor
