import SpotSidecar.Exchange.Desk
import SpotSidecar.PairControl.Scripted
import SpotSidecar.Supervisor.Loop

/-! A sidecar that can be run: the small exchange, a risk guard that remembers its pause, one
active pair, and a script of what the stream delivers where. -/
namespace SpotSidecar.Supervisor.Scripted
open PairControl (ActiveState)

structure Rig where
  desk : Desk := {}
  risk : String := ""
  /-- What the stream delivers next, and at which point. -/
  pending : List (Point × StreamEvent) := []
  /-- Whether the evidence of a live release is still signed. -/
  signed : Bool := true

def active : ActiveState := PairControl.Scripted.first

def heartbeat : Heartbeat where
  timestamp := some 0
  ok := true
  whitelist := some 1
  activePairs := some 1
  pair := some active.pair
  pairGeneration := some active.generation
  pairConfigHash := some active.pairConfigHash

def call : (γ : Type) → Call γ → Rig → Except Exc γ × Rig
  | _, .globalPause, r => (.ok r.risk, r)
  | _, .setGlobalPause reason, r => (.ok (), { r with risk := reason })
  | _, c, r =>
    let answer := Desk.call _ c r.desk
    (answer.1, { r with desk := answer.2 })

def post (p : Post) (r : Rig) : Except Exc Reply × Rig :=
  let answer := Desk.post p r.desk
  (answer.1, { r with desk := answer.2 })

def ask : (γ : Type) → Query γ → Rig → Except Exc γ × Rig
  | _, .bootstrap, r => (.ok active, r)
  | _, .load, r => (.ok active, r)
  | _, .requireResumeReady, r => (.ok (), r)
  | _, .markActiveAfterResume, r => (.ok (), r)
  | _, .pairReport, r => (.ok active.pair, r)
  | _, .eligiblePairs, r => (.ok active.pair, r)
  | _, .beginSwitch _ _, r => (.ok none, r)
  | _, .selectTarget _, r => (.ok "", r)
  | _, .completeSwitch, r => (.error (.of .value "no pair switch is pending"), r)
  | _, .publishSwitch _, r => (.error (.of .value "no pair switch is pending"), r)
  | _, .markPairVerified, r => (.error (.of .value "no pair switch is pending"), r)
  | _, .heartbeat, r => (.ok (some heartbeat), r)
  | _, .moneyFlow, r => (.ok none, r)
  | _, .allow _ _ _ seen, r =>
    (.ok (if seen then (false, "duplicate") else if r.risk ≠ "" then (false, r.risk)
      else (true, "")), r)
  | _, .recordSignal _ _, r => (.ok (), r)
  | _, .clearGlobalPause, r => (.ok (), { r with risk := "" })
  | _, .startStream, r => (.ok (), r)
  | _, .streamReady, r => (.ok true, r)
  | _, .move _, r => (.ok (), r)
  | _, .verifyLiveEvidence, r => (.ok 86400, r)
  | _, .leaseEvidence _, r => (.ok (if r.signed then .ok () else .error "signature is invalid"), r)

def arrivals (p : Point) (r : Rig) : List StreamEvent × Rig :=
  match r.pending with
  | (q, e) :: rest => if q = p then ([e], { r with pending := rest }) else ([], r)
  | [] => ([], r)

def env : Env Rig where
  call := call
  post := post
  ask := ask
  io r := (.ok (), r)
  arrivals := arrivals

/-- The sidecar on the test network. -/
def config : Config where
  adapter := Desk.config
  pairs := PairControl.Scripted.config
  upper text := String.ofList (text.toList.map Char.toUpper)
  reconciliationText _ := ""
  exitText _ := ""
  amountText _ := ""

/-- The sidecar with a live release. -/
def live : Config :=
  { config with
    adapter := { Desk.config with live := true }
    liveTradingEnabled := true }

/-- A task that is run to its end. -/
def whole (t : Task) : Step := ⟨t, 10000⟩

def command (c : OwnerCommand) (id : String) : Step :=
  whole (.command (.verified { command := c, commandId := id, createdAt := some 0 }))

/-- The owner starts the sidecar and turns entries on. -/
def resumed : List Step := [whole .startup, command (.entries (some true)) "resume"]

/-- Then the owner asks for an entry. -/
def entered : List Step := resumed ++ [command (.manualEntry "BTCUSDT") "enter"]

/-- A signal for the active pair. -/
def buy (id : String) : Signal where
  signalId := some id
  pair := some "BTC/USDT"
  symbol := some "BTCUSDT"
  candleTime := some "2026-01-01T00:00:00Z"
  generatedAt := some "2026-01-01T00:00:01Z"
  strategy := some "IctSmcStrategy"
  entryTag := some "ict"
  pairStateHash := some active.stateHash
  pairGeneration := some active.generation
  pairConfigHash := some active.pairConfigHash
  payload := some "{}"

def signal (s : Signal) : Step := whole (.signal (.verified s))

/-- The sidecar with automatic protection. -/
def automatic : Config := { config with autoProtectionEnabled := true }

def bullish : Flow where
  pair := some active.pair
  pairStateHash := some active.stateHash
  generatedAt := some 0
  ok := true
  bullish := true

/-- A position of the bot that its list protects. -/
def position : World Rig :=
  runSteps automatic env { desk := { script := [{ next := [.fill 2 1 0] }] } }
    (entered ++ [command .reconcile "check"])

/-- The collaborators, with a script of what the ticker answers. -/
def tickerCall : (γ : Type) → Call γ → Rig × List ℚ → Except Exc γ × (Rig × List ℚ)
  | _, .tickerPrice _, (r, price :: prices) => (.ok (.num price), (r, prices))
  | _, c, (r, prices) =>
    let answer := call _ c r
    (answer.1, (answer.2, prices))

def ticking : Env (Rig × List ℚ) where
  call := tickerCall
  post p s :=
    let answer := post p s.1
    (answer.1, (answer.2, s.2))
  ask _ q s :=
    let answer := ask _ q s.1
    (answer.1, (answer.2, s.2))
  io s := (.ok (), s)
  arrivals p s :=
    let answer := arrivals p s.1
    (answer.1, (answer.2, s.2))

/-- The position, before a script of what the ticker answers. -/
def quoted (prices : List ℚ) : World (Rig × List ℚ) where
  adapter :=
    { store := position.adapter.store
      memory := position.adapter.memory
      env := (position.adapter.env, prices) }
  data := position.data
  tables := position.tables
  tradeSizeQuote := position.tradeSizeQuote
  running := position.running

end SpotSidecar.Supervisor.Scripted
