import SpotSidecar.Interaction.Triple
import SpotSidecar.PairControl.Policy

/-! The pair controller: the authoritative state of the active pair, its two projections and
the stages of a pair switch, each in a file that is replaced atomically. -/
namespace SpotSidecar.PairControl
open Interaction

inductive Stage where
  | active | pausing | reconciling | waitingManualSwap | applyingPair | verifyingPair
  | pausedReady | blocked
  deriving DecidableEq, Repr

def Stage.text : Stage → String
  | .active => "ACTIVE"
  | .pausing => "PAUSING"
  | .reconciling => "RECONCILING"
  | .waitingManualSwap => "WAITING_MANUAL_SWAP"
  | .applyingPair => "APPLYING_PAIR"
  | .verifyingPair => "VERIFYING_PAIR"
  | .pausedReady => "PAUSED_READY"
  | .blocked => "BLOCKED"

/-- The stages from which a switch may begin. -/
def Stage.idle : Stage → Bool
  | .active | .pausedReady | .blocked => true
  | _ => false

/-- The stages in which entries may resume. -/
def Stage.ready : Stage → Bool
  | .active | .pausedReady => true
  | _ => false

/-- The stages that outlive a change of the active pair. -/
def Stage.outlives : Stage → Bool
  | .verifyingPair | .pausedReady | .active => true
  | _ => false

/-- The authoritative state of the active pair. -/
structure ActiveState where
  schemaVersion : ℕ := 1
  pair : String
  symbol : String
  base : String
  quote : String
  generation : ℕ
  updatedAt : ℕ
  source : String
  pairConfigHash : String
  stateHash : String
  deriving DecidableEq, Repr

/-- The projection that Freqtrade reads its pairs from. -/
structure Pairlist where
  pairs : List String
  refreshPeriod : ℕ
  pairStateHash : String
  pairConfigHash : String
  deriving DecidableEq, Repr

/-- The projection that Freqtrade is configured with. -/
structure Overlay where
  stakeCurrency : String
  pairWhitelist : List String
  pairBlacklist : List String
  deriving DecidableEq, Repr

/-- The answer of a flat check. -/
structure Verification where
  ok : Bool
  detail : Option String := none
  deriving DecidableEq, Repr

/-- The row of the registry for an eligible pair. -/
structure Eligibility where
  pair : String
  registryHash : String
  deriving DecidableEq, Repr

/-- The answer of the validation of a target pair. -/
structure Validation where
  pair : String
  preflight : String
  deriving DecidableEq, Repr

/-- The proof that Freqtrade runs with the active pair. -/
structure Proof where
  ok : Bool
  pair : String
  deriving DecidableEq, Repr

/-- What was found out during a switch. -/
structure Evidence where
  registryHash : Option String := none
  flatVerification : Option Verification := none
  eligibility : Option Eligibility := none
  secondFlatVerification : Option Verification := none
  targetValidation : Option Validation := none
  freqtrade : Option Proof := none
  deriving DecidableEq, Repr

/-- The record of a pair switch. -/
structure SwitchState where
  schemaVersion : ℕ := 1
  stage : Stage
  activePair : String
  activeGeneration : ℕ
  activePairConfigHash : String
  targetPair : Option String := none
  updatedAt : Option ℕ := none
  detail : String
  evidence : Evidence := {}
  deriving DecidableEq, Repr

structure Disk where
  state : Option ActiveState := none
  pairlist : Option Pairlist := none
  overlay : Option Overlay := none
  switch : Option SwitchState := none
  deriving DecidableEq, Repr

inductive FileWrite where
  | pairlist (p : Pairlist)
  | overlay (o : Overlay)
  | state (s : ActiveState)
  | switch (v : SwitchState)
  deriving DecidableEq, Repr

def Disk.replace (d : Disk) : FileWrite → Disk
  | .pairlist p => { d with pairlist := some p }
  | .overlay o => { d with overlay := some o }
  | .state s => { d with state := some s }
  | .switch v => { d with switch := some v }

inductive PairAct : Type → Type 1 where
  | disk : PairAct Disk
  | now : PairAct ℕ
  | write (f : FileWrite) : PairAct Unit
  | verifyFlat (symbols : List String) : PairAct Verification
  | validateTarget (pair : String) : PairAct Validation
  | requirePair (pair : String) : PairAct Eligibility

/-- What the controller meets: the clock, the file system, the registry and the callbacks. -/
structure PairEnv (σ : Type) where
  now : σ → ℕ × σ
  write : FileWrite → σ → Except PairExc Unit × σ
  verifyFlat : List String → σ → Except PairExc Verification × σ
  validateTarget : String → σ → Except PairExc Validation × σ
  requirePair : String → σ → Except PairExc Eligibility × σ

inductive Event where
  | wrote (f : FileWrite)
  | flat (symbols : List String) (verification : Verification)
  | validated (pair : String)
  deriving DecidableEq, Repr

/-- The files, the events of the current call and those of the calls before it. -/
structure World (σ : Type) where
  disk : Disk := {}
  env : σ
  log : List Event := []
  earlier : List Event := []

variable {σ : Type}

def World.history (w : World σ) : List Event := w.log ++ w.earlier

def World.note (w : World σ) (e : Event) : World σ := { w with log := e :: w.log }

/-- A write either replaces the file or raises and leaves it. -/
def PairAct.exec (env : PairEnv σ) : (γ : Type) → PairAct γ → World σ → Except PairExc γ × World σ
  | _, .disk, w => (.ok w.disk, w)
  | _, .now, w => (.ok (env.now w.env).1, { w with env := (env.now w.env).2 })
  | _, .write f, w =>
    match env.write f w.env with
    | (.ok _, e) => (.ok (), { w with disk := w.disk.replace f, env := e }.note (.wrote f))
    | (.error x, e) => (.error x, { w with env := e })
  | _, .verifyFlat symbols, w =>
    match env.verifyFlat symbols w.env with
    | (.ok v, e) => (.ok v, { w with env := e }.note (.flat symbols v))
    | (.error x, e) => (.error x, { w with env := e })
  | _, .validateTarget pair, w =>
    match env.validateTarget pair w.env with
    | (.ok v, e) => (.ok v, { w with env := e }.note (.validated pair))
    | (.error x, e) => (.error x, { w with env := e })
  | _, .requirePair pair, w =>
    ((env.requirePair pair w.env).1, { w with env := (env.requirePair pair w.env).2 })

abbrev Switching := Prog PairExc PairAct

def write (f : FileWrite) : Switching Unit := .perform (.write f)

section states
variable (cfg : PairConfig)

/-- `pair_state_hash` -/
def pairStateHash (s : ActiveState) : String :=
  cfg.digests.pairState s.schemaVersion s.pair s.symbol s.base s.quote s.generation s.pairConfigHash

/-- `_build_state` at a given time. -/
def buildState (now : ℕ) (pair : String) (generation : ℕ) (source : String) :
    Except PairExc ActiveState := do
  let pair ← canonicalPair cfg pair
  let symbol ← symbolForPair cfg pair
  let quote ← quoteForPair cfg pair
  let digest ← PairControl.pairConfigHash cfg pair
  let state : ActiveState :=
    { pair, symbol, base := "BTC", quote, generation, updatedAt := now, source
      pairConfigHash := digest, stateHash := "" }
  return { state with stateHash := pairStateHash cfg state }

/-- `_validate_state` -/
def validateState : Option ActiveState → Except PairExc ActiveState
  | none => .error (.state "active pair state is missing or has an unsupported schema")
  | some s => do
    if s.schemaVersion ≠ 1 then
      .error (.state "active pair state is missing or has an unsupported schema")
    else
      let pair ← canonicalPair cfg s.pair
      let symbol ← symbolForPair cfg pair
      if s.symbol ≠ symbol then
        .error (.state "active pair symbol does not match pair")
      else
        let quote ← quoteForPair cfg pair
        if s.base ≠ "BTC" ∨ s.quote ≠ quote then
          .error (.state "active pair assets are inconsistent")
        else if s.generation < 1 then
          .error (.state "active pair generation is invalid")
        else
          let digest ← PairControl.pairConfigHash cfg pair
          if s.pairConfigHash ≠ digest then
            .error (.state "active pair configuration hash is invalid")
          else if s.stateHash ≠ pairStateHash cfg s then
            .error (.state "active pair state hash is invalid")
          else
            .ok s

/-- A policy error of `load` is a state error. -/
def loaded (state : Option ActiveState) : Except PairExc ActiveState :=
  match validateState cfg state with
  | .error (.policy detail) => .error (.state detail)
  | r => r

/-- What `_publish` writes to the pairlist. -/
def ActiveState.toPairlist (s : ActiveState) : Pairlist :=
  { pairs := [s.pair], refreshPeriod := 10, pairStateHash := s.stateHash
    pairConfigHash := s.pairConfigHash }

/-- What `_publish` writes to the configuration. -/
def ActiveState.toOverlay (s : ActiveState) : Overlay :=
  { stakeCurrency := s.quote, pairWhitelist := [s.pair], pairBlacklist := [] }

/-- The status of a pair switch; the current pair is told apart when a switch is on record. -/
structure SwitchStatus extends SwitchState where
  current : Option (String × ℕ × String) := none

/-- `switch_status` of a loaded state and of what is on record. -/
def statusOf (active : ActiveState) : Option SwitchState → Except PairExc SwitchStatus
  | none => .ok
      { stage := .active, activePair := active.pair, activeGeneration := active.generation
        activePairConfigHash := active.pairConfigHash, detail := "no pair switch is pending" }
  | some v => do
    if v.schemaVersion ≠ 1 then
      .error (.state "pair-switch state is corrupt")
    else
      let target ← v.targetPair.mapM (canonicalPair cfg)
      if v.activePair ≠ active.pair ∧ v.stage.outlives = false then
        .error (.state "pair-switch state does not match the authoritative active pair")
      else
        .ok { v with
          targetPair := target
          current := some (active.pair, active.generation, active.pairConfigHash) }

end states

section operations
variable (cfg : PairConfig)

def load : Switching ActiveState := do
  let d ← .perform .disk
  .ofExcept (loaded cfg d.state)

/-- Projections first and the authoritative state last. -/
def publish (s : ActiveState) : Switching Unit := do
  write (.pairlist s.toPairlist)
  write (.overlay s.toOverlay)
  write (.state s)

/-- `_switch_state` -/
def switchState (stage : Stage) (target : Option String) (detail : String) (evidence : Evidence) :
    Switching SwitchState := do
  let active ← load cfg
  let target ← .ofExcept (target.mapM (canonicalPair cfg))
  let now ← .perform .now
  let value : SwitchState :=
    { stage, activePair := active.pair, activeGeneration := active.generation
      activePairConfigHash := active.pairConfigHash, targetPair := target
      updatedAt := some now, detail := String.ofList (detail.toList.take 1000), evidence }
  write (.switch value)
  return value

def switchStatus : Switching SwitchStatus := do
  let active ← load cfg
  let d ← .perform .disk
  .ofExcept (statusOf cfg active d.switch)

def bootstrap (initialPair : String) : Switching ActiveState := do
  let d ← .perform .disk
  let existing := [d.state.isSome, d.pairlist.isSome, d.overlay.isSome]
  if existing.any id ∧ ¬existing.all id then
    .raise (.state "pair state is only partially present; refusing an ambiguous bootstrap")
  else if existing.all id then
    let state ← load cfg
    if d.pairlist ≠ some state.toPairlist then
      .raise (.state "Freqtrade pairlist does not match authoritative active pair")
    else if d.overlay ≠ some state.toOverlay then
      .raise (.state "Freqtrade active configuration does not match active quote")
    else
      return state
  else
    let now ← .perform .now
    let state ← .ofExcept (buildState cfg now initialPair 1 "bootstrap")
    publish state
    return state

/-- What the operations of a switch answer. -/
structure Switched where
  changed : Bool
  state : ActiveState
  switch : SwitchState
  verification : Option Verification := none
  eligibility : Option Eligibility := none
  targetValidation : Option Validation := none
  detail : String

/-- The flat check of `begin_switch`, after the switch is announced. -/
def selectTarget (current : ActiveState) (requested symbol : String) (eligibility : Eligibility) :
    Switching Switched := do
  let evidence : Evidence := { registryHash := some eligibility.registryHash }
  match ← (Prog.perform (.verifyFlat [current.symbol, symbol])).attempt with
  | .error e =>
    let _ ← switchState cfg .blocked (some requested)
      ("flat-state verification raised " ++ e.typeName) evidence
    .raise e
  | .ok verification =>
    if verification.ok then
      let pending ← switchState cfg .waitingManualSwap (some requested)
        ("flat state verified; owner must complete any required quote-asset swap and confirm " ++
          "/swapdone")
        { evidence with flatVerification := some verification, eligibility := some eligibility }
      return { changed := false, state := current, switch := pending
               verification := some verification, eligibility := some eligibility
               detail := requested ++
                 " selected; complete any manual quote-asset swap, then confirm /swapdone" }
    else
      let detail := verification.detail.getD "exchange flatness could not be verified"
      let _ ← switchState cfg .blocked (some requested) detail evidence
      .raise (.state ("pair switch refused: " ++ detail))

def beginSwitch (requestedPair expectedRegistryHash : String) : Switching Switched := do
  let current ← load cfg
  let requested ← .ofExcept (canonicalPair cfg requestedPair)
  let status ← switchStatus cfg
  if status.stage.idle = false then
    .raise (.state ("pair switch already pending in " ++ status.stage.text))
  else if requested = current.pair then
    let _ ← switchState cfg .active none (requested ++ " is already active") {}
    let status ← switchStatus cfg
    return { changed := false, state := current, switch := status.toSwitchState
             detail := requested ++ " is already active" }
  else if cfg.registry = false then
    .raise (.state "BTC pair registry is unavailable")
  else
    let eligibility ← .perform (.requirePair requested)
    if expectedRegistryHash ≠ "" ∧ expectedRegistryHash ≠ eligibility.registryHash then
      .raise (.state "pair-menu registry changed; reopen /pairs before selecting")
    else
      let evidence : Evidence := { registryHash := some eligibility.registryHash }
      let _ ← switchState cfg .pausing (some requested)
        "entries disarmed; beginning flat-state verification" evidence
      let _ ← switchState cfg .reconciling (some requested)
        "verifying durable and exchange state" evidence
      let symbol ← .ofExcept (symbolForPair cfg requested)
      selectTarget cfg current requested symbol eligibility

/-- The second flat check and the validation of the target. -/
def recheckTarget (current : ActiveState) (target symbol : String) :
    Switching (Verification × Validation) := do
  let verification ← .perform (.verifyFlat [current.symbol, symbol])
  if verification.ok then
    let validation ← .perform (.validateTarget target)
    return (verification, validation)
  else
    .raise (.state (verification.detail.getD "exchange flatness could not be verified"))

/-- Publish the next state and read it back. -/
def publishVerified (next : ActiveState) : Switching Unit := do
  publish next
  let read ← load cfg
  .ensure (read = next) (.state "published active pair failed read-back")

/-- The publication of `complete_switch`. -/
def applyTarget (current : ActiveState) (target : String) (evidence : Evidence)
    (verification : Verification) (validation : Validation) : Switching Switched := do
  let evidence :=
    { evidence with
      secondFlatVerification := some verification
      targetValidation := some validation }
  let _ ← switchState cfg .applyingPair (some target)
    "publishing exact one-pair Freqtrade projections" evidence
  let now ← .perform .now
  let next ← .ofExcept
    (buildState cfg now target (current.generation + 1) "owner-confirmed-manual-swap")
  match ← (publishVerified cfg next).attempt with
  | .error e =>
    let _ ← switchState cfg .blocked (some target)
      ("pair projection publication failed: " ++ e.typeName) evidence
    .raise e
  | .ok () =>
    let verifying ← switchState cfg .verifyingPair (some target)
      "pair applied; Freqtrade reload and heartbeat proof required" evidence
    return { changed := true, state := next, switch := verifying
             verification := some verification, targetValidation := some validation
             detail := "active pair changed to " ++ target ++
               "; reload Freqtrade and verify its pair-generation heartbeat" }

def completeSwitch : Switching Switched := do
  let status ← switchStatus cfg
  if status.stage ≠ .waitingManualSwap then
    .raise (.state "no pair switch is waiting for manual-swap confirmation")
  else
    let target ← .ofExcept (canonicalPair cfg (status.targetPair.getD "None"))
    let current ← load cfg
    let _ ← switchState cfg .reconciling (some target)
      "owner confirmed manual swap; rechecking flat state" status.evidence
    let symbol ← .ofExcept (symbolForPair cfg target)
    match ← (recheckTarget current target symbol).attempt with
    | .error e =>
      let _ ← switchState cfg .blocked (some target)
        ("manual-swap validation failed: " ++ e.text) status.evidence
      .raise e
    | .ok (verification, validation) =>
      applyTarget cfg current target status.evidence verification validation

def markPairVerified (proof : Proof) : Switching SwitchState := do
  let status ← switchStatus cfg
  if status.stage ≠ .verifyingPair then
    .raise (.state "pair switch is not waiting for Freqtrade verification")
  else if proof.ok = false then
    .raise (.state "Freqtrade pair proof is not affirmative")
  else
    let active ← load cfg
    if status.targetPair ≠ some active.pair then
      .raise (.state "verified pair does not match the switch target")
    else
      switchState cfg .pausedReady (some active.pair)
        "pair and Freqtrade generation verified; explicit resume required"
        { status.evidence with freqtrade := some proof }

def requireResumeReady : Switching SwitchStatus := do
  let status ← switchStatus cfg
  .ensure status.stage.ready
    (.state ("entries cannot resume while pair switch is " ++ status.stage.text))
  return status

def markActiveAfterResume : Switching SwitchState := do
  let status ← requireResumeReady cfg
  if status.stage = .active then
    return status.toSwitchState
  else
    switchState cfg .active none "owner explicitly resumed after verified pair switch" {}

end operations

inductive Op where
  | bootstrap (initialPair : String)
  | beginSwitch (requestedPair expectedRegistryHash : String)
  | completeSwitch
  | markPairVerified (proof : Proof)
  | requireResumeReady
  | markActiveAfterResume
  deriving DecidableEq, Repr

/-- Run a program and leave its answer. -/
def forget {α : Type} (m : Switching α) : Switching Unit := do
  let _ ← m
  return ()

def Op.program (cfg : PairConfig) : Op → Switching Unit
  | .bootstrap initialPair => forget (PairControl.bootstrap cfg initialPair)
  | .beginSwitch requested hash => forget (PairControl.beginSwitch cfg requested hash)
  | .completeSwitch => forget (PairControl.completeSwitch cfg)
  | .markPairVerified proof => forget (PairControl.markPairVerified cfg proof)
  | .requireResumeReady => forget (PairControl.requireResumeReady cfg)
  | .markActiveAfterResume => forget (PairControl.markActiveAfterResume cfg)

/-- An operation and the number of acts after which the process dies. -/
structure Step where
  op : Op
  budget : ℕ

/-- A call begins with an empty log. -/
def World.called (w : World σ) : World σ := { w with log := [], earlier := w.history }

def step (cfg : PairConfig) (env : PairEnv σ) (w : World σ) (s : Step) : World σ :=
  ((s.op.program cfg).run (PairAct.exec env) s.budget w.called).2

/-- The calls and restarts of the controller, from empty files. -/
def runSteps (cfg : PairConfig) (env : PairEnv σ) (w : World σ) (steps : List Step) : World σ :=
  steps.foldl (step cfg env) w

end SpotSidecar.PairControl
