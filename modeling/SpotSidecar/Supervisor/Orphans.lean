import SpotSidecar.Safety.Orphans
import SpotSidecar.Supervisor.Guarded
import SpotSidecar.Supervisor.Scripted

/-! What the handling of a signal leaves of its trade row. A row that stays open although no entry
was prepared for it blocks every later signal. -/
namespace SpotSidecar.Supervisor
open Interaction Prog
variable {σ α γ : Type} {cfg : Config} {env : Env σ} {id : TradeId} {I : World σ → Prop}

/-- Acts by which the main thread neither writes a trade row nor prepares an intent. -/
def Work.mute (γ : Type) : Work γ → Prop
  | .adapter (.fold (.ask _)) => True
  | .adapter _ => False
  | _ => True

def Deed.mute (γ : Type) : Deed γ → Prop
  | .work a => a.mute
  | _ => True

/-- A program of such acts. -/
abbrev Mute (m : Working α) : Prop := m.All Work.mute

namespace Mute

theorem own (m : Asking α) : Mute (Supervisor.own (liftM m)) := by
  have hask :
      (m.lift fun _ => Fold.ask : Folding α).All fun γ f => Work.mute γ (.adapter (.fold f)) :=
    All.lift (fun _ => trivial) m
  have hfold : (liftM m : Acting α).All fun γ a => Work.mute γ (.adapter a) :=
    All.lift_of hask fun _ h => h
  exact All.lift_of hfold fun _ h => h

theorem gap (p : Point) : Mute (gap p) := by
  refine .bind (.perform trivial) fun arrived => .bind (.each fun e _ => .attempt ?_) fun _ => .pure
  exact All.lift (fun _ => trivial) _

theorem locked (m : Asking α) : Mute (Supervisor.locked (liftM m)) := .bind (gap _) fun _ => own m

theorem ask (q : Query γ) : Mute (ask q) := .perform trivial

theorem setEntries (value : Bool) (reason : String) : Mute (setEntries value reason) :=
  .bind (locked _) fun _ => .perform trivial

theorem setDisabled : Mute setDisabled := locked _

theorem disarm (reason : String) : Mute (disarm reason) := by
  unfold Supervisor.disarm
  refine .bind (.attempt (setEntries _ _)) fun persisted => ?_
  refine .bind (.attempt setDisabled) fun disabled => ?_
  split
  · exact .pure
  · exact .raise

theorem pauseAll (reason : String) : Mute (pauseAll reason) := by
  refine .bind (setEntries _ _) fun _ => .bind (locked _) fun _ => ?_
  exact .bind (.attempt setDisabled) fun _ => .pure

theorem refusal (c : Candidate) : Mute (refusal cfg c) := by
  unfold Supervisor.refusal
  refine .bind (ask _) fun active => ?_
  split
  · exact .pure
  · refine .bind (.perform trivial) fun t => .bind (ask _) fun answer => ?_
    split
    split
    · exact .pure
    · refine .bind (ask _) fun flow => .bind (own _) fun now => ?_
      split
      · exact .pure
      · exact .bind (locked _) fun s => .pure

end Mute

/-- What mute acts keep. -/
def Muted (env : Env σ) (I : World σ → Prop) : Prop :=
  ∀ {γ} (a : Deed γ), a.mute → ∀ w, I w → I (a.exec env γ w).2

abbrev MuteDeeds (m : Doing α) : Prop := m.All Deed.mute

namespace MuteDeeds

theorem working {m : Working α} (h : Mute m) : MuteDeeds (liftM m : Doing α) :=
  All.lift_of h fun _ h => h

theorem reject (sig : Option Signal) (reason : String) (record : Bool) :
    MuteDeeds (reject sig reason record) := by
  have hlast : MuteDeeds (liftM (ask (.move false)) >>= fun _ => Pure.pure (false, reason) :
      Doing Result) :=
    .bind (working (.ask _)) fun _ => .pure
  unfold Supervisor.reject
  split
  · split
    · exact .bind (.perform trivial) fun _ => hlast
    · exact hlast
  · exact hlast

end MuteDeeds

theorem Muted.keeps (h : Muted env I) {m : Doing α} (hm : MuteDeeds m) :
    Keeps (Deed.exec env) I m :=
  hm.keeps fun a ha w hw => h a ha w hw

theorem World.write_adapter (w : World σ) (a : γ) {f : World σ → World σ}
    (hf : ∀ w, (f w).store = w.store) : (w.write env a f).2.store = w.store := by
  unfold World.write
  dsimp only
  split
  · exact hf _
  · rfl

/-- A callback of the stream. -/
def Deed.ofStream : Deed γ → Prop
  | .work (.callback _ _) => True
  | _ => False

/-- What the ledger holds stays in it. -/
theorem Deed.exec_ledgerLe (a : Deed γ) (w : World σ) :
    w.store.LedgerLe (a.exec env γ w).2.store := by
  have hwrite : ∀ {δ : Type} (b : δ) {f : World σ → World σ}, (∀ w, (f w).store = w.store) →
      w.store.LedgerLe (w.write env b f).2.store := by
    intro δ b f hf
    rw [World.write_adapter w b hf]
    exact .refl _
  cases a with
  | work a =>
    cases a with
    | adapter a => exact Act.exec_ledgerLe a w.adapter
    | callback p f => exact Act.exec_ledgerLe (.fold f) w.adapter
    | save => exact hwrite () fun w => rfl
    | _ => exact .refl _
  | claimSignal id => exact hwrite _ fun w => rfl
  | recordSignal id result => exact hwrite _ fun w => rfl
  | claimCommand id => exact hwrite _ fun w => rfl
  | recordCommand payload => exact hwrite _ fun w => rfl
  | writeResult payload => exact hwrite _ fun w => rfl
  | removeResults ids => exact hwrite _ fun w => rfl
  | _ => exact .refl _

/-- `process_signal` up to the claim of a candidate, and whether it is claimed. -/
def claimCandidate (cfg : Config) (c : Candidate) : Doing Bool := do
  let t ← theTables
  match t.signals c.id with
  | some _ => return false
  | none =>
    if c.signal.strategy ≠ some "IctSmcStrategy" then return false
    else
      let refused ← refusal cfg c
      match refused with
      | some _ => return false
      | none => .perform (.claimSignal c.id)

/-- From the claim of a signal to its submission. -/
def approve (c : Candidate) : Doing ℚ := do
  locked (registerPair c.symbol (pairOf c.pair))
  (.perform .save : Working Unit)
  let s ← locked theStore
  locked (upsert c.id (pairOf c.pair)
    { lifecycle := some .signalApproved
      protectionMode := some (some s.data.protectionMode)
      reconciliationStatus := some "SIGNAL_ACCEPTED" })
  let size ← (.perform .tradeSize : Working ℚ)
  .perform (.submitting c.id)
  return size

/-- What is recorded of a submission that ended. -/
def report (c : Candidate) (v : Verdict) : Doing Unit := do
  let d ← theData
  let label := if d.simulation then "simulated:" else ""
  let result := label ++ (if v.1 then "accepted" else "rejected:" ++ v.2)
  ask (.recordSignal c.signal result)
  .perform (.recordSignal c.id result)

/-- The end of `process_signal`. -/
def settle (c : Candidate) (v : Verdict) : Doing Result := do
  if !v.1 then
    closeUnsubmitted c
  ask (.move v.1)
  return (v.1, v.2)

/-- The main loop after `process_signal`. -/
def handled : Except Exc Result → Doing Unit
  | .ok _ => Pure.pure ()
  | .error _ => do
    let _ ← disarm "signal-processing-failure"
    let _ ← (locked (call (.setGlobalPause "signal-processing-failure-reconcile-required"))).attempt

/-- The record of a refusal, and what the stream delivers before the open rows are looked at. -/
def recording (c : Candidate) (message : String) : Doing Unit := do
  report c (false, message)
  gap .anywhere

/-- What the reads of `adapter.submit` are answered for a candidate that was approved, and the world
in which it goes on. -/
def answers (cfg : Config) (env : Env σ) (c : Candidate) (size : ℚ) (w : World σ) :
    Except Exc (Except String EntryPlan) × World σ :=
  (liftM (locked (liftM (entryReads (cfg.sized size) c.symbol c.id))) :
    Doing (Except String EntryPlan)).eval (Deed.exec env) w

/-- The guard and the store take the record of a refusal, and what the stream has delivered by then
leaves an approved signal the open row of the pair that was updated last. -/
def Closes (env : Env σ) (c : Candidate) (message : String) (w : World σ) : Prop :=
  ∃ w' row, (recording c message).eval (Deed.exec env) w = (.ok (), w') ∧
    w'.store.activeTradeForSymbol c.symbol = .ok (some row) ∧ row.lifecycle = .signalApproved

/-- No read before the entry raises; and where they speak against it, the row can be closed. -/
def Answered (cfg : Config) (env : Env σ) (c : Candidate) (size : ℚ) (w : World σ) : Prop :=
  (∃ p, (answers cfg env c size w).1 = .ok (.ok p)) ∨
    ∃ message, (answers cfg env c size w).1 = .ok (.error message) ∧
      Closes env c message (answers cfg env c size w).2

/-- The signal is claimed, and its row is approved. -/
def Approved (cfg : Config) (env : Env σ) (c : Candidate) (w : World σ) (size : ℚ)
    (w₁ : World σ) : Prop :=
  ∃ w₀, (claimCandidate cfg c).eval (Deed.exec env) w = (.ok true, w₀) ∧
    (approve c).eval (Deed.exec env) w₀ = (.ok size, w₁)

section refused
variable {c : Candidate} {message : String} {w : World σ}

end refused

section submission
variable {c : Candidate} {size : ℚ} {w : World σ}

/-- What `process_signal` does once the row is approved. -/
def submission (cfg : Config) (c : Candidate) (size : ℚ) : Doing Result :=
  (liftM (locked (submit (cfg.sized size) c.symbol c.id)) : Doing Verdict) >>= fun v =>
    report c v >>= fun _ => settle c v

/-- The entry of an approved signal and what follows it. -/
def entering (cfg : Config) (c : Candidate) (size : ℚ) (p : EntryPlan) : Doing Result :=
  (liftM (own (enter (cfg.sized size) c.id c.symbol p)) : Doing Verdict) >>= fun v =>
    report c v >>= fun _ => settle c v

end submission

section process
variable {sig : Signal} {c : Candidate} {w : World σ}

end process

section spared

variable (env) in
/-- Every act of the program but the callbacks that come between leaves the row as it is. -/
def Spares (id : TradeId) (m : Doing α) : Prop :=
  m.All fun γ a => a.ofStream ∨ ∀ w, (a.exec env γ w).2.store.trade id = w.store.trade id

end spared

/-- The candidate of a signal whose fields are found well formed. -/
def SignalFile.candidate (cfg : Config) : SignalFile → Option Candidate
  | .verified sig =>
    match screen cfg sig with
    | .passed c => some c
    | .refused _ _ _ => none
  | _ => none

end SpotSidecar.Supervisor
