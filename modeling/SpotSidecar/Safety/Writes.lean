import SpotSidecar.Safety.Still

/-! What the operations write to the trade rows. An invariant that every such write keeps needs
no walk of its own through the operations. -/
namespace SpotSidecar
open Interaction Prog
variable {σ α : Type} {cfg : Config} {env : Env σ}

/-- Acts that write rows as the operations do. -/
def Act.writing (γ : Type) : Act γ → Prop
  | .upsertTrade _ _ f => RowWrite f
  | _ => True

/-- Every write of the program to a row is one of the operations' writes. -/
abbrev Writes (m : Acting α) := m.All Act.writing

namespace Writes

theorem settles {m : Acting α} (h : Settles m) : Writes m :=
  h.mono fun a ha => by cases a <;> trivial

theorem asking (m : Asking α) : Writes (liftM m : Acting α) := settles (.asking m)

theorem lifecycle (id : TradeId) (pair : Pair) {f : TradeFields} {l : Lifecycle}
    (h : f.lifecycle = some l) (hl : l.written = true) : Writes (upsert id pair f) :=
  .perform (.lifecycle h hl)

theorem status (id : TradeId) (pair : Pair) (status : String) :
    Writes (upsert id pair { reconciliationStatus := some status }) :=
  .perform (.status rfl)

theorem prepare (d : IntentDraft) : Writes (prepare d) := .perform trivial

theorem finish (id : IntentId) (state : IntentState) (error : Option String) :
    Writes (finish id state error) :=
  .perform trivial

theorem still {m : Acting α} (h : Still m) : Writes m :=
  h.mono fun a ha => by cases a <;> trivial

theorem submit (symbol : Symbol) (id : TradeId) : Writes (submit cfg symbol id) := by
  unfold SpotSidecar.submit
  refine .bind (asking _) fun m => .bind (asking _) fun s => ?_
  split
  · exact .pure
  · refine .bind (asking _) fun active => ?_
    split
    · exact .pure
    · split
      · exact .pure
      · refine .bind (asking _) fun s => ?_
        split
        · exact .pure
        · split
          · exact .pure
          · refine .bind (asking _) fun plan => ?_
            split
            · exact .pure
            · unfold submitEntry
              refine .bind (asking _) fun now => .bind (asking _) fun s => ?_
              refine .bind (lifecycle _ _ rfl rfl) fun _ => ?_
              refine .bind (still (.submitOnce _ _ _ _ _ _)) fun submitted => ?_
              split
              · exact .bind (lifecycle _ _ rfl rfl) fun _ => .pure
              · exact .bind (settles (.bindIntent _ _ _)) fun _ => .pure
              · exact .raise
              · exact .bind (lifecycle _ _ rfl rfl) fun _ => .pure

theorem protectFilled (row : TradeRow) (symbol : Symbol) (pair : Pair) (rules : SymbolRules) :
    Writes (protectFilled cfg row symbol pair rules) := by
  unfold SpotSidecar.protectFilled
  refine .bind (asking _) fun held => ?_
  dsimp only
  split
  · exact .pure
  · refine .bind (asking _) fun entryPrice => .bind (asking _) fun current => ?_
    refine .bind (asking _) fun s => .bind (asking _) fun _ => .bind (asking _) fun request => ?_
    refine .bind (asking _) fun _ => .bind (still (.submitOnce _ _ _ _ _ _)) fun submitted => ?_
    split
    · refine .bind (settles (.bindIntent _ _ _)) fun _ => ?_
      exact .bind (status _ _ _) fun _ => .pure
    · exact .raise
    · exact .pure

theorem convert (symbol : Symbol) (args : ConvertArgs) : Writes (convert cfg symbol args) := by
  unfold SpotSidecar.convert
  refine .bind (asking _) fun planned => ?_
  split
  · exact .pure
  · unfold executeConversion
    refine .bind (prepare _) fun isNew => ?_
    split
    · refine .bind (asking _) fun _ => .bind (asking _) fun _ => ?_
      refine .bind (still (.cancelProtection _ _)) ?_
      rintro ⟨canceled, detail⟩
      dsimp only
      split
      · unfold replaceCanceled
        refine .bind (asking _) fun free => ?_
        dsimp only
        split
        · refine .bind (asking _) fun balances => ?_
          split
          · exact .pure
          · exact .bind (finish _ _ _) fun _ => .bind (lifecycle _ _ rfl rfl) fun _ => .pure
        · unfold submitReplacement
          refine .bind (asking _) fun request => .bind (asking _) fun _ => ?_
          refine .bind (still (.submitOnce _ _ _ _ _ _)) fun submitted => ?_
          split
          · exact settles (.finishConversion _ _ _ _ _ _ _)
          · exact .raise
          · exact .bind (lifecycle _ _ rfl rfl) fun _ => .pure
      · exact .pure
    · exact .pure

theorem emergencyExit (symbol : Symbol) : Writes (emergencyExit cfg symbol) := by
  unfold SpotSidecar.emergencyExit
  refine .bind (asking _) fun s => .bind .ofExcept fun found => ?_
  split
  · exact .pure
  · refine .bind (asking _) fun _ => .bind (still (.cancelProtection _ _)) ?_
    rintro ⟨canceled, detail⟩
    dsimp only
    split
    · unfold exitCanceled
      refine .bind (asking _) fun active => .bind (asking _) fun rules => ?_
      split
      · exact .pure
      · refine .bind (asking _) fun free => ?_
        dsimp only
        split
        · exact .pure
        · unfold sellOut
          refine .bind (asking _) fun bid => .bind (asking _) fun client => ?_
          refine .bind (asking _) fun _ =>
            .bind (still (.submitOnce _ _ _ _ _ _)) fun submitted => ?_
          split
          · exact .bind (settles (.bindIntent _ _ _)) fun _ => settles (.verifyExit _ _)
          · exact .raise
          · exact .pure
    · exact .pure

theorem resolveIntent (i : Intent) : Writes (resolveIntent cfg i) := by
  unfold SpotSidecar.resolveIntent
  refine .bind (asking _) fun request => ?_
  split
  · split
    · exact .pure
    · split
      · refine .bind ?_ fun _ => .pure
        unfold resolvePreparedChild
        refine .bind (asking _) fun s => ?_
        split
        · exact .raise
        · refine .bind (asking _) fun rules => .bind (asking _) fun _ => ?_
          exact .bind (still (.resumeExisting _ _)) fun r =>
            settles (.bindRecovered _ _ _ _ _ _ _ _)
      · exact .bind (settles (.abortPrepared _)) fun _ => .pure
  · split
    · exact .bind (settles (.resolveCancel _ _)) fun _ => .pure
    · exact .bind (settles (.resolvePlacement _ _)) fun _ => .pure

theorem submitPlan (plan : Intent) (request : Params) (row : TradeRow) (rules : SymbolRules) :
    Writes (submitPlan cfg plan request row rules) := by
  unfold SpotSidecar.submitPlan
  refine .bind .ensure fun _ => .bind (asking _) fun free => ?_
  dsimp only
  split
  · refine .bind (asking _) fun balances => .bind .ensure fun _ => ?_
    exact .bind (finish _ _ _) fun _ => .bind (lifecycle _ _ rfl rfl) fun _ => .pure
  · refine .bind (asking _) fun _ => .bind (still (.submitOnce _ _ _ _ _ _)) fun submitted => ?_
    refine .bind (finish _ _ _) fun _ => ?_
    exact .bind (settles (.bindRecovered _ _ _ _ _ _ _ _)) fun _ => .pure

theorem resumePreparedReplacement (plan : Intent) :
    Writes (resumePreparedReplacement cfg plan) := by
  unfold SpotSidecar.resumePreparedReplacement
  refine .bind (asking _) fun request => .bind (asking _) fun s => ?_
  dsimp only
  split
  · exact .bind (finish _ _ _) fun _ => .pure
  · split
    · refine .bind (asking _) fun cancelRequest => .bind (asking _) fun terminal => ?_
      split
      · unfold resumeAfterCancel
        refine .bind (asking _) fun s => ?_
        split
        · exact .raise
        · refine .bind (asking _) fun active => .bind (asking _) fun rules => ?_
          split
          · exact submitPlan _ _ _ _
          · split
            · refine .bind ?_ fun _ => .pure
              unfold resumeChild
              refine .bind (asking _) fun request => .bind (asking _) fun _ => ?_
              refine .bind (still (.resumeExisting _ _)) fun r => ?_
              exact .bind (settles (.bindRecovered _ _ _ _ _ _ _ _)) fun _ => finish _ _ _
            · exact .bind (settles (.rebindChild _ _ _)) fun _ => .pure
            · exact .pure
            · exact .pure
            · exact .bind (finish _ _ _) fun _ => .pure
            · exact .bind (finish _ _ _) fun _ => .pure
      · exact .pure
    · exact .pure

end Writes

theorem Lifecycle.written_of_terminal {l : Lifecycle} (h : l.terminal = true) :
    l.written = true := by
  cases l <;> first | rfl | cases h

/-- What the writes of the operations keep, and the first write of a signal, every run keeps. -/
theorem Sites.ofWrites {J : World σ → Prop}
    (hact : ∀ {γ} (a : Act γ), a.writing → ∀ w, J w → J (a.exec env γ w).2)
    (hsignal : ∀ id pair mode w, J w →
      J (Act.exec env _ (.upsertTrade id pair
        { lifecycle := some .signalApproved
          protectionMode := some (some mode)
          reconciliationStatus := some "SIGNAL_ACCEPTED" }) w).2) : Sites cfg env J where
  fold f w hw := hact (.fold f) trivial w hw
  write id pair f w hf hw := by
    have hlifecycle : ∀ (f : TradeFields) {l : Lifecycle}, f.lifecycle = some l → l.written = true →
        Act.writing Unit (.upsertTrade id pair f) := fun f _ h hl => RowWrite.lifecycle h hl
    cases hf with
    | closed h status => exact hact _ (hlifecycle _ rfl (Lifecycle.written_of_terminal h)) w hw
    | signal _ mode => exact hsignal id pair mode w hw
  admits _ _ _ _ _ _ := trivial
  tables _ _ _ _ _ := trivial
  submit symbol id := ((Writes.submit symbol id).keeps hact).weaken fun _ hw => hw.1
  convert symbol args := (Writes.convert symbol args).keeps hact
  emergencyExit symbol := (Writes.emergencyExit symbol).keeps hact
  placePartialProtection := keeps_placePartialProtection (fun f w hw => hact (.fold f) trivial w hw)
    (fun id pair => (Writes.lifecycle id pair rfl rfl).keeps hact)
    (fun row symbol => (Writes.still (.cancelEntryList row symbol _)).keeps hact)
    fun row symbol pair rules => (Writes.protectFilled row symbol pair rules).keeps hact
  cancelEntryList row symbol operation _ :=
    (Writes.still (.cancelEntryList row symbol operation)).keeps hact
  resolveIntent i := ((Writes.resolveIntent i).keeps hact).weaken fun _ hw => hw.1
  resumePreparedReplacement i _ _ :=
    ((Writes.resumePreparedReplacement i).keeps hact).weaken fun _ hw => hw.1

end SpotSidecar
