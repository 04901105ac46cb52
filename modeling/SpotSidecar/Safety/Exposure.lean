import SpotSidecar.Exchange.Desk
import SpotSidecar.Safety.Closed
import SpotSidecar.Safety.Shut

/-! Single exposure: at most one nonterminal trade has an entry that may have reached the
exchange. -/
namespace SpotSidecar
open Interaction Prog

/-- An ENTRY intent that has left PREPARED and is neither rejected nor aborted. -/
def Intent.exposes (i : Intent) : Bool :=
  i.operation = .entry && i.state ≠ .prepared && i.state ≠ .definiteReject && i.state ≠ .aborted

/-- The nonterminal rows whose trade has such an intent. -/
def Store.exposures (s : Store) : List TradeRow :=
  s.activeTradeRows.filter fun row => s.intents.any fun i => i.tradeId = row.tradeId && i.exposes

/-- The trade that a command may submit an entry for. -/
def Command.entering : Command → Option TradeId
  | .signal _ _ id | .submit _ id => some id
  | _ => none

namespace Store

/-- The trade has an ENTRY intent, whatever has become of it. -/
def Entered (s : Store) (id : TradeId) : Prop :=
  ∃ d ∈ s.drafts, d.operation = .entry ∧ d.tradeId = id

/-- The trade has a nonterminal row or an unresolved intent. -/
def Live (s : Store) (id : TradeId) : Prop :=
  (∃ row, s.trade id = some row ∧ row.lifecycle.terminal = false) ∨
    ∃ key i, s.intent key = some i ∧ i.tradeId = id ∧ i.state.unresolved = true

/-- Every entry is of a trade that has a row. -/
def Rowed (s : Store) : Prop := ∀ id, s.Entered id → (s.trade id).isSome = true

theorem live_of_row {s : Store} {row : TradeRow} (h : row ∈ s.activeTradeRows) :
    s.Live row.tradeId := by
  obtain ⟨hmem, hopen⟩ := mem_activeTradeRows.mp h
  exact .inl ⟨row, trade_of_mem hmem, hopen⟩

theorem live_of_intent {s : Store} {i : Intent} (h : i ∈ s.unresolvedIntents) :
    s.Live i.tradeId := by
  obtain ⟨hmem, hstate⟩ := List.mem_filter.mp h
  exact .inr ⟨i.intentId, i, intent_of_mem hmem, rfl, hstate⟩

/-- What `submit` checks before it plans an entry. -/
theorem live_of_admitted {s : Store} {id id' : TradeId}
    (hrows : (s.activeTradeRows.any (·.tradeId ≠ id)) = false)
    (hintents : s.unresolvedIntents = []) (h : s.Live id') : id' = id := by
  rcases h with ⟨row, hrow, hopen⟩ | ⟨key, i, hi, -, hstate⟩
  · have hmem : row ∈ s.activeTradeRows := mem_activeTradeRows.mpr ⟨(trade_mem hrow).1, hopen⟩
    have hid := List.any_eq_false.mp hrows row hmem
    rw [(trade_mem hrow).2] at hid
    simpa using hid
  · have hmem : i ∈ s.unresolvedIntents := List.mem_filter.mpr ⟨(intent_mem hi).1, hstate⟩
    rw [hintents] at hmem
    cases hmem

theorem exposures_live {s : Store} {row : TradeRow} (h : row ∈ s.exposures) :
    s.Entered row.tradeId ∧ s.Live row.tradeId := by
  obtain ⟨hrow, hany⟩ := List.mem_filter.mp h
  obtain ⟨i, hi, hexposes⟩ := List.any_eq_true.mp hany
  simp only [Intent.exposes, Bool.and_eq_true, decide_eq_true_eq] at hexposes
  exact ⟨⟨i.draft, List.mem_map_of_mem hi, hexposes.2.1.1.1, hexposes.1⟩, live_of_row hrow⟩

end Store

variable {σ α γ : Type} {cfg : Config} {env : Env σ}

section acts
variable {N : TradeId → Prop}

/-- A row stays. -/
theorem Act.exec_row (env : Env σ) (a : Act γ) (w : World σ) {id : TradeId}
    (h : (w.store.trade id).isSome = true) : ((a.exec env γ w).2.store.trade id).isSome = true := by
  by_cases hup : a.upserts id
  · cases a with
    | upsertTrade id' pair f =>
      change ((w.store.upsertTrade id' pair f).trade id).isSome = true
      rw [Store.upsertTrade_trade]
      split
      · rfl
      · exact h
    | _ => exact hup.elim
  · obtain ⟨events, hrow, -⟩ := Act.exec_trade env a w id hup
    rw [hrow, Option.isSome_map]
    exact h

/-- An intent that is unresolved after an act was unresolved before it, or the act wrote it. -/
theorem Act.exec_unresolved (env : Env σ) (a : Act γ) (w : World σ) (ha : a.within N w.store)
    {key : IntentId} {i : Intent} (hi : (a.exec env γ w).2.store.intent key = some i)
    (hstate : i.state.unresolved = true) : w.store.Live i.tradeId ∨ N i.tradeId := by
  have hsame : w.store.intent key = some i → w.store.Live i.tradeId :=
    fun h => .inr ⟨key, i, h, rfl, hstate⟩
  cases a with
  | fold f =>
    rw [Store.intent, Act.exec, Fold.exec_intents] at hi
    exact .inl (hsame hi)
  | prepareIntent d =>
    simp only [Act.exec] at hi
    split at hi
    · rcases Store.prepareIntent_cases ‹_› with ⟨-, rfl, -⟩ | ⟨-, -, -, -, -, hintent⟩
      · exact .inl (hsame hi)
      · rw [hintent, Option.map_eq_some_iff] at hi
        obtain ⟨j, hj, rfl⟩ := hi
        have htrade :
            ∀ now, (if d.closeParentIntentId = some key then j.closedBy now else j).tradeId
            = j.tradeId := fun now => by
          split
          · exact congrArg IntentDraft.tradeId (Intent.closedBy_draft now j)
          · rfl
        rw [htrade]
        split at hj
        · cases hj
          exact .inr ha
        · refine .inl (.inr ⟨key, j, hj, rfl, ?_⟩)
          by_cases hprepared : j.state = .prepared
          · rw [hprepared]
            rfl
          · split at hstate
            · rwa [Intent.closedBy, if_neg hprepared] at hstate
            · exact hstate
    · exact .inl (hsame hi)
  | markIntentSubmitting id =>
    simp only [Act.exec] at hi
    split at hi
    · obtain ⟨⟨j, hj, hprepared⟩, -, -, -, hintent⟩ := Store.markIntentSubmitting_ok ‹_›
      have hmarked := (hintent key).symm.trans hi
      split at hmarked
      · next hkey =>
        subst hkey
        rw [hj, Option.map_some, Option.some.injEq] at hmarked
        subst hmarked
        have htrade := congrArg IntentDraft.tradeId (Intent.marked_draft (w.store.clock + 1) j)
        refine .inl (.inr ⟨key, j, hj, htrade.symm, ?_⟩)
        rw [hprepared]
        rfl
      · exact .inl (hsame hmarked)
    · exact .inl (hsame hi)
  | finishIntent id state orderId listId error =>
    simp only [Act.exec] at hi
    split at hi
    · have hfinished := ((Store.finishIntent_ok ‹_›).2.2.2.2 key).symm.trans hi
      split at hfinished
      · next hkey =>
        subst hkey
        obtain ⟨j, hj, hN⟩ := ha
        rw [hj, Option.map_some, Option.some.injEq] at hfinished
        subst hfinished
        exact .inr hN
      · exact .inl (hsame hfinished)
    · exact .inl (hsame hi)
  | upsertTrade id pair f =>
    have hi : (w.store.upsertTrade id pair f).intent key = some i := hi
    rw [Store.intent, Store.upsertTrade_intents] at hi
    exact .inl (hsame hi)
  | post p => exact .inl (hsame hi)

/-- A trade that is live after an act was live before it, or the act wrote to it. -/
theorem Act.exec_live (env : Env σ) (a : Act γ) (w : World σ) (ha : a.within N w.store)
    {id : TradeId} (h : (a.exec env γ w).2.store.Live id) : w.store.Live id ∨ N id := by
  rcases h with ⟨row', hrow', hopen⟩ | ⟨key, i, hi, rfl, hstate⟩
  · by_cases hup : a.upserts id
    · cases a with
      | upsertTrade id' pair f =>
        cases hup
        exact .inr ha
      | _ => exact hup.elim
    · obtain ⟨events, hrow, -⟩ := Act.exec_trade env a w id hup
      rw [hrow, Option.map_eq_some_iff] at hrow'
      obtain ⟨row, hr, rfl⟩ := hrow'
      refine .inl (.inl ⟨row, hr, ?_⟩)
      by_contra hclosed
      rw [foldEvents_terminal events _ (by simpa using hclosed)] at hopen
      cases hopen
  · exact Act.exec_unresolved env a w ha hi hstate

/-- A trade that is entered after an act was entered before it, or the act prepared an entry. -/
theorem Act.exec_entered (env : Env σ) (a : Act γ) (w : World σ) {id : TradeId}
    (h : (a.exec env γ w).2.store.Entered id) :
    w.store.Entered id ∨ ∃ d ∈ a.drafts, d.operation = .entry ∧ d.tradeId = id := by
  obtain ⟨d, hd, hentry⟩ := h
  rcases a.mem_exec_drafts w hd with hd | hd
  · exact .inl ⟨d, hd, hentry⟩
  · exact .inr ⟨d, hd, hentry⟩

/-- A calm act, or a mark, prepares no entry. -/
theorem Act.exec_entered_of_calm (env : Env σ) {a : Act γ} (ha : a.calm ∨ a.drafts = [])
    (w : World σ) {id : TradeId} (h : (a.exec env γ w).2.store.Entered id) :
    w.store.Entered id := by
  rcases a.exec_entered env w h with h | ⟨d, hd, hentry, -⟩
  · exact h
  · rcases ha with ha | ha
    · cases a with
      | prepareIntent d' =>
        cases List.mem_singleton.mp hd
        exact absurd hentry ha
      | _ => cases hd
    · rw [ha] at hd
      cases hd

end acts

/-- The entries are of the trades in `E`, which have rows. -/
structure EnteredOnly (E : TradeId → Prop) (w : World σ) : Prop where
  parented : w.store.Parented
  rowed : w.store.Rowed
  only : ∀ id, w.store.Entered id → E id

/-- Only the trades in `N` are live. -/
structure Contained (N : TradeId → Prop) (w : World σ) : Prop where
  parented : w.store.Parented
  live : ∀ id, w.store.Live id → N id

variable (env) in
theorem EnteredOnly.act {E : TradeId → Prop} {w : World σ} (h : EnteredOnly E w) {a : Act γ}
    (ha : a.calm ∨ a.drafts = []) : EnteredOnly E (a.exec env γ w).2 where
  parented := by
    refine Act.parenting_exec env ?_ w h.parented
    rcases ha with ha | ha
    · exact Act.calm_parenting ha
    · cases a with
      | prepareIntent d => cases ha
      | _ => trivial
  rowed id hid := Act.exec_row env a w (h.rowed id (Act.exec_entered_of_calm env ha w hid))
  only id hid := h.only id (Act.exec_entered_of_calm env ha w hid)

variable (env) in
theorem entered_gate (E : TradeId → Prop) : Gate env (EnteredOnly E) where
  exec _ _ ha hw := hw.act env (.inl ha)
  memory _ _ _ hw := ⟨hw.parented, hw.rowed, hw.only⟩
  data _ _ _ hw := ⟨hw.parented, hw.rowed, hw.only⟩
  mark _ _ _ _ _ hw := hw.act env (.inr rfl)
  parented _ hw := hw.parented

variable (env) in
theorem Contained.act {N : TradeId → Prop} {w : World σ} (h : Contained N w) {a : Act γ}
    (hparent : a.parenting) (ha : a.within N w.store) : Contained N (a.exec env γ w).2 where
  parented := Act.parenting_exec env hparent w h.parented
  live id hid := (a.exec_live env w ha hid).elim (h.live id) fun hN => hN

variable (env) in
theorem contained_ward (N : TradeId → Prop) : Ward env N (Contained N) where
  exec _ _ ha hin hw := hw.act env (Act.calm_parenting ha) hin
  memory _ _ _ hw := ⟨hw.parented, hw.live⟩
  data _ _ _ hw := ⟨hw.parented, hw.live⟩
  mark _ _ _ _ _ _ hw := hw.act env trivial trivial
  parented _ hw := hw.parented
  row _ hw _ hrow := hw.live _ (Store.live_of_row hrow)
  intent _ hw _ hi := hw.live _ (Store.live_of_intent hi)

/-- At most one entered trade is live. -/
structure Single (w : World σ) : Prop where
  parented : w.store.Parented
  rowed : w.store.Rowed
  single : ∀ id id', w.store.Entered id → w.store.Live id → w.store.Entered id' →
    w.store.Live id' → id = id'

theorem Single.exposures {w : World σ} (h : Single w) : w.store.exposures.length ≤ 1 := by
  have hnodup : w.store.exposures.Nodup := by
    refine List.Nodup.filter _ ((List.perm_insertionSort _ _).nodup_iff.mpr ?_)
    exact List.Nodup.filter _ (List.Nodup.of_map _ w.store.trades_nodup)
  have hmem : ∀ row ∈ w.store.exposures, row ∈ w.store.trades :=
    fun row hrow => (mem_activeTradeRows.mp (List.mem_of_mem_filter hrow)).1
  have hsame : ∀ row ∈ w.store.exposures, ∀ row' ∈ w.store.exposures, row = row' := by
    intro row hrow row' hrow'
    obtain ⟨hentered, hlive⟩ := Store.exposures_live hrow
    obtain ⟨hentered', hlive'⟩ := Store.exposures_live hrow'
    have hid := h.single _ _ hentered hlive hentered' hlive'
    exact List.inj_on_of_nodup_map w.store.trades_nodup (hmem row hrow) (hmem row' hrow') hid
  match hlist : w.store.exposures with
  | [] => simp
  | [row] => simp
  | row :: row' :: rows =>
    rw [hlist] at hnodup hsame
    have heq := hsame row (by simp) row' (by simp)
    simp [heq] at hnodup

/-- An operation that submits no entry makes no second trade live. -/
theorem single_of_ward {m : Acting α} (hm : ∀ (N : TradeId → Prop) (J : World σ → Prop),
    Ward env N J → Keeps (Act.exec env) J m) : Keeps (Act.exec env) Single m := by
  refine Triple.assume fun w₀ hw₀ => ?_
  have hentered := hm _ _ (entered_gate env w₀.store.Entered).ward
  have hlive := hm _ _ (contained_ward env
    fun id => w₀.store.Entered id → w₀.store.Live id)
  refine (hentered.both hlive).within ?_ ?_
  · rintro w rfl
    exact ⟨⟨hw₀.parented, hw₀.rowed, fun _ h => h⟩, ⟨hw₀.parented, fun _ h _ => h⟩⟩
  · rintro w ⟨he, hl⟩
    refine ⟨he.parented, he.rowed, fun id id' hid hlid hid' hlid' => ?_⟩
    have h₀ := he.only id hid
    have h₀' := he.only id' hid'
    exact hw₀.single id id' h₀ (hl.live id hlid h₀) h₀' (hl.live id' hlid' h₀')

theorem Single.act {w : World σ} (h : Single w) {a : Act γ} (ha : a.drafts = [])
    (hlive : ∀ id, (a.exec env γ w).2.store.Live id → w.store.Entered id → w.store.Live id) :
    Single (a.exec env γ w).2 := by
  have hentered : EnteredOnly w.store.Entered (a.exec env γ w).2 :=
    EnteredOnly.act _ ⟨h.parented, h.rowed, fun _ hid => hid⟩ (.inr ha)
  refine ⟨hentered.parented, hentered.rowed, fun id id' hid hlid hid' hlid' => ?_⟩
  have h₀ := hentered.only id hid
  have h₀' := hentered.only id' hid'
  exact h.single id id' h₀ (hlive id hlid h₀) h₀' (hlive id' hlid' h₀')

theorem single_fold (f : Fold γ) (w : World σ) (h : Single w) : Single (f.exec env γ w).2 := by
  have hnone : (Act.fold f).within (fun _ => False) w.store := trivial
  refine h.act (a := .fold f) rfl fun id hid _ => ?_
  exact (Act.exec_live env (.fold f) w hnone hid).elim (fun h => h) False.elim

theorem single_folding (m : Folding α) : Keeps (Act.exec env) Single (liftM m : Acting α) :=
  keeps_folding single_fold m

theorem single_asking (m : Asking α) : Keeps (Act.exec env) Single (liftM m : Acting α) :=
  keeps_asking (fun a => single_fold (.ask a)) m

/-- A trade of the ledger that is not closed is live. -/
theorem Single.live {w : World σ} (h : Single w) {id : TradeId} (hopen : w.store.closed id = false)
    (hentered : w.store.Entered id) : w.store.Live id := by
  obtain ⟨row, hrow⟩ := Option.isSome_iff_exists.mp (h.rowed id hentered)
  refine .inl ⟨row, hrow, ?_⟩
  simpa [Store.closed, hrow] using hopen

/-- A write to a trade that is not closed, or that closes the trade. -/
theorem Single.upsert {w : World σ} (h : Single w) {id : TradeId} (pair : Pair) {f : TradeFields}
    (hid : w.store.closed id = false ∨ f.lifecycle.any Lifecycle.terminal = true) :
    Single ((Act.upsertTrade id pair f).exec env _ w).2 := by
  refine h.act rfl fun id' hlive hentered => ?_
  rcases Act.exec_live env (N := (· = id)) (.upsertTrade id pair f) w rfl hlive with h' | rfl
  · exact h'
  · rcases hid with hopen | hid
    · exact h.live hopen hentered
    · rcases hlive with ⟨row, hrow, hopen⟩ | ⟨key, i, hi, htrade, hstate⟩
      · change (w.store.upsertTrade id' pair f).trade id' = some row at hrow
        rw [Store.upsertTrade_trade, if_pos rfl, Option.some.injEq] at hrow
        subst hrow
        change (f.lifecycle.getD _).terminal = false at hopen
        cases hl : f.lifecycle with
        | none => simp [hl] at hid
        | some l =>
          rw [hl] at hid hopen
          rw [Option.any_some] at hid
          rw [Option.getD_some, hid] at hopen
          cases hopen
      · change (w.store.upsertTrade id' pair f).intent key = some i at hi
        rw [Store.intent, Store.upsertTrade_intents] at hi
        exact .inr ⟨key, i, hi, htrade, hstate⟩

theorem single_upsert (id : TradeId) (pair : Pair) (f : TradeFields) :
    Triple (Act.exec env) (fun w => Single w ∧
        (w.store.closed id = false ∨ f.lifecycle.any Lifecycle.terminal = true))
      (upsert id pair f) (fun _ => Single) (fun _ => Single) Single :=
  .perform_same (fun _ hw => hw.1) fun _ hw => hw.1.upsert pair hw.2

theorem Contained.single {w : World σ} {id : TradeId} (h : Contained (· = id) w)
    (hrowed : w.store.Rowed) : Single w where
  parented := h.parented
  rowed := hrowed
  single id₁ id₂ _ h₁ _ h₂ := (h.live id₁ h₁).trans (h.live id₂ h₂).symm

/-- What holds of the submission of an entry from the write of its row on. -/
structure Admitted (id : TradeId) (w : World σ) : Prop where
  contained : Contained (· = id) w
  rowed : w.store.Rowed
  row : (w.store.trade id).isSome = true

theorem Admitted.act {id : TradeId} {w : World σ} (h : Admitted id w) {a : Act γ}
    (hparent : a.parenting) (hin : a.within (· = id) w.store)
    (hdrafts : ∀ d ∈ a.drafts, d.operation = .entry → d.tradeId = id) :
    Admitted id (a.exec env γ w).2 where
  contained := h.contained.act _ hparent hin
  rowed id' hid' := by
    refine Act.exec_row env a w ?_
    rcases a.exec_entered env w hid' with hid' | ⟨d, hd, hentry, rfl⟩
    · exact h.rowed id' hid'
    · rw [hdrafts d hd hentry]
      exact h.row
  row := Act.exec_row env a w h.row

theorem admitted_entering (id : TradeId) : Entering env (· = id) (Admitted id) where
  exec a w ha hin hw := by
    refine hw.act (Act.calm_parenting ha) hin fun d hd hentry => ?_
    cases a with
    | prepareIntent d' =>
      cases List.mem_singleton.mp hd
      exact absurd hentry ha
    | _ => cases hd
  memory _ _ _ hw := ⟨⟨hw.contained.parented, hw.contained.live⟩, hw.rowed, hw.row⟩
  data _ _ _ hw := ⟨⟨hw.contained.parented, hw.contained.live⟩, hw.rowed, hw.row⟩
  mark _ _ _ _ _ _ hw := hw.act trivial trivial fun _ hd => by cases hd
  parented _ hw := hw.contained.parented
  row _ hw _ hrow := hw.contained.live _ (Store.live_of_row hrow)
  intent _ hw _ hi := hw.contained.live _ (Store.live_of_intent hi)
  enter d w _ hparent hN hw := by
    refine hw.act (a := .prepareIntent d) (fun hsome => ?_) hN fun d' hd' _ => ?_
    · rw [hparent] at hsome
      cases hsome
    · cases List.mem_singleton.mp hd'
      exact hN
  sent _ _ _ hw := hw.act trivial trivial fun _ hd => by cases hd

theorem single_submitEntry (id : TradeId) (symbol : Symbol) (pair : Pair) (endpoint : Endpoint)
    (params : Params) :
    Triple (Act.exec env) (fun w => Contained (· = id) w ∧ EnteredOnly (fun _ => True) w)
      (submitEntry cfg id symbol pair endpoint params) (fun _ => Single) (fun _ => Single)
      Single := by
  refine (admitted_entering id).submitEntry_from (fun w hw => hw.1.single hw.2.rowed)
    (fun w hw => hw.contained.single hw.rowed)
    (fun hm => ((contained_ward env _).quiet hm).both ((entered_gate env _).ward.quiet hm)) rfl
    (fun pair f => ?_) _ _ _ _
  refine Triple.perform (fun w hw => hw.1.single hw.2.rowed) (fun w _ w' hw heq => ?_) ?_
  · cases heq
    have hparent : (Act.upsertTrade id pair f).parenting := trivial
    have hentered := hw.2.act env (a := .upsertTrade id pair f) (.inr rfl)
    refine ⟨hw.1.act env hparent rfl, hentered.rowed, ?_⟩
    change ((w.store.upsertTrade id pair f).trade id).isSome = true
    rw [Store.upsertTrade_trade, if_pos rfl]
    rfl
  · exact fun w e w' _ heq => by cases heq

theorem single_submit (symbol : Symbol) (id : TradeId) :
    Keeps (Act.exec env) Single (submit cfg symbol id) := by
  unfold submit
  refine .bind (single_asking _) fun m => .bind (single_asking _) fun s => ?_
  split
  · exact .pure
  · refine .bind (single_asking _) fun active => ?_
    split
    · exact .pure
    · split
      · exact .pure
      · refine Triple.bind (triple_theStore fun _ hw => hw) fun s => ?_
        split
        · exact .pure fun _ hw => hw.1
        · next hrows =>
          split
          · exact .pure fun _ hw => hw.1
          · next hintents =>
            refine Triple.weaken (R := fun w => Contained (· = id) w ∧
              EnteredOnly (fun _ => True) w) ?_ ?_
            · have hplan : Calm (planEntry cfg symbol active) := .planEntry _ _
              have hkeep := ((contained_ward env (· = id)).quiet hplan).both
                ((entered_gate env fun _ => True).ward.quiet hplan)
              refine Triple.bind (hkeep.conseq (fun _ hw => hw) (fun _ _ hw => hw)
                (fun _ w hw => hw.1.single hw.2.rowed) fun w hw => hw.1.single hw.2.rowed) ?_
              intro plan
              split
              · exact .pure fun w hw => hw.1.single hw.2.rowed
              · exact single_submitEntry _ _ _ _ _
            · rintro w ⟨hw, rfl⟩
              refine ⟨⟨hw.parented, fun id' hid' => ?_⟩,
                ⟨hw.parented, hw.rowed, fun _ _ => trivial⟩⟩
              exact Store.live_of_admitted (by simpa using hrows) (by simpa using hintents) hid'

theorem single_submitSignal (symbol : Symbol) (pair : Pair) (id : TradeId) :
    Triple (Act.exec env) (fun w => Single w ∧ w.store.closed id = false)
      (submitSignal cfg symbol pair id) (fun _ => Single) (fun _ => Single) Single := by
  have hask : ∀ {β : Type} (m : Asking β), Triple (Act.exec env)
      (fun w => Single w ∧ w.store.closed id = false) (liftM m : Acting β)
      (fun _ w => Single w ∧ w.store.closed id = false) (fun _ => Single) Single := by
    intro β m
    refine (keeps_asking (fun a w hw => ⟨single_fold (.ask a) w hw.1, ?_⟩) m).conseq
      (fun _ hw => hw) (fun _ _ hw => hw) (fun _ _ hw => hw.1) fun _ hw => hw.1
    exact (Store.closed_congr (Ask.exec_cases env a w).1 id).trans hw.2
  unfold submitSignal
  refine Triple.bind (hask _) fun _ => Triple.bind (hask _) fun s => ?_
  refine Triple.bind ((single_upsert _ _ _).weaken fun w hw => ⟨hw.1, .inl hw.2⟩) fun _ => ?_
  refine Keeps.bind (single_submit _ _) ?_
  rintro ⟨accepted, message⟩
  refine .bind (single_asking _) fun _ => .bind (single_asking _) fun _ => ?_
  dsimp only
  split
  · refine .bind ?_ fun _ => .pure
    unfold rejectUnsubmitted
    refine .bind (single_asking _) fun s => .bind .ofExcept fun current => ?_
    split
    · exact (single_upsert _ _ _).weaken fun w hw => ⟨hw, .inr rfl⟩
    · exact .pure
  · exact .bind .pure fun _ => .pure

theorem single_processSignal (symbol : Symbol) (pair : Pair) (id : TradeId) :
    Triple (Act.exec env)
      (fun w => Single w ∧ (w.approves id = true → w.store.closed id = false))
      (processSignal cfg symbol pair id) (fun _ => Single) (fun _ => Single) Single :=
  triple_processSignal (fun a w hw => single_fold (.ask a) w hw) (fun _ hw => hw.1)
    (fun w hw happroved => ⟨show Single (Fold.exec env _ (.ask (.claimSignal id)) w).2 from
      single_fold _ w hw.1, hw.2 happroved⟩)
    (single_submitSignal symbol pair id)

/-- No signal is approved for a closed trade. -/
def Command.Opens (c : Command) (w : World σ) : Prop :=
  ∀ id ∈ c.approving w, w.store.closed id = false

instance (c : Command) (w : World σ) : Decidable (c.Opens w) :=
  inferInstanceAs (Decidable (∀ id ∈ c.approving w, w.store.closed id = false))

theorem single_verifiedReconcile : Keeps (Act.exec env) Single (verifiedReconcile cfg) :=
  single_of_ward fun _ _ h => h.verifiedReconcile

theorem single_start : Keeps (Act.exec env) Single (start cfg) := by
  unfold start
  refine .bind (single_asking _) fun active => .bind (single_asking _) fun rules => ?_
  refine .bind (single_asking _) fun s => .bind (single_asking _) fun _ => ?_
  refine .bind (single_asking _) fun _ => .bind (single_asking _) fun _ => ?_
  refine .bind (single_asking _) fun _ => .bind single_verifiedReconcile fun result => ?_
  split
  · exact single_asking _
  · exact .raise

theorem single_setEnabled (on : Bool) : Keeps (Act.exec env) Single (setEnabled cfg on) := by
  unfold setEnabled
  split
  · refine .bind (single_asking _) fun s => ?_
    split
    · exact .pure
    · refine .bind (single_asking _) fun risk => ?_
      split
      · exact .pure
      · refine .bind single_verifiedReconcile fun result => ?_
        split
        · exact .pure
        · refine .bind (single_asking _) fun s => ?_
          split
          · exact .pure
          · exact .bind (single_asking _) fun _ => .pure
  · exact .bind (single_asking _) fun _ => .pure

theorem single_tick : Keeps (Act.exec env) Single (tick cfg) := by
  rw [tick_eq]
  refine .bind ?_ fun _ => single_of_ward fun _ _ h => h.tickRows
  unfold tickAccount
  refine .bind (single_asking _) fun m => ?_
  split
  · exact .pure
  · refine .bind (single_asking _) fun now => ?_
    split
    · exact .bind (single_asking _) fun _ => .bind single_verifiedReconcile fun _ => .pure
    · exact .pure

/-- No command but the approval of a signal for a closed trade makes a second trade live. -/
theorem single_command (c : Command) : Triple (Act.exec env) (fun w => Single w ∧ c.Opens w)
    (c.program cfg) (fun _ => Single) (fun _ => Single) Single := by
  have hkeep : ∀ {m : Acting Unit}, Keeps (Act.exec env) Single m → Triple (Act.exec env)
      (fun w => Single w ∧ c.Opens w) m (fun _ => Single) (fun _ => Single) Single :=
    fun hm => hm.weaken fun _ hw => hw.1
  cases c with
  | start => exact hkeep single_start
  | restart => exact hkeep .pure
  | setEnabled on => exact hkeep (keeps_drop (single_setEnabled on))
  | setEntries on => exact hkeep (single_asking _)
  | setMode mode => exact hkeep (single_asking _)
  | signal symbol pair id =>
    refine Triple.bind ((single_processSignal symbol pair id).weaken fun w hw => ⟨hw.1, ?_⟩)
      fun _ => .pure fun _ hw => hw
    exact fun happroved => hw.2 id (if_pos happroved)
  | submit symbol id => exact hkeep (keeps_drop (single_submit _ _))
  | convert symbol args => exact hkeep (keeps_drop (single_of_ward fun _ _ h => h.convert _ _))
  | tick => exact hkeep single_tick
  | emergencyExit symbol =>
    exact hkeep (keeps_drop (single_of_ward fun _ _ h => h.emergencyExit _))
  | verifiedReconcile => exact hkeep (keeps_drop single_verifiedReconcile)
  | orderUpdate e => exact hkeep (single_folding _)
  | listUpdate e => exact hkeep (single_folding _)
  | accountUpdate => exact hkeep (single_asking _)
  | resync => exact hkeep (single_asking _)

theorem single_runSteps (e : σ) (steps : List Step)
    (hopens : ∀ before s, before ++ [s] <+: steps → s.command.Opens (runSteps cfg env e before)) :
    Single (runSteps cfg env e steps) := by
  refine runSteps_of_triples single_command (fun _ _ hopen => hopen) e steps ?_ ?_ ?_ hopens
  · have hnone : ∀ id, ¬(({} : Store).Entered id) := by
      rintro id ⟨d, hd, -⟩
      cases hd
    refine ⟨fun d hd => ?_, fun id hid => absurd hid (hnone id), fun id _ hid => ?_⟩
    · cases hd
    · exact absurd hid (hnone id)
  · exact fun w hw => ⟨hw.parented, hw.rowed, hw.single⟩
  · exact fun w hw => ⟨hw.parented, hw.rowed, hw.single⟩

/-- The conditions that `submit` has to find in the tables. -/
def Store.Admits (s : Store) (id : TradeId) : Prop :=
  (∀ row ∈ s.activeTradeRows, row.tradeId = id) ∧ s.unresolvedIntents = []

/-- The tables do not admit an entry of the trade, and these requests were made. -/
structure Refused (id : TradeId) (made : List Post) (w : World σ) : Prop where
  refused : ¬w.store.Admits id
  made : requests w.history = made

theorem refused_asking {id : TradeId} {made : List Post} (m : Asking α) :
    Keeps (Act.exec env) (Refused id made) (liftM m : Acting α) := by
  refine keeps_asking (fun a w hw => ⟨fun hadmits => hw.refused ?_, ?_⟩) m
  · obtain ⟨htrades, hintents, -⟩ := Ask.exec_cases env a w
    rwa [Store.Admits, activeTradeRows_congr htrades, Store.unresolvedIntents, hintents] at hadmits
  · rw [Ask.exec_requests]
    exact hw.made

theorem refused_submit (symbol : Symbol) (id : TradeId) (made : List Post) :
    Keeps (Act.exec env) (Refused id made) (submit cfg symbol id) := by
  unfold submit
  refine .bind (refused_asking _) fun m => .bind (refused_asking _) fun s => ?_
  split
  · exact .pure
  · refine .bind (refused_asking _) fun active => ?_
    split
    · exact .pure
    · split
      · exact .pure
      · refine Triple.bind (triple_theStore fun _ hw => hw) fun s => ?_
        split
        · exact .pure fun _ hw => hw.1
        · next hrows =>
          split
          · exact .pure fun _ hw => hw.1
          · next hintents =>
            rintro w ⟨hw, rfl⟩
            refine absurd ⟨fun row hrow => ?_, by simpa using hintents⟩ hw.refused
            simp only [List.any_eq_true, decide_eq_true_eq, not_exists, not_and, not_not] at hrows
            exact hrows row hrow

/-- A write to the row of the trade does not admit its entry. -/
theorem Store.admits_of_upsert {s : Store} {id : TradeId} {pair : Pair} {f : TradeFields}
    (h : (s.upsertTrade id pair f).Admits id) : s.Admits id := by
  refine ⟨fun row hrow => ?_, ?_⟩
  · obtain ⟨hmem, hopen⟩ := mem_activeTradeRows.mp hrow
    by_contra hid
    have htrade : (s.upsertTrade id pair f).trade row.tradeId = some row := by
      rw [upsertTrade_trade, if_neg hid, trade_of_mem hmem]
    exact hid (h.1 row (mem_activeTradeRows.mpr ⟨(trade_mem htrade).1, hopen⟩))
  · have hintents := h.2
    rwa [unresolvedIntents, upsertTrade_intents] at hintents

theorem refused_submitSignal (symbol : Symbol) (pair : Pair) (id : TradeId) (made : List Post) :
    Triple (Act.exec env) (Refused id made) (submitSignal cfg symbol pair id)
      (fun _ w => requests w.history = made) (fun _ w => requests w.history = made)
      (fun w => requests w.history = made) := by
  have hkeep : ∀ {β : Type} {m : Acting β}, Keeps (Act.exec env) (Refused id made) m →
      Triple (Act.exec env) (Refused id made) m (fun _ => Refused id made)
        (fun _ w => requests w.history = made) (fun w => requests w.history = made) :=
    fun hm => hm.conseq (fun _ hw => hw) (fun _ _ hw => hw) (fun _ _ hw => hw.made)
      fun _ hw => hw.made
  have hask : ∀ {β : Type} (m : Asking β), Keeps (Act.exec env)
      (fun w => requests w.history = made) (liftM m : Acting β) :=
    keeps_asking fun a w hw => (Ask.exec_requests env a w).trans hw
  have hupsert : ∀ f, Keeps (Act.exec env) (fun w => requests w.history = made)
      (upsert id pair f) := fun f => .perform fun w hw => by
    change requests (w.note (.upserted id f)).history = made
    rw [requests_note w fun p r h => by cases h]
    exact hw
  have happroved : ∀ f, Keeps (Act.exec env) (Refused id made) (upsert id pair f) :=
    fun f => .perform fun w hw =>
      ⟨fun hadmits => hw.refused (Store.admits_of_upsert hadmits),
        (requests_note w fun p r h => by cases h).trans hw.made⟩
  unfold submitSignal
  refine Triple.bind (hkeep (refused_asking _)) fun _ => ?_
  refine Triple.bind (hkeep (refused_asking _)) fun s => ?_
  refine Triple.bind (hkeep (happroved _)) fun _ => ?_
  refine Triple.bind (hkeep (refused_submit _ _ _)) ?_
  rintro ⟨accepted, message⟩
  refine Triple.weaken ?_ fun _ hw => hw.made
  refine Keeps.bind (hask _) fun _ => .bind (hask _) fun _ => ?_
  dsimp only
  split
  · refine .bind ?_ fun _ => .pure
    unfold rejectUnsubmitted
    refine .bind (hask _) fun s => .bind .ofExcept fun current => ?_
    split
    · exact hupsert _
    · exact .pure
  · exact .bind .pure fun _ => .pure

theorem refused_processSignal (symbol : Symbol) (pair : Pair) (id : TradeId) (made : List Post) :
    Triple (Act.exec env) (Refused id made) (processSignal cfg symbol pair id)
      (fun _ w => requests w.history = made) (fun _ w => requests w.history = made)
      (fun w => requests w.history = made) :=
  triple_processSignal (fun a w hw => (Ask.exec_requests env a w).trans hw) (fun _ hw => hw.made)
    (fun _ hw _ => ⟨hw.refused, hw.made⟩) (refused_submitSignal symbol pair id made)

/-- A command that may submit an entry makes no request where the tables do not admit one. -/
theorem requests_of_refused {w : World σ} {s : Step} {id : TradeId}
    (hentering : s.command.entering = some id) (h : ¬w.store.Admits id) :
    requests (step cfg env w s).history = requests w.history := by
  have hbegan : Refused id (requests w.history) (w.note .began) :=
    ⟨h, requests_note w fun p r h => by cases h⟩
  refine step_of_command (J := fun w' => requests w'.history = requests w.history) hbegan.made ?_
    fun _ hw => hw
  cases hc : s.command with
  | signal symbol pair id' =>
    rw [hc] at hentering
    cases hentering
    exact Triple.bind (refused_processSignal _ _ _ _) (fun _ => .pure fun _ hw => hw) _ hbegan
  | submit symbol id' =>
    rw [hc] at hentering
    cases hentering
    refine Triple.bind (R := fun _ w' => requests w'.history = requests w.history)
      ((refused_submit symbol id _).conseq (fun _ hw => hw) (fun _ _ hw => hw.made)
        (fun _ _ hw => hw.made) fun _ hw => hw.made) (fun _ => .pure fun _ hw => hw) _ hbegan
  | _ =>
    rw [hc] at hentering
    cases hentering

/-- At most one nonterminal trade is exposed after any run that approves no signal for a closed
trade, and after any run the next command posts an entry only where no other row is nonterminal and
no intent is unresolved. -/
theorem single_exposure (cfg : Config) (env : Env σ) (e : σ) (steps : List Step) :
    ((∀ before s, before ++ [s] <+: steps → s.command.Opens (runSteps cfg env e before)) →
        (runSteps cfg env e steps).store.exposures.length ≤ 1) ∧
      ∀ s : Step, ∀ id ∈ s.command.entering,
        requests (runSteps cfg env e (steps ++ [s])).history ≠
            requests (runSteps cfg env e steps).history →
          (∀ row ∈ (runSteps cfg env e steps).store.activeTradeRows, row.tradeId = id) ∧
            (runSteps cfg env e steps).store.unresolvedIntents = [] := by
  refine ⟨fun hopens => (single_runSteps e steps hopens).exposures, fun s id hid hposted => ?_⟩
  rw [runSteps, List.foldl_append] at hposted
  by_contra hrefused
  exact hposted (requests_of_refused (Option.mem_def.mp hid) hrefused)

theorem single_exposure_opening :
    let armed := runSteps Desk.config Desk.env {} (Desk.opening.take 3)
    let entered := runSteps Desk.config Desk.env {}
      (Desk.opening.take 3 ++ [Desk.whole (.signal "BTCUSDT" ⟨"BTC", "USDT"⟩ "s1")])
    requests entered.history ≠ requests armed.history ∧ entered.store.exposures.length = 1 ∧
      entered.store.exposures.length ≤ 1 ∧
      (∀ row ∈ armed.store.activeTradeRows, row.tradeId = "s1") ∧
        armed.store.unresolvedIntents = [] := by
  intro armed entered
  have hposted : requests entered.history ≠ requests armed.history := by
    decide +kernel
  have hopens : ∀ before s, before ++ [s] <+:
      Desk.opening.take 3 ++ [Desk.whole (.signal "BTCUSDT" ⟨"BTC", "USDT"⟩ "s1")] →
      s.command.Opens (runSteps Desk.config Desk.env {} before) := by
    intro before s hs
    obtain ⟨n, hn, rfl, hstep⟩ := prefix_concat hs
    have hn : n < 4 := hn
    interval_cases n <;> cases hstep <;> decide +kernel
  exact ⟨hposted, by decide +kernel, (single_exposure Desk.config Desk.env {} _).1 hopens,
    (single_exposure Desk.config Desk.env {} (Desk.opening.take 3)).2 _ "s1" rfl hposted⟩

/-- A trade of the owner is bought and stopped out, a signal enters, and the process dies while
it handles a signal under the id of the owner's trade. -/
def Desk.reopened : World Desk :=
  runSteps config Desk.env
    { script := [{ next := [.fill 2 1 (1 / 1000), .fill 4 (999 / 1000) 0] }] }
    ([whole .start, whole (.setEnabled true), whole (.setEntries true),
        whole (.submit "BTCUSDT" "manual-x"), whole .verifiedReconcile,
        whole (.signal "BTCUSDT" ⟨"BTC", "USDT"⟩ "s2")] ++
      [⟨.signal "BTCUSDT" ⟨"BTC", "USDT"⟩ "manual-x", 7⟩])

/-- The write of SIGNAL_APPROVED opens the closed trade again beside the one that is open. -/
theorem single_exposure_reopened :
    (∃ entry ∈ Desk.reopened.history, entry.store.closed "manual-x" = true) ∧
      Desk.reopened.store.exposures.map (·.tradeId) = ["s2", "manual-x"] := by
  decide +kernel

end SpotSidecar
