import SpotSidecar.Safety.Still
import SpotSidecar.State.Rounding

/-! When the intents of the ledger were prepared, by their stamps: what the balances and the rows
had last been seen to be, and how these bound the orders that the intents store. -/
namespace SpotSidecar
open Interaction Prog

/-- The entries between the write before a stamp and the write with the stamp, newest first. -/
def before (stamp : ℕ) (es : List Entry) : List Entry := es.filter (·.store.clock + 1 = stamp)

/-- The balances that were read last before the write with a stamp, and after all earlier writes. -/
def balancesBefore (stamp : ℕ) (es : List Entry) : Option Balances :=
  (before stamp es).findSome? (·.item.balances?)

/-- The store at the last entry before the write with a stamp, and after all earlier writes. -/
def storeBefore (stamp : ℕ) (es : List Entry) : Option Store :=
  (before stamp es).head?.map (·.store)

/-- A quantity within the floor of the free balance that was read last before a stamp. -/
def FreeBefore (step : ℚ) (stamp : ℕ) (es : List Entry) (qty : ℚ) : Prop :=
  ∃ balances, balancesBefore stamp es = some balances ∧
    qty ≤ floorStep (balanceOf balances "BTC").1 step

/-- A quantity within what the row of a trade recorded before a stamp. -/
def OwnedBefore (stamp : ℕ) (es : List Entry) (id : TradeId) (qty : ℚ) : Prop :=
  ∃ s row, storeBefore stamp es = some s ∧ s.trade id = some row ∧ qty ≤ row.recorded

/-- What the ledger stands for, each intent with the stamp it was inserted under. -/
def Store.stamped (s : Store) : List (IntentDraft × ℕ) :=
  s.intents.map fun i => (i.draft, i.createdAt)

/-- The intent that has fixed what the bot owns: the plan of a replacement, else the intent
itself. -/
def IntentDraft.FixedBy (d : IntentDraft) (stamp : ℕ) (fixing : IntentDraft × ℕ) : Prop :=
  match d.parentIntentId with
  | none => fixing = (d, stamp)
  | some parent => fixing.1.intentId = parent ∧ fixing.1.tradeId = d.tradeId

/-- What bounds the quantity of the SELL that an intent stores. -/
structure IntentDraft.Sells (d : IntentDraft) (step : ℚ) (ledger : List (IntentDraft × ℕ))
    (es : List Entry) (stamp : ℕ) (qty : ℚ) : Prop where
  quantity : d.request.quantity = some qty
  pos : 0 < qty
  multiple : Multiple step qty
  root : d.operation = .replaceProtection → d.parentIntentId = none
  free : d.operation ≠ .replaceProtection → FreeBefore step stamp es qty
  owned : ∃ fixing, (fixing ∈ ledger ∨ fixing = (d, stamp)) ∧ d.FixedBy stamp fixing ∧
    OwnedBefore fixing.2 es d.tradeId qty

/-- The SELLs of a ledger are bounded by what was read before the stamps. -/
structure Bounded (step : ℚ) (ledger : List (IntentDraft × ℕ)) (clock : ℕ) (es : List Entry) :
    Prop where
  entries : ∀ e ∈ es, e.store.clock ≤ clock
  stamps : ∀ p ∈ ledger, p.2 ≤ clock
  sells : ∀ p ∈ ledger, p.1.request.side = some .sell →
    ∃ qty, p.1.Sells step ledger es p.2 qty

section history
variable {step : ℚ} {ledger : List (IntentDraft × ℕ)} {clock stamp : ℕ}
  {es : List Entry} {e : Entry}

theorem before_cons (h : stamp ≤ e.store.clock) : before stamp (e :: es) = before stamp es := by
  apply List.filter_cons_of_neg
  simp only [decide_eq_true_eq]
  omega

theorem FreeBefore.cons {qty : ℚ} (h : FreeBefore step stamp es qty) (hle : stamp ≤ e.store.clock) :
    FreeBefore step stamp (e :: es) qty := by
  unfold FreeBefore balancesBefore
  rw [before_cons hle]
  exact h

theorem OwnedBefore.cons {id : TradeId} {qty : ℚ} (h : OwnedBefore stamp es id qty)
    (hle : stamp ≤ e.store.clock) : OwnedBefore stamp (e :: es) id qty := by
  unfold OwnedBefore storeBefore
  rw [before_cons hle]
  exact h

/-- A later entry leaves what was read before an intent. -/
theorem IntentDraft.Sells.cons {d : IntentDraft} {qty : ℚ} (h : d.Sells step ledger es stamp qty)
    (hledger : ∀ p ∈ ledger, p.2 ≤ e.store.clock) (hstamp : stamp ≤ e.store.clock) :
    d.Sells step ledger (e :: es) stamp qty where
  quantity := h.quantity
  pos := h.pos
  multiple := h.multiple
  root := h.root
  free hop := (h.free hop).cons hstamp
  owned := by
    obtain ⟨fixing, hmem, hfixed, howned⟩ := h.owned
    refine ⟨fixing, hmem, hfixed, howned.cons ?_⟩
    obtain hmem | rfl := hmem
    · exact hledger _ hmem
    · exact hstamp

theorem IntentDraft.Sells.grow {d : IntentDraft} {qty : ℚ} (h : d.Sells step ledger es stamp qty)
    {ledger' : List (IntentDraft × ℕ)} (hledger : ∀ p ∈ ledger, p ∈ ledger') :
    d.Sells step ledger' es stamp qty := by
  refine { h with owned := ?_ }
  obtain ⟨fixing, hmem, hrest⟩ := h.owned
  exact ⟨fixing, hmem.imp_left (hledger _), hrest⟩

namespace Bounded

/-- An entry over the store as it is. -/
theorem cons (h : Bounded step ledger clock es) (he : e.store.clock = clock) :
    Bounded step ledger clock (e :: es) where
  entries := by
    intro e' he'
    obtain rfl | he' := List.mem_cons.mp he'
    · exact he.le
    · exact h.entries e' he'
  stamps := h.stamps
  sells p hp hside := by
    obtain ⟨qty, hsells⟩ := h.sells p hp hside
    exact ⟨qty, hsells.cons (fun p hp => he ▸ h.stamps p hp) (he ▸ h.stamps p hp)⟩

theorem later (h : Bounded step ledger clock es) {clock' : ℕ} (hle : clock ≤ clock') :
    Bounded step ledger clock' es where
  entries e he := (h.entries e he).trans hle
  stamps p hp := (h.stamps p hp).trans hle
  sells := h.sells

/-- A new intent whose SELL, if it is one, is bounded. -/
theorem insert (h : Bounded step ledger clock es) {d : IntentDraft}
    (hd : d.request.side = some .sell → ∃ qty, d.Sells step ledger es (clock + 1) qty) :
    Bounded step (ledger ++ [(d, clock + 1)]) (clock + 1) es where
  entries e he := (h.entries e he).trans (Nat.le_succ _)
  stamps p hp := by
    obtain hp | hp := List.mem_append.mp hp
    · exact (h.stamps p hp).trans (Nat.le_succ _)
    · rw [List.mem_singleton.mp hp]
  sells p hp hside := by
    obtain hp | hp := List.mem_append.mp hp
    · obtain ⟨qty, hsells⟩ := h.sells p hp hside
      exact ⟨qty, hsells.grow fun p hp => List.mem_append_left _ hp⟩
    · obtain rfl := List.mem_singleton.mp hp
      obtain ⟨qty, hsells⟩ := hd hside
      exact ⟨qty, hsells.grow fun p hp => List.mem_append_left _ hp⟩

end Bounded
end history

namespace Store
variable {s s' : Store}

theorem stamped_mapIntents (f : Intent → Intent) (h : ∀ i, (f i).intentId = i.intentId)
    (hf : ∀ i, (f i).draft = i.draft ∧ (f i).createdAt = i.createdAt) :
    (s.mapIntents f h).stamped = s.stamped := by
  rw [stamped, mapIntents, List.map_map]
  apply List.map_congr_left
  intro i _
  exact Prod.ext (hf i).1 (hf i).2

theorem stamped_updateIntent (id : IntentId) (f : Intent → Intent)
    (h : ∀ i, (f i).intentId = i.intentId)
    (hf : ∀ i, (f i).draft = i.draft ∧ (f i).createdAt = i.createdAt) :
    (s.updateIntent id f h).stamped = s.stamped :=
  stamped_mapIntents _ _ fun i => by
    split
    · exact hf i
    · exact ⟨rfl, rfl⟩

theorem closedBy_createdAt (now : ℕ) (i : Intent) : (i.closedBy now).createdAt = i.createdAt := by
  unfold Intent.closedBy
  split <;> rfl

theorem marked_createdAt (now : ℕ) (i : Intent) : (i.marked now).createdAt = i.createdAt := by
  unfold Intent.marked
  split <;> rfl

/-- A new intent carries the next stamp, and no other intent changes its own. -/
theorem prepareIntent_stamped {d : IntentDraft} {b : Bool} (h : s.prepareIntent d = .ok (b, s')) :
    (b = false ∧ s' = s) ∨ (b = true ∧ s'.clock = s.clock + 1 ∧ s'.trades = s.trades ∧
      s'.stamped = s.stamped ++ [((d.row 0).draft, s.clock + 1)]) := by
  unfold prepareIntent at h
  split at h
  · next hnone =>
    dsimp only at h
    have hins : (s.tick.insertIntent (d.row (s.clock + 1)) (tick_intent hnone)).stamped =
        s.stamped ++ [((d.row 0).draft, s.clock + 1)] := by
      rw [stamped, insertIntent, List.map_append]
      rfl
    split at h
    · cases h
      exact .inr ⟨rfl, rfl, rfl, hins⟩
    · split at h
      · cases h
        refine .inr ⟨rfl, rfl, rfl, ?_⟩
        rw [stamped_updateIntent _ _ _ fun i => ⟨Intent.closedBy_draft _ i, closedBy_createdAt _ i⟩,
          hins]
      · cases h
  · cases h
    exact .inl ⟨rfl, rfl⟩

/-- A later store with the same intents under the same stamps. -/
structure Ages (s s' : Store) : Prop where
  stamped : s'.stamped = s.stamped
  clock : s.clock ≤ s'.clock

theorem Ages.refl (s : Store) : Ages s s := ⟨rfl, le_rfl⟩

theorem markIntentSubmitting_ages {id : IntentId} (h : s.markIntentSubmitting id = .ok s') :
    Ages s s' := by
  unfold markIntentSubmitting at h
  split at h
  · cases h
    exact ⟨stamped_updateIntent _ _ _ fun i => ⟨Intent.marked_draft _ i, marked_createdAt _ i⟩,
      Nat.le_succ _⟩
  · cases h

theorem finishIntent_ages {id : IntentId} {state : IntentState} {orderId listId : Ident}
    {error : Option String} (h : s.finishIntent id state orderId listId error = .ok s') :
    Ages s s' := by
  unfold finishIntent at h
  split at h
  · cases h
  · split at h
    · cases h
      exact ⟨stamped_updateIntent _ _ _ fun _ => ⟨rfl, rfl⟩, Nat.le_succ _⟩
    · cases h

theorem upsertTrade_ages (s : Store) (id : TradeId) (pair : Pair) (f : TradeFields) :
    Ages s (s.upsertTrade id pair f) := by
  constructor
  · rw [stamped, stamped, upsertTrade_intents]
  · unfold upsertTrade
    split <;> exact Nat.le_succ _

theorem recordExchangeEvent_ages (s : Store) (e : Event) : Ages s (s.recordExchangeEvent e).2 := by
  constructor
  · rw [stamped, stamped, recordExchangeEvent_intents]
  · unfold recordExchangeEvent
    dsimp only
    split
    · exact le_rfl
    · exact Nat.le_succ _

theorem replayExchangeEventsForTrade_ages (s : Store) (id : TradeId) :
    Ages s (s.replayExchangeEventsForTrade id).2 := by
  constructor
  · rw [stamped, stamped, replayExchangeEventsForTrade_intents]
  · unfold replayExchangeEventsForTrade
    split
    · exact le_rfl
    · exact Nat.le_succ _

end Store

section acts
variable {σ γ : Type} {env : Env σ}

/-- Acts that insert no SELL into the ledger. -/
def Act.sellless (γ : Type) : Act γ → Prop
  | .prepareIntent d => d.request.side ≠ some .sell
  | _ => True

/-- The SELLs of the ledger are bounded, now and at every entry of the history. -/
structure Backed (step : ℚ) (w : World σ) : Prop where
  now : Bounded step w.store.stamped w.store.clock w.history
  past : ∀ e es, e :: es <:+ w.history → Bounded step e.store.stamped e.store.clock es

/-- The SELL of a draft, if it is one, is bounded by what is known before the next write. -/
def Ready (step : ℚ) (d : IntentDraft) (w : World σ) : Prop :=
  d.request.side = some .sell → ∃ qty,
    (d.row 0).draft.Sells step w.store.stamped w.history (w.store.clock + 1) qty

namespace Backed
variable {step : ℚ} {w : World σ}

theorem init (e : σ) : Backed step ({ env := e } : World σ) where
  now := ⟨by simp, by simp [Store.stamped], by simp [Store.stamped]⟩
  past e' es h := by
    have := List.suffix_nil.mp h
    cases this

theorem note (h : Backed step w) (item : Item) : Backed step (w.note item) where
  now := h.now.cons rfl
  past e es hes := by
    obtain heq | hes := List.suffix_cons_iff.mp hes
    · cases heq
      exact h.now
    · exact h.past e es hes

theorem ages (h : Backed step w) {s : Store} {t : Dict TradeId String} {m : Memory} {e : σ}
    (hs : w.store.Ages s) :
    Backed step { w with store := s, signals := t, memory := m, env := e } where
  now := by
    change Bounded step s.stamped s.clock w.history
    rw [hs.stamped]
    exact h.now.later hs.clock
  past := h.past

theorem ask (h : Backed step w) (a : Ask γ) : Backed step (a.exec env γ w).2 := by
  cases a with
  | call c =>
    simp only [Ask.exec]
    split
    · exact (h.note _).ages (.refl _)
    · exact h.ages (.refl _)
  | setData d => exact h.ages ⟨rfl, le_rfl⟩
  | setMemory m | claimSignal id | recordSignal id result => exact h.ages (.refl _)
  | _ => exact h

theorem fold (h : Backed step w) (f : Fold γ) : Backed step (f.exec env γ w).2 := by
  cases f with
  | ask a => exact h.ask a
  | recordExchangeEvent e => exact h.ages (w.store.recordExchangeEvent_ages e)
  | replayExchangeEventsForTrade id => exact h.ages (w.store.replayExchangeEventsForTrade_ages id)

theorem insert (h : Backed step w) {d : IntentDraft} (hd : Ready step d w) {s : Store}
    (hclock : s.clock = w.store.clock + 1)
    (hs : s.stamped = w.store.stamped ++ [((d.row 0).draft, w.store.clock + 1)]) :
    Backed step { w with store := s } where
  now := by
    change Bounded step s.stamped s.clock w.history
    rw [hs, hclock]
    exact h.now.insert hd
  past := h.past

theorem prepare (h : Backed step w) {d : IntentDraft} (hd : Ready step d w) :
    Backed step (Act.exec env _ (.prepareIntent d) w).2 := by
  simp only [Act.exec]
  split
  · next hok =>
    obtain ⟨-, rfl⟩ | ⟨-, hclock, -, hs⟩ := Store.prepareIntent_stamped hok
    · exact h
    · exact h.insert hd hclock hs
  · exact h

/-- What inserts no SELL leaves the SELLs bounded. -/
theorem act (h : Backed step w) (a : Act γ) (ha : a.sellless) : Backed step (a.exec env γ w).2 := by
  cases a with
  | fold f => exact h.fold f
  | prepareIntent d => exact h.prepare fun hside => absurd hside ha
  | markIntentSubmitting id =>
    simp only [Act.exec]
    split
    · exact (h.note _).ages (Store.markIntentSubmitting_ages ‹_›)
    · exact h
  | finishIntent id state orderId listId error =>
    simp only [Act.exec]
    split
    · exact (h.note _).ages (Store.finishIntent_ages ‹_›)
    · exact h
  | upsertTrade id pair f => exact (h.note _).ages (w.store.upsertTrade_ages id pair f)
  | post p => exact (h.note _).ages (.refl _)

end Backed

section programs
variable {α : Type} {step : ℚ}

/-- The program inserts no SELL into the ledger. -/
abbrev Sellless (m : Acting α) : Prop := m.All Act.sellless

theorem Sellless.keeps {m : Acting α} (hm : Sellless m) : Keeps (Act.exec env) (Backed step) m :=
  All.keeps hm fun a ha _ hw => hw.act a ha

namespace Sellless

theorem folding (m : Folding α) : Sellless (liftM m : Acting α) := All.lift (fun _ => trivial) m

theorem asking (m : Asking α) : Sellless (liftM m : Acting α) := folding (m.lift fun _ => Fold.ask)

theorem settles {m : Acting α} (h : Settles m) : Sellless m :=
  h.mono fun a ha => by
    cases a with
    | prepareIntent d => exact ha.elim
    | _ => trivial

end Sellless

end programs
end acts
end SpotSidecar
