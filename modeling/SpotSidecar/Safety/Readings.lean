import SpotSidecar.Adapter.Run
import SpotSidecar.Interaction.Spectator
import SpotSidecar.Safety.Still

/-! The orders of a run beside the answers they were built from: the prices, the rules and the
balances that were read before the POST, the last one first. -/
namespace SpotSidecar
open Interaction Prog

/-- An order at its POST, with the store and the answers before it. -/
structure Placed where
  store : Store
  endpoint : Endpoint
  params : Params
  prices : List Scalar
  infos : List SymbolInfo
  accounts : List Balances

structure Readings where
  prices : List Scalar := []
  infos : List SymbolInfo := []
  accounts : List Balances := []
  placed : List Placed := []

namespace Readings

def heard : {γ : Type} → Call γ → Except Exc γ → Readings → Readings
  | _, .tickerPrice _, .ok price, r => { r with prices := price :: r.prices }
  | _, .symbolInfo _, .ok info, r => { r with infos := info :: r.infos }
  | _, .account, .ok (some balances), r => { r with accounts := balances :: r.accounts }
  | _, _, _, r => r

/-- The readings after one more order. -/
def place (r : Readings) (s : Store) (endpoint : Endpoint) (params : Params) : Readings :=
  { r with placed := ⟨s, endpoint, params, r.prices, r.infos, r.accounts⟩ :: r.placed }

variable {σ : Type}

def asked (γ : Type) : Ask γ → World σ → Except Exc γ → Readings → Readings
  | .call c, _, answer, r => r.heard c answer
  | _, _, _, r => r

def sees (γ : Type) : Act γ → World σ → Except Exc γ → Readings → Readings
  | .fold (.ask a), w, answer, r => r.asked γ a w answer
  | .post (.place endpoint params), w, _, r => r.place w.store endpoint params
  | _, _, _, r => r

end Readings

/-- The adapter under the eyes of the spectator. -/
abbrev Env.reads {σ : Type} (env : Env σ) :
    ∀ γ : Type, Act γ → World σ × Readings → Except Exc γ × (World σ × Readings) :=
  watched (Act.exec env) Readings.sees

abbrev Env.hears {σ : Type} (env : Env σ) :
    ∀ γ : Type, Ask γ → World σ × Readings → Except Exc γ × (World σ × Readings) :=
  watched (Ask.exec env) Readings.asked

/-- Calls whose answers the spectator does not keep. -/
def Call.unread {γ : Type} : Call γ → Prop
  | .tickerPrice _ | .symbolInfo _ | .account => False
  | _ => True

def Ask.unread (γ : Type) : Ask γ → Prop
  | .call c => c.unread
  | _ => True

def Act.unread (γ : Type) : Act γ → Prop
  | .fold (.ask a) => a.unread
  | .post (.place _ _) => False
  | _ => True

/-- Acts that place no order. -/
def Act.unplacing (γ : Type) : Act γ → Prop
  | .post (.place _ _) => False
  | _ => True

section
variable {σ α γ : Type} {cfg : Config} {env : Env σ}

theorem Readings.heard_unread {c : Call γ} (hc : c.unread) (answer : Except Exc γ) (r : Readings) :
    r.heard c answer = r := by
  cases c <;> first | rfl | exact hc.elim

theorem Readings.heard_placed (c : Call γ) (answer : Except Exc γ) (r : Readings) :
    (r.heard c answer).placed = r.placed := by
  cases c with
  | account => rcases answer with e | _ | balances <;> rfl
  | _ => cases answer <;> rfl

theorem Readings.asked_unread (a : Ask γ) (ha : a.unread) (w : World σ) (answer : Except Exc γ)
    (r : Readings) : r.asked γ a w answer = r := by
  cases a with
  | call c => exact heard_unread ha answer r
  | _ => rfl

theorem Readings.asked_placed (a : Ask γ) (w : World σ) (answer : Except Exc γ) (r : Readings) :
    (r.asked γ a w answer).placed = r.placed := by
  cases a with
  | call c => exact heard_placed c answer r
  | _ => rfl

theorem Readings.sees_unread (a : Act γ) (ha : a.unread) (w : World σ) (answer : Except Exc γ)
    (r : Readings) : r.sees γ a w answer = r := by
  cases a with
  | fold f =>
    cases f with
    | ask a => exact asked_unread a ha w answer r
    | _ => rfl
  | post p =>
    cases p with
    | place endpoint params => exact ha.elim
    | _ => rfl
  | _ => rfl

theorem Readings.sees_unplacing (a : Act γ) (ha : a.unplacing) (w : World σ)
    (answer : Except Exc γ) (r : Readings) : (r.sees γ a w answer).placed = r.placed := by
  cases a with
  | fold f =>
    cases f with
    | ask a => exact asked_placed a w answer r
    | _ => rfl
  | post p =>
    cases p with
    | place endpoint params => exact ha.elim
    | _ => rfl
  | _ => rfl

/-- What only asks among acts reads what it reads alone. -/
theorem Triple.heard {P : World σ × Readings → Prop} {Q : α → World σ × Readings → Prop}
    {E : Exc → World σ × Readings → Prop} {C : World σ × Readings → Prop} {m : Asking α}
    (h : Triple env.hears P m Q E C) : Triple env.reads P (liftM m : Acting α) Q E C := by
  have hfold : Triple (watched (Fold.exec env) fun γ f w answer r => r.sees γ (.fold f) w answer)
      P (m.lift fun _ => Fold.ask) Q E C := Triple.lift (fun _ _ => rfl) h
  exact Triple.lift (fun _ _ => rfl) hfold

theorem keeps_unread {m : Asking α} (hm : m.All Ask.unread) (R : Readings → Prop) :
    Keeps env.hears (fun v => R v.2) m :=
  All.keeps_record hm (fun op hop w answer r => Readings.asked_unread op hop w answer r) R

theorem keeps_unreading {m : Acting α} (hm : m.All Act.unread) (R : Readings → Prop) :
    Keeps env.reads (fun v => R v.2) m :=
  All.keeps_record hm (fun op hop w answer r => Readings.sees_unread op hop w answer r) R

/-- Questions place nothing. -/
theorem keeps_placed (m : Asking α) (R : List Placed → Prop) :
    Keeps env.hears (fun v => R v.2.placed) m :=
  keeps_of_exec (fun a v hv => by
    simp only [Env.hears, watched, Readings.asked_placed]
    exact hv) m

theorem keeps_unplaced {m : Acting α} (hm : m.All Act.unplacing) (R : List Placed → Prop) :
    Keeps env.reads (fun v => R v.2.placed) m :=
  hm.keeps fun a ha v hv => by
    simp only [Env.reads, watched, Readings.sees_unplacing a ha]
    exact hv

/-- What reads no price, rules or balances leaves the readings; a failure or a crash says
nothing. -/
theorem triple_unread {m : Asking α} (hm : m.All Ask.unread) (R : Readings → Prop) :
    Triple env.hears (fun v => R v.2) m (fun _ v => R v.2) (fun _ _ => True) fun _ => True :=
  Triple.conseq (keeps_unread hm R) (fun _ hv => hv) (fun _ _ hv => hv) (fun _ _ _ => trivial)
    fun _ _ => trivial

theorem unread_call {γ : Type} {c : Call γ} (hc : c.unread) : (call c).All Ask.unread :=
  .perform hc

theorem unread_theStore : theStore.All Ask.unread := .perform trivial

theorem unread_preflight (rules : SymbolRules) (endpoint : Endpoint) (params : Params)
    (ids : List (Option ℤ)) (list : Bool) :
    (preflight rules endpoint params ids list).All Ask.unread := unread_call trivial

theorem unread_asking {m : Asking α} (hm : m.All Ask.unread) :
    (liftM m : Acting α).All Act.unread :=
  have hfold : (m.lift fun _ => Fold.ask).All fun γ (f : Fold γ) => Act.unread γ (.fold f) :=
    All.lift_of hm fun _ h => h
  All.lift_of hfold fun _ h => h

/-- The program places no order. -/
abbrev Unplacing (m : Acting α) : Prop := m.All Act.unplacing

namespace Unplacing

theorem folding (m : Folding α) : Unplacing (liftM m : Acting α) := All.lift (fun _ => trivial) m

theorem asking (m : Asking α) : Unplacing (liftM m : Acting α) := folding (m.lift fun _ => Fold.ask)

theorem settles {m : Acting α} (h : Settles m) : Unplacing m :=
  h.mono fun a ha => by
    cases a with
    | post p => exact ha.elim
    | _ => trivial

theorem finishes {m : Acting α} (h : Finishes m) : Unplacing m := settles (.finishes h)

theorem upsert (id : TradeId) (pair : Pair) (f : TradeFields) : Unplacing (upsert id pair f) :=
  .perform trivial

end Unplacing

/-- A program that reads nothing and writes no rows leaves the readings and the rows. -/
theorem keeps_unreading_still {m : Acting α} (hm : m.All Act.unread) (hs : Still m) (r : Readings)
    (t : List TradeRow) : Keeps env.reads (fun v => v.2 = r ∧ v.1.store.trades = t) m :=
  .both (keeps_unreading hm (· = r)) (Triple.watched (hs.keeps fun _ ha w hw =>
    (Act.still_exec env ha w).1.trans hw))

/-- Later readings: nothing that was read before is forgotten, also not for a new order. -/
structure Readings.Grows (r r' : Readings) : Prop where
  prices : r.prices <:+ r'.prices
  infos : r.infos <:+ r'.infos
  placed : ∀ order ∈ r'.placed, order ∈ r.placed ∨ r.prices <:+ order.prices ∧
    r.infos <:+ order.infos

theorem Readings.Grows.refl (r : Readings) : r.Grows r :=
  ⟨List.suffix_refl _, List.suffix_refl _, fun _ h => .inl h⟩

theorem Readings.Grows.heard {r r' : Readings} (h : r.Grows r') (c : Call γ)
    (answer : Except Exc γ) :
    r.Grows (r'.heard c answer) := by
  have hcons : ∀ {β : Type} {l l' : List β} (x : β), l <:+ l' → l <:+ x :: l' :=
    fun x hl => hl.trans (List.suffix_cons x _)
  cases c with
  | tickerPrice symbol =>
    cases answer with
    | ok price => exact ⟨hcons price h.prices, h.infos, h.placed⟩
    | error e => exact h
  | symbolInfo symbol =>
    cases answer with
    | ok info => exact ⟨h.prices, hcons info h.infos, h.placed⟩
    | error e => exact h
  | account =>
    rcases answer with e | _ | balances
    · exact h
    · exact h
    · exact ⟨h.prices, h.infos, h.placed⟩
  | _ => cases answer <;> exact h

theorem Readings.Grows.place {r r' : Readings} (h : r.Grows r') (s : Store) (endpoint : Endpoint)
    (params : Params) : r.Grows (r'.place s endpoint params) where
  prices := h.prices
  infos := h.infos
  placed order horder := by
    rcases List.mem_cons.mp horder with rfl | horder
    · exact .inr ⟨h.prices, h.infos⟩
    · exact h.placed order horder

theorem keeps_grows (r : Readings) (m : Acting α) : Keeps env.reads (fun v => r.Grows v.2) m := by
  refine keeps_of_exec (fun a v hv => ?_) m
  cases a with
  | fold f =>
    cases f with
    | ask a =>
      cases a with
      | call c => exact hv.heard c _
      | _ => exact hv
    | _ => exact hv
  | post p =>
    cases p with
    | place endpoint params => exact hv.place _ endpoint params
    | _ => exact hv
  | _ => exact hv

/-- No order, or the one order, built from the readings while the rows were as given. -/
def Readings.Once (r : Readings) (t : List TradeRow) (endpoint : Endpoint) (params : Params)
    (placed : List Placed) : Prop :=
  placed = r.placed ∨ ∃ s : Store, s.trades = t ∧ placed = (r.place s endpoint params).placed

theorem triple_submitOnce_placed (operation : Operation) (tradeId : TradeId) (symbol : Symbol)
    (endpoint : Endpoint) (params : Params) (parent : Option IntentId) (r : Readings)
    (t : List TradeRow) :
    Triple env.reads (fun v => v.2 = r ∧ v.1.store.trades = t)
      (submitOnce cfg operation tradeId symbol endpoint params parent)
      (fun _ v => r.Once t endpoint params v.2.placed)
      (fun _ v => r.Once t endpoint params v.2.placed)
      fun v => r.Once t endpoint params v.2.placed := by
  have hnone : ∀ v : World σ × Readings, v.2 = r ∧ v.1.store.trades = t →
      r.Once t endpoint params v.2.placed := fun v hv => .inl (by rw [hv.1])
  have hafter : ∀ {β : Type} {m : Acting β}, Unplacing m →
      Keeps env.reads (fun v => r.Once t endpoint params v.2.placed) m :=
    fun hm => keeps_unplaced hm _
  have hbefore : ∀ {β : Type} (m : Acting β), m.All Act.unread → Still m →
      Triple env.reads (fun v => v.2 = r ∧ v.1.store.trades = t) m
        (fun _ v => v.2 = r ∧ v.1.store.trades = t)
        (fun _ v => r.Once t endpoint params v.2.placed)
        fun v => r.Once t endpoint params v.2.placed := fun m hm hs =>
    (keeps_unreading_still hm hs r t).conseq (fun _ hv => hv) (fun _ _ hv => hv)
      (fun _ v hv => hnone v hv) hnone
  unfold submitOnce
  refine Triple.bind (hbefore _ (.perform trivial) (.perform trivial)) fun isNew => ?_
  refine .ite (fun _ => ?_) fun _ => ?_
  · refine Triple.bind (hbefore _ (.perform trivial) (.perform trivial)) fun _ => ?_
    refine Triple.bind (Q := fun _ v => r.Once t endpoint params v.2.placed) ?_ fun answer => ?_
    · refine Triple.attempt (Triple.perform_same hnone fun v hv => .inr ⟨v.1.store, hv.2, ?_⟩)
      rw [← hv.1]
      rfl
    · cases answer with
      | ok reply =>
        exact hafter (.bind (Unplacing.asking _) fun response =>
          Unplacing.finishes (.concludeSubmission _ _ _ _ _))
      | error e => exact hafter (Unplacing.finishes (.recoverSubmission _ _ _ _ _))
  · refine (hafter ?_).weaken hnone
    refine .bind (Unplacing.asking _) fun s => ?_
    split
    · exact .pure
    · exact .raise

end
end SpotSidecar
