import SpotSidecar.Safety.AtMostOnce

/-! No client order id is sent twice, as long as no client id is minted twice. -/
namespace SpotSidecar
open Interaction Prog

/-- The client ids a request names, the one minted last first. -/
def Params.clientIds (p : Params) : List ClientId :=
  [p.belowClientOrderId, p.aboveClientOrderId, p.pendingBelowClientOrderId,
    p.pendingAboveClientOrderId, p.pendingClientOrderId, p.workingClientOrderId,
    p.newClientOrderId, p.listClientOrderId].filterMap id

/-- The client ids that were minted, newest first. -/
def minted (h : List Entry) : List ClientId :=
  h.filterMap fun e => match e.item with
    | .minted c => some c
    | _ => none

/-- The client ids a request carries to the exchange. -/
def Post.clientIds : Post → List ClientId
  | .place _ params => params.clientIds
  | _ => []

def Item.clientIds : Item → List ClientId
  | .posted p _ => p.clientIds
  | _ => []

/-- The client ids that were sent, newest first. -/
def sentClientIds (h : List Entry) : List ClientId := h.flatMap fun e => e.item.clientIds

namespace IntentDraft

/-- An intent that stands for a request, and not for a plan. -/
def placing (d : IntentDraft) : Prop := d.operation ≠ .replaceProtection

def shares (d d' : IntentDraft) : Prop :=
  ∃ c, c ∈ d.request.clientIds ∧ c ∈ d'.request.clientIds

/-- The id that every child of a plan has. -/
def childId (cfg : Config) (d : IntentDraft) : IntentId :=
  (submissionDraft cfg .protection d.tradeId d.symbol d.endpoint d.request none).intentId

/-- Two intents that name one client id are the same, or a plan and its child. -/
def Compatible (cfg : Config) (d d' : IntentDraft) : Prop :=
  ((d.placing ↔ d'.placing) → d.intentId = d'.intentId) ∧
    (d.placing → ¬d'.placing → d.intentId = d'.childId cfg) ∧
    (¬d.placing → d'.placing → d'.intentId = d.childId cfg)

theorem shares_comm {d d' : IntentDraft} : d.shares d' ↔ d'.shares d :=
  exists_congr fun _ => and_comm

theorem Compatible.symm {cfg : Config} {d d' : IntentDraft} (h : Compatible cfg d d') :
    Compatible cfg d' d :=
  ⟨fun hiff => (h.1 hiff.symm).symm, fun hp hq => h.2.2 hq hp, fun hq hp => h.2.1 hp hq⟩

end IntentDraft

/-- Client ids that no intent names yet. -/
def FreshIds (cs : List ClientId) (ledger : List IntentDraft) (ids : List ClientId) : Prop :=
  ids.Nodup → cs.Nodup ∧ ∀ c ∈ cs, c ∈ ids ∧ ∀ d ∈ ledger, c ∉ d.request.clientIds

/-- Every client id of the ledger was minted, and none stands in two unrelated intents. -/
structure OwnIds (cfg : Config) (ledger : List IntentDraft) (ids : List ClientId) : Prop where
  sub : ∀ d ∈ ledger, ∀ c ∈ d.request.clientIds, c ∈ ids
  nodup : ids.Nodup → ∀ d ∈ ledger, d.request.clientIds.Nodup
  apart : ids.Nodup → ∀ d ∈ ledger, ∀ d' ∈ ledger, d.shares d' → d.Compatible cfg d'
  child : ∀ d ∈ ledger, d.parentIntentId ≠ none → d.placing

namespace OwnIds
variable {cfg : Config} {ledger : List IntentDraft} {ids : List ClientId}

theorem mint (h : OwnIds cfg ledger ids) (c : ClientId) : OwnIds cfg ledger (c :: ids) where
  sub d hd c' hc' := List.mem_cons_of_mem _ (h.sub d hd c' hc')
  nodup hn := h.nodup (List.nodup_cons.mp hn).2
  apart hn := h.apart (List.nodup_cons.mp hn).2
  child := h.child

/-- What was fresh stays fresh when another id is minted, and the new id is fresh too. -/
theorem fresh_mint (h : OwnIds cfg ledger ids) {cs : List ClientId} (hcs : FreshIds cs ledger ids)
    (c : ClientId) : FreshIds (c :: cs) ledger (c :: ids) := by
  intro hn
  obtain ⟨hc, hids⟩ := List.nodup_cons.mp hn
  obtain ⟨hnodup, hfresh⟩ := hcs hids
  refine ⟨List.nodup_cons.mpr ⟨fun hmem => hc (hfresh c hmem).1, hnodup⟩, ?_⟩
  intro c' hc'
  rcases List.mem_cons.mp hc' with rfl | hc'
  · exact ⟨List.mem_cons_self .., fun d hd hmem => hc (h.sub d hd c' hmem)⟩
  · exact ⟨List.mem_cons_of_mem _ (hfresh c' hc').1, (hfresh c' hc').2⟩

/-- A new intent that agrees with the ledger. -/
theorem insert (h : OwnIds cfg ledger ids) {d : IntentDraft}
    (hsub : ∀ c ∈ d.request.clientIds, c ∈ ids)
    (hnodup : ids.Nodup → d.request.clientIds.Nodup)
    (hapart : ids.Nodup → ∀ d' ∈ ledger, d.shares d' → d.Compatible cfg d')
    (hchild : d.parentIntentId ≠ none → d.placing) : OwnIds cfg (ledger ++ [d]) ids where
  sub d' hd' := by
    rcases List.mem_append.mp hd' with hd' | hd'
    · exact h.sub d' hd'
    · exact List.mem_singleton.mp hd' ▸ hsub
  nodup hn d' hd' := by
    rcases List.mem_append.mp hd' with hd' | hd'
    · exact h.nodup hn d' hd'
    · exact List.mem_singleton.mp hd' ▸ hnodup hn
  apart hn d₁ h₁ d₂ h₂ hs := by
    rcases List.mem_append.mp h₁ with h₁ | h₁ <;> rcases List.mem_append.mp h₂ with h₂ | h₂
    · exact h.apart hn d₁ h₁ d₂ h₂ hs
    · cases List.mem_singleton.mp h₂
      exact (hapart hn d₁ h₁ (IntentDraft.shares_comm.mp hs)).symm
    · cases List.mem_singleton.mp h₁
      exact hapart hn d₂ h₂ hs
    · cases List.mem_singleton.mp h₁
      cases List.mem_singleton.mp h₂
      exact ⟨fun _ => rfl, fun hp hq => absurd hp hq, fun hq hp => absurd hp hq⟩
  child d' hd' := by
    rcases List.mem_append.mp hd' with hd' | hd'
    · exact h.child d' hd'
    · exact List.mem_singleton.mp hd' ▸ hchild

/-- A new intent under fresh client ids. -/
theorem insert_fresh (h : OwnIds cfg ledger ids) {d : IntentDraft}
    (hsub : ∀ c ∈ d.request.clientIds, c ∈ ids)
    (hfresh : FreshIds d.request.clientIds ledger ids)
    (hchild : d.parentIntentId ≠ none → d.placing) : OwnIds cfg (ledger ++ [d]) ids :=
  h.insert hsub (fun hn => (hfresh hn).1)
    (fun hn d' hd' ⟨c, hc, hc'⟩ => absurd hc' (((hfresh hn).2 c hc).2 d' hd')) hchild

/-- A new child of a plan, under the client ids of the plan. -/
theorem insert_child (h : OwnIds cfg ledger ids) {d q : IntentDraft} (hq : q ∈ ledger)
    (hplan : ¬q.placing) (hids : d.request.clientIds = q.request.clientIds)
    (hid : d.intentId = q.childId cfg) (hnew : ∀ d' ∈ ledger, d'.intentId ≠ d.intentId)
    (hunique : (ledger.map (·.intentId)).Nodup) (hp : d.placing) :
    OwnIds cfg (ledger ++ [d]) ids := by
  refine h.insert (fun c hc => h.sub q hq c (hids ▸ hc)) (fun hn => hids ▸ h.nodup hn q hq) ?_
    fun _ => hp
  rintro hn d' hd' ⟨c, hc, hc'⟩
  have hshare : d'.shares q := ⟨c, hc', hids ▸ hc⟩
  obtain ⟨hsame, hchild, -⟩ := h.apart hn d' hd' q hq hshare
  by_cases hp' : d'.placing
  · exact absurd ((hchild hp' hplan).trans hid.symm) (hnew d' hd')
  · have heq : d' = q := List.inj_on_of_nodup_map hunique hd' hq (hsame (by simp [hp', hplan]))
    exact ⟨fun hiff => absurd (hiff.mp hp) hp', fun _ _ => heq ▸ hid, fun hq' => absurd hp hq'⟩

end OwnIds

variable {σ α : Type} {cfg : Config} {env : Env σ}

/-- The client ids of the ledger are its own, and no plan was ever marked. -/
structure ClientIdsOwned (cfg : Config) (w : World σ) : Prop where
  own : OwnIds cfg w.store.drafts (minted w.history)
  marked : ∀ id ∈ marks w.history, ∃ d ∈ w.store.drafts, d.intentId = id ∧ d.placing

/-- Client ids that were minted and that no intent names yet. -/
def Fresh (cs : List ClientId) (w : World σ) : Prop :=
  (∀ c ∈ cs, c ∈ minted w.history) ∧ FreshIds cs w.store.drafts (minted w.history)

/-- Inserting this intent would keep the client ids apart. -/
def Insertable (cfg : Config) (d : IntentDraft) (w : World σ) : Prop :=
  w.store.intent d.intentId = none →
    OwnIds cfg (w.store.drafts ++ [(d.row 0).draft]) (minted w.history)

namespace ClientIdsOwned

theorem init (e : σ) : ClientIdsOwned cfg ({ env := e } : World σ) where
  own := ⟨fun _ h => (nomatch h), fun _ _ h => (nomatch h), fun _ _ h => (nomatch h),
    fun _ h => (nomatch h)⟩
  marked := fun _ h => nomatch h

/-- What the drafts, the marks and the minted ids do not notice. -/
theorem congr {w w' : World σ} (h : ClientIdsOwned cfg w) (hd : w'.store.drafts = w.store.drafts)
    (hm : marks w'.history = marks w.history) (hn : minted w'.history = minted w.history) :
    ClientIdsOwned cfg w' where
  own := by
    rw [hd, hn]
    exact h.own
  marked := by
    rw [hd, hm]
    exact h.marked

end ClientIdsOwned

/-- The acts that leave the drafts and the marks alone. -/
def Act.inert {γ : Type} : Act γ → Prop
  | .prepareIntent _ | .markIntentSubmitting _ => False
  | _ => True

/-- What an inert act does: at most it mints one client id. -/
theorem Act.exec_inert (env : Env σ) {γ : Type} (a : Act γ) (ha : a.inert) (w : World σ) :
    let w' := (a.exec env γ w).2
    w'.store.drafts = w.store.drafts ∧ marks w'.history = marks w.history ∧
      (minted w'.history = minted w.history ∨ ∃ c, minted w'.history = c :: minted w.history) := by
  cases a with
  | fold f =>
    refine ⟨congrArg (List.map Intent.draft) (Fold.exec_intents f w), ?_⟩
    cases f with
    | ask a =>
      cases a with
      | call c =>
        simp only [Act.exec, Fold.exec, Ask.exec]
        split
        · next i hi =>
          refine ⟨marks_quiet (Call.item?_quiet hi), ?_⟩
          cases i with
          | minted c => exact .inr ⟨c, rfl⟩
          | _ => exact .inl rfl
        · exact ⟨rfl, .inl rfl⟩
      | _ => exact ⟨rfl, .inl rfl⟩
    | _ => exact ⟨rfl, .inl rfl⟩
  | prepareIntent d => exact ha.elim
  | markIntentSubmitting id => exact ha.elim
  | finishIntent id state orderId listId error =>
    simp only [Act.exec]
    split
    · exact ⟨Store.finishIntent_drafts ‹_›, rfl, .inl rfl⟩
    · exact ⟨rfl, rfl, .inl rfl⟩
  | upsertTrade id pair f =>
    exact ⟨congrArg (List.map Intent.draft) (w.store.upsertTrade_intents id pair f), rfl, .inl rfl⟩
  | post p => exact ⟨rfl, rfl, .inl rfl⟩

namespace ClientIdsOwned

theorem inert (env : Env σ) {γ : Type} (a : Act γ) (ha : a.inert) (w : World σ)
    (h : ClientIdsOwned cfg w) :
    ClientIdsOwned cfg (a.exec env γ w).2 := by
  obtain ⟨hd, hm, hn⟩ := Act.exec_inert env a ha w
  refine ⟨?_, ?_⟩
  · rw [hd]
    rcases hn with hn | ⟨c, hn⟩ <;> rw [hn]
    · exact h.own
    · exact h.own.mint c
  · rw [hd, hm]
    exact h.marked

end ClientIdsOwned

theorem Fresh.inert (env : Env σ) {γ : Type} {cs : List ClientId} (a : Act γ)
    (ha : a.inert) (w : World σ) (h : Fresh cs w) : Fresh cs (a.exec env γ w).2 := by
  obtain ⟨hd, -, hn⟩ := Act.exec_inert env a ha w
  unfold Fresh
  rw [hd]
  rcases hn with hn | ⟨c, hn⟩ <;> rw [hn]
  · exact h
  · refine ⟨fun c' hc' => List.mem_cons_of_mem _ (h.1 c' hc'), fun hnodup => ?_⟩
    obtain ⟨hcs, hfresh⟩ := h.2 (List.nodup_cons.mp hnodup).2
    exact ⟨hcs, fun c' hc' => ⟨List.mem_cons_of_mem _ (hfresh c' hc').1, (hfresh c' hc').2⟩⟩

theorem Fresh.insertable {d : IntentDraft} {w : World σ} (h : Fresh d.request.clientIds w)
    (hown : ClientIdsOwned cfg w) (hchild : d.parentIntentId ≠ none → d.placing) :
    Insertable cfg d w :=
  fun _ => hown.own.insert_fresh (d := (d.row 0).draft) h.1 h.2 hchild

/-- An intent without client ids. -/
theorem insertable_of_no_ids {d : IntentDraft} {w : World σ} (hown : ClientIdsOwned cfg w)
    (hids : d.request.clientIds = []) (hparent : d.parentIntentId = none) : Insertable cfg d w := by
  refine Fresh.insertable (d := d) ?_ hown fun h => absurd hparent h
  rw [hids]
  exact ⟨fun c hc => (nomatch hc), fun _ => ⟨List.nodup_nil, fun c hc => (nomatch hc)⟩⟩

/-- The child of a plan that is in the ledger. -/
theorem insertable_child {d q : IntentDraft} {w : World σ} (hown : ClientIdsOwned cfg w)
    (hq : q ∈ w.store.drafts) (hplan : ¬q.placing)
    (hids : d.request.clientIds = q.request.clientIds) (hid : d.intentId = q.childId cfg)
    (hp : d.placing) : Insertable cfg d w := by
  intro hnone
  have hunique : (w.store.drafts.map (·.intentId)).Nodup := by
    rw [Store.drafts, List.map_map]
    exact w.store.intents_nodup
  refine hown.own.insert_child (d := (d.row 0).draft) hq hplan hids hid ?_ hunique hp
  intro d' hd' heq
  obtain ⟨i, hi, rfl⟩ := List.mem_map.mp hd'
  exact Store.intent_eq_none.mp hnone (List.mem_map.mpr ⟨i, hi, heq⟩)

section mint

/-- Questions keep what is fresh. -/
theorem keeps_fresh (cs : List ClientId) (m : Asking α) :
    Keeps (Ask.exec env) (fun w => ClientIdsOwned cfg w ∧ Fresh cs w) m :=
  keeps_of_exec (fun a w hw => ⟨hw.1.inert env (.fold (.ask a)) trivial w,
    hw.2.inert env (.fold (.ask a)) trivial w⟩) m

theorem triple_ask_fresh (cs : List ClientId) (m : Asking α) :
    Triple (Ask.exec env) (fun w => ClientIdsOwned cfg w ∧ Fresh cs w) m
      (fun _ w => ClientIdsOwned cfg w ∧ Fresh cs w) (fun _ => ClientIdsOwned cfg)
      (ClientIdsOwned cfg) :=
  (keeps_fresh cs m).conseq (fun _ hw => hw) (fun _ _ hw => hw) (fun _ _ hw => hw.1)
    fun _ hw => hw.1

theorem triple_mint (cs : List ClientId) (role : String) :
    Triple (Ask.exec env) (fun w => ClientIdsOwned cfg w ∧ Fresh cs w) (call (.newClientId role))
      (fun c w => ClientIdsOwned cfg w ∧ Fresh (c :: cs) w) (fun _ => ClientIdsOwned cfg)
      (ClientIdsOwned cfg) := by
  refine Triple.perform (fun w hw => hw.1) (fun w c w' hw heq => ?_) fun w e w' hw heq => ?_
  · have hown := hw.1.inert env (.fold (.ask (.call (.newClientId role)))) trivial w
    change ClientIdsOwned cfg (Ask.exec env _ (.call (.newClientId role)) w).2 at hown
    rw [heq] at hown
    refine ⟨hown, ?_⟩
    simp only [Ask.exec, Prod.mk.injEq] at heq
    obtain ⟨hc, rfl⟩ := heq
    simp only [hc, Call.item?, Except.toOption, Option.map_some]
    refine ⟨fun c' hc' => ?_, hw.1.own.fresh_mint hw.2.2 c⟩
    rcases List.mem_cons.mp hc' with rfl | hc'
    · exact List.mem_cons_self ..
    · exact List.mem_cons_of_mem _ (hw.2.1 c' hc')
  · have hown := hw.1.inert env (.fold (.ask (.call (.newClientId role)))) trivial w
    change ClientIdsOwned cfg (Ask.exec env _ (.call (.newClientId role)) w).2 at hown
    rwa [heq] at hown

theorem fresh_nil {w : World σ} : Fresh [] w :=
  ⟨fun _ hc => (nomatch hc), fun _ => ⟨List.nodup_nil, fun _ hc => (nomatch hc)⟩⟩

theorem triple_factoryEntry (mode : ProtectionMode) (rules : SymbolRules) (qty entry : ℚ) :
    Triple (Ask.exec env) (ClientIdsOwned cfg) (factoryEntry cfg mode rules qty entry)
      (fun r w => ClientIdsOwned cfg w ∧ Fresh r.2.clientIds w) (fun _ => ClientIdsOwned cfg)
      (ClientIdsOwned cfg) := by
  unfold factoryEntry
  refine Triple.weaken (?_ : Triple _ (fun w => ClientIdsOwned cfg w ∧ Fresh [] w) _ _ _ _)
    fun w hw => ⟨hw, fresh_nil⟩
  refine Triple.bind (triple_ask_fresh [] _) fun pending => ?_
  refine Triple.bind (triple_ask_fresh [] _) fun _ => ?_
  refine Triple.bind (triple_mint [] _) fun list => ?_
  refine Triple.bind (triple_mint [list] _) fun working => ?_
  refine Triple.bind (triple_mint [working, list] _) fun first => ?_
  cases mode with
  | trailingOnly =>
    refine Triple.bind (triple_ask_fresh [first, working, list] _) fun second => ?_
    exact .pure fun w hw => hw
  | fixedOco =>
    refine Triple.bind (triple_mint [first, working, list] _) fun second => ?_
    exact .pure fun w hw => hw
  | ocoTrailing =>
    refine Triple.bind (triple_mint [first, working, list] _) fun second => ?_
    exact .pure fun w hw => hw

theorem triple_factoryReplacement (mode : ProtectionMode) (rules : SymbolRules)
    (qty entry current : ℚ) (stopPrice : Option ℚ) (bips : Option ℤ) :
    Triple (Ask.exec env) (ClientIdsOwned cfg)
      (factoryReplacement cfg mode rules qty entry current stopPrice bips)
      (fun r w => ClientIdsOwned cfg w ∧ Fresh r.2.clientIds w) (fun _ => ClientIdsOwned cfg)
      (ClientIdsOwned cfg) := by
  unfold factoryReplacement
  refine Triple.weaken (?_ : Triple _ (fun w => ClientIdsOwned cfg w ∧ Fresh [] w) _ _ _ _)
    fun w hw => ⟨hw, fresh_nil⟩
  refine Triple.bind (triple_ask_fresh [] _) fun _ => ?_
  cases mode with
  | trailingOnly =>
    refine Triple.bind (triple_mint [] _) fun client => ?_
    exact .pure fun w hw => hw
  | fixedOco =>
    refine Triple.bind (triple_mint [] _) fun list => ?_
    refine Triple.bind (triple_mint [list] _) fun above => ?_
    refine Triple.bind (triple_mint [above, list] _) fun below => ?_
    refine Triple.bind (triple_ask_fresh [below, above, list] _) fun _ => ?_
    exact .pure fun w hw => hw
  | ocoTrailing =>
    refine Triple.bind (triple_mint [] _) fun list => ?_
    refine Triple.bind (triple_mint [list] _) fun above => ?_
    refine Triple.bind (triple_mint [above, list] _) fun below => ?_
    exact .pure fun w hw => hw

/-- The requests that the operations plan carry client ids of their own. -/
theorem triple_planEntry (symbol : Symbol) (pair : Pair) :
    Triple (Ask.exec env) (ClientIdsOwned cfg) (planEntry cfg symbol pair)
      (fun r w => ClientIdsOwned cfg w ∧ ∀ x, r = .ok x → Fresh x.2.clientIds w)
      (fun _ => ClientIdsOwned cfg) (ClientIdsOwned cfg) := by
  have hask : ∀ {β : Type} (m : Asking β), Keeps (Ask.exec env) (ClientIdsOwned cfg) m :=
    fun m => keeps_of_exec (fun a w hw => hw.inert env (.fold (.ask a)) trivial w) m
  unfold planEntry
  refine Triple.bind (hask _) fun rules => Triple.bind (hask _) fun quoteFree => ?_
  refine Triple.bind (hask _) fun ask => ?_
  refine Triple.bind (hask _) ?_
  rintro ⟨quantity, requiredQuote⟩
  dsimp only
  split
  · exact .pure fun w hw => ⟨hw, fun x hx => by cases hx⟩
  · refine Triple.bind (hask _) fun s => Triple.bind (hask _) fun _ => ?_
    refine Triple.bind (triple_factoryEntry _ _ _ _) ?_
    rintro ⟨endpoint, params⟩
    refine Triple.bind (triple_ask_fresh _ _) fun _ => .pure fun w hw => ⟨hw.1, fun x hx => ?_⟩
    cases hx
    exact hw.2

theorem triple_planConversion (symbol : Symbol) (args : ConvertArgs) :
    Triple (Ask.exec env) (ClientIdsOwned cfg) (planConversion cfg symbol args)
      (fun r w => ClientIdsOwned cfg w ∧ ∀ c, r = .ok c → Fresh c.params.clientIds w)
      (fun _ => ClientIdsOwned cfg) (ClientIdsOwned cfg) := by
  have hask : ∀ {β : Type} (m : Asking β), Keeps (Ask.exec env) (ClientIdsOwned cfg) m :=
    fun m => keeps_of_exec (fun a w hw => hw.inert env (.fold (.ask a)) trivial w) m
  have hno : ∀ detail : String, Triple (Ask.exec env) (ClientIdsOwned cfg)
      (Pure.pure (.error detail) : Asking (Except String Conversion))
      (fun r w => ClientIdsOwned cfg w ∧ ∀ c, r = .ok c → Fresh c.params.clientIds w)
      (fun _ => ClientIdsOwned cfg) (ClientIdsOwned cfg) :=
    fun detail => .pure fun w hw => ⟨hw, fun c hc => by cases hc⟩
  unfold planConversion
  refine Triple.bind (hask _) fun s => Triple.bind (hask _) fun found => ?_
  split
  · exact hno _
  · refine Triple.bind (hask _) fun s => ?_
    split
    · exact hno _
    · split
      · exact hno _
      · refine Triple.bind (hask _) fun active => ?_
        split
        · exact hno _
        · refine Triple.bind (hask _) fun rules => Triple.bind (hask _) fun current => ?_
          dsimp only
          split
          · exact hno _
          · refine Triple.bind (hask _) fun stopPrice => ?_
            split
            · exact hno _
            · refine Triple.bind (hask _) fun _ => ?_
              refine Triple.bind (triple_factoryReplacement _ _ _ _ _ _ _) fun r => ?_
              refine Triple.bind (triple_ask_fresh _ _) fun _ => .pure fun w hw => ⟨hw.1, ?_⟩
              intro c hc
              cases hc
              exact hw.2

end mint

namespace ClientIdsOwned
variable {β : Type}

theorem settles {m : Acting α} (h : Settles m) : Keeps (Act.exec env) (ClientIdsOwned cfg) m :=
  h.keeps fun a ha w hw => hw.inert env a (by cases a <;> trivial) w

theorem asking (m : Asking α) : Keeps (Act.exec env) (ClientIdsOwned cfg) (liftM m : Acting α) :=
  settles (.asking m)

theorem upsert (id : TradeId) (pair : Pair) (f : TradeFields) :
    Keeps (Act.exec env) (ClientIdsOwned cfg) (upsert id pair f) :=
  .perform fun w hw => hw.inert env (.upsertTrade id pair f) trivial w

/-- What settles keeps fresh client ids fresh. -/
theorem settles_fresh (cs : List ClientId) {m : Acting α} (h : Settles m) :
    Triple (Act.exec env) (fun w => ClientIdsOwned cfg w ∧ Fresh cs w) m
      (fun _ w => ClientIdsOwned cfg w ∧ Fresh cs w) (fun _ => ClientIdsOwned cfg)
      (ClientIdsOwned cfg) := by
  have hkeep : Keeps (Act.exec env) (fun w => ClientIdsOwned cfg w ∧ Fresh cs w) m :=
    h.keeps fun a ha w hw =>
      have hinert : a.inert := by cases a <;> trivial
      ⟨hw.1.inert env a hinert w, hw.2.inert env a hinert w⟩
  exact hkeep.conseq (fun _ hw => hw) (fun _ _ hw => hw) (fun _ _ hw => hw.1) fun _ hw => hw.1

theorem asking_fresh (cs : List ClientId) (m : Asking α) :
    Triple (Act.exec env) (fun w => ClientIdsOwned cfg w ∧ Fresh cs w) (liftM m : Acting α)
      (fun _ w => ClientIdsOwned cfg w ∧ Fresh cs w) (fun _ => ClientIdsOwned cfg)
      (ClientIdsOwned cfg) :=
  settles_fresh cs (.asking m)

/-- Inserting an intent keeps the client ids apart where it should. -/
theorem prepare (d : IntentDraft) :
    Triple (Act.exec env) (fun w => ClientIdsOwned cfg w ∧ Insertable cfg d w) (prepare d)
      (fun b w => ClientIdsOwned cfg w ∧ (b = true → (d.row 0).draft ∈ w.store.drafts))
      (fun _ => ClientIdsOwned cfg) (ClientIdsOwned cfg) := by
  refine Triple.perform (fun w hw => hw.1) (fun w b w' hw heq => ?_) fun w e w' hw heq => ?_
  · simp only [Act.exec] at heq
    split at heq
    · next b' s hok =>
      cases heq
      rcases Store.prepareIntent_drafts hok with ⟨rfl, rfl⟩ | ⟨rfl, hnone, hd⟩
      · exact ⟨hw.1, fun h => by cases h⟩
      · have hmem : (d.row 0).draft ∈ s.drafts := by simp [hd]
        refine ⟨⟨?_, fun id hid => ?_⟩, fun _ => hmem⟩
        · change OwnIds cfg s.drafts _
          rw [hd]
          exact hw.2 hnone
        · obtain ⟨d', hd', hid', hp⟩ := hw.1.marked id hid
          refine ⟨d', ?_, hid', hp⟩
          change d' ∈ s.drafts
          rw [hd]
          exact List.mem_append_left _ hd'
    · cases heq
  · simp only [Act.exec] at heq
    split at heq
    · cases heq
    · cases heq
      exact hw.1

/-- Marking an intent that stands for a request. -/
theorem mark (id : IntentId) :
    Triple (Act.exec env)
      (fun w => ClientIdsOwned cfg w ∧ ∃ d ∈ w.store.drafts, d.intentId = id ∧ d.placing)
      (markSubmitting id) (fun _ => ClientIdsOwned cfg) (fun _ => ClientIdsOwned cfg)
      (ClientIdsOwned cfg) := by
  refine .perform_same (fun w hw => hw.1) ?_
  rintro w ⟨hw, hd⟩
  simp only [Act.exec]
  split
  · next s hok =>
    have hdrafts := Store.markIntentSubmitting_drafts hok
    refine ⟨?_, fun id' hid' => ?_⟩
    · change OwnIds cfg s.drafts (minted w.history)
      rw [hdrafts]
      exact hw.own
    · change ∃ d ∈ s.drafts, _
      rw [hdrafts]
      rcases List.mem_cons.mp hid' with rfl | hid'
      · exact hd
      · exact hw.marked id' hid'
  · exact hw

theorem post (p : Post) : Keeps (Act.exec env) (ClientIdsOwned cfg) (post p) :=
  .perform fun w hw => hw.inert env (.post p) trivial w

theorem prepared_placing {d : IntentDraft} (hp : d.placing) {w : World σ}
    (h : (d.row 0).draft ∈ w.store.drafts) :
    ∃ d' ∈ w.store.drafts, d'.intentId = d.intentId ∧ d'.placing :=
  ⟨_, h, rfl, hp⟩

theorem submitOnce (operation : Operation) (hop : operation ≠ .replaceProtection)
    (tradeId : TradeId) (symbol : Symbol) (endpoint : Endpoint) (params : Params)
    (parent : Option IntentId) :
    Triple (Act.exec env)
      (fun w => ClientIdsOwned cfg w ∧
        Insertable cfg (submissionDraft cfg operation tradeId symbol endpoint params parent) w)
      (submitOnce cfg operation tradeId symbol endpoint params parent)
      (fun _ => ClientIdsOwned cfg) (fun _ => ClientIdsOwned cfg) (ClientIdsOwned cfg) := by
  unfold SpotSidecar.submitOnce
  refine Triple.bind (prepare _) fun isNew => ?_
  split
  · next hnew =>
    refine Triple.bind ((mark _).weaken
      fun w hw => ⟨hw.1, prepared_placing (d := submissionDraft ..) hop (hw.2 hnew)⟩)
      fun _ => Keeps.bind (.attempt (post _)) fun answer => ?_
    split
    · exact .bind (asking _) fun response => settles (.concludeSubmission _ _ _ _ _)
    · exact settles (.recoverSubmission _ _ _ _ _)
  · refine Keeps.weaken ?_ fun w hw => hw.1
    refine Keeps.bind (asking _) fun s => ?_
    split
    · exact .pure
    · exact .raise

/-- A submission under fresh client ids. -/
theorem submitFresh (operation : Operation) (hop : operation ≠ .replaceProtection)
    (tradeId : TradeId) (symbol : Symbol) (endpoint : Endpoint) (params : Params)
    (parent : Option IntentId) :
    Triple (Act.exec env) (fun w => ClientIdsOwned cfg w ∧ Fresh params.clientIds w)
      (SpotSidecar.submitOnce cfg operation tradeId symbol endpoint params parent)
      (fun _ => ClientIdsOwned cfg) (fun _ => ClientIdsOwned cfg) (ClientIdsOwned cfg) :=
  (submitOnce operation hop tradeId symbol endpoint params parent).weaken fun _ hw =>
    ⟨hw.1, Fresh.insertable (d := submissionDraft ..) hw.2 hw.1 fun _ => hop⟩

theorem submitEntry (tradeId : TradeId) (symbol : Symbol) (pair : Pair) (endpoint : Endpoint)
    (params : Params) :
    Triple (Act.exec env) (fun w => ClientIdsOwned cfg w ∧ Fresh params.clientIds w)
      (submitEntry cfg tradeId symbol pair endpoint params)
      (fun _ => ClientIdsOwned cfg) (fun _ => ClientIdsOwned cfg) (ClientIdsOwned cfg) := by
  unfold SpotSidecar.submitEntry
  refine Triple.bind (asking_fresh _ _) fun now => Triple.bind (asking_fresh _ _) fun s => ?_
  refine Triple.bind (Q := fun _ w => ClientIdsOwned cfg w ∧ Fresh params.clientIds w)
    (settles_fresh _ (.upsert _ _ (.lifecycle rfl rfl))) fun _ => ?_
  refine Triple.bind (submitFresh _ (by decide) _ _ _ _ _) fun submitted => ?_
  split
  · exact Keeps.bind (upsert _ _ _) fun _ => .pure
  · exact Keeps.bind (settles (.bindIntent _ _ _)) fun _ => .pure
  · exact Keeps.raise
  · exact Keeps.bind (upsert _ _ _) fun _ => .pure

theorem submit (symbol : Symbol) (id : TradeId) :
    Keeps (Act.exec env) (ClientIdsOwned cfg) (submit cfg symbol id) := by
  unfold SpotSidecar.submit
  refine .bind (asking _) fun m => .bind (asking _) fun s => ?_
  split
  · exact .pure
  · refine .bind (asking _) fun active => ?_
    split
    · exact .pure
    · split
      · exact .pure
      · refine .bind (asking _) fun s => ?_
        split
        · exact .pure
        · split
          · exact .pure
          · refine Triple.bind (Triple.asked (triple_planEntry _ _)) fun plan => ?_
            split
            · exact .pure fun w hw => hw.1
            · exact (submitEntry _ _ _ _ _).weaken fun w hw => ⟨hw.1, hw.2 _ rfl⟩

theorem cancelEntryList (row : TradeRow) (symbol : Symbol) (operation : Operation)
    (hop : operation ≠ .replaceProtection) :
    Keeps (Act.exec env) (ClientIdsOwned cfg) (cancelEntryList cfg row symbol operation) := by
  unfold SpotSidecar.cancelEntryList
  split
  · exact .pure
  · refine Triple.bind ((prepare _).weaken fun w hw => ⟨hw, insertable_of_no_ids hw rfl rfl⟩)
      fun isNew => ?_
    split
    · next hnew =>
      refine Triple.bind ((mark _).weaken fun w hw =>
        ⟨hw.1, prepared_placing (d := cancelEntryDraft ..) hop (hw.2 hnew)⟩)
        fun _ => Keeps.bind (.attempt (post _)) fun answer => ?_
      split
      · exact .bind (settles (.finish _ _ _)) fun _ => .pure
      · exact .bind (settles (.finish _ _ _)) fun _ => .pure
      · split
        · exact .bind (settles (.perform trivial)) fun _ => .pure
        · exact .bind (settles (.finish _ _ _)) fun _ => .pure
    · refine Keeps.weaken ?_ fun w hw => hw.1
      refine .bind (asking _) fun s => ?_
      split <;> exact .pure

theorem cancelProtection (row : TradeRow) (symbol : Symbol) :
    Keeps (Act.exec env) (ClientIdsOwned cfg) (cancelProtection cfg row symbol) := by
  unfold SpotSidecar.cancelProtection
  split
  · exact .pure
  · refine Triple.bind ((prepare _).weaken fun w hw => ⟨hw, insertable_of_no_ids hw rfl rfl⟩)
      fun isNew => ?_
    split
    · next hnew =>
      refine Triple.bind ((mark _).weaken fun w hw => ⟨hw.1,
        prepared_placing (d := cancelProtectionDraft ..) (by rintro ⟨⟩) (hw.2 hnew)⟩)
        fun _ => Keeps.bind (.attempt (post _)) fun answer => ?_
      split
      · exact .bind (settles (.finish _ _ _)) fun _ => .pure
      · exact .bind (settles (.finish _ _ _)) fun _ => .pure
      · exact settles (.concludeCancel _ _ _)
    · exact (asking _).weaken fun w hw => hw.1

/-- A request built by the factory and submitted at once. -/
theorem protectFilled (row : TradeRow) (symbol : Symbol) (pair : Pair) (rules : SymbolRules) :
    Keeps (Act.exec env) (ClientIdsOwned cfg) (protectFilled cfg row symbol pair rules) := by
  unfold SpotSidecar.protectFilled
  refine .bind (asking _) fun held => ?_
  dsimp only
  split
  · exact .pure
  · refine .bind (asking _) fun entryPrice => .bind (asking _) fun current => ?_
    refine .bind (asking _) fun s => .bind (asking _) fun _ => ?_
    refine Triple.bind (Triple.asked (triple_factoryReplacement _ _ _ _ _ _ _)) ?_
    rintro ⟨endpoint, params⟩
    refine Triple.bind (asking_fresh _ _) fun _ => ?_
    refine Triple.bind (submitFresh _ (by decide) _ _ _ _ _) fun submitted => ?_
    split
    · refine Keeps.bind (settles (.bindIntent _ _ _)) fun _ => ?_
      exact .bind (upsert _ _ _) fun _ => .pure
    · exact Keeps.raise
    · exact Keeps.pure

theorem keeps_draft (d : IntentDraft) (m : Acting α) :
    Keeps (Act.exec env) (fun w => d ∈ w.store.drafts) m :=
  keeps_of_exec (fun a w hw => Act.exec_drafts a w hw) m

/-- What keeps the client ids apart keeps the drafts of the ledger as well. -/
theorem and_draft {m : Acting α} (h : Keeps (Act.exec env) (ClientIdsOwned cfg) m)
    (d : IntentDraft) : Triple (Act.exec env)
      (fun w => ClientIdsOwned cfg w ∧ d ∈ w.store.drafts) m
      (fun _ w => ClientIdsOwned cfg w ∧ d ∈ w.store.drafts) (fun _ => ClientIdsOwned cfg)
      (ClientIdsOwned cfg) :=
  (h.and (keeps_draft d m)).conseq (fun _ hw => hw) (fun _ _ hw => hw) (fun _ _ hw => hw.1)
    fun _ hw => hw.1

/-- The replacement is the planned one, or it is built anew. -/
theorem replacementFor (args : ConvertArgs) (c : Conversion) (held : ℚ) :
    Triple (Act.exec env) (ClientIdsOwned cfg) (liftM (replacementFor cfg args c held) : Acting _)
      (fun r w => ClientIdsOwned cfg w ∧ (r = (c.endpoint, c.params) ∨ Fresh r.2.clientIds w))
      (fun _ => ClientIdsOwned cfg) (ClientIdsOwned cfg) := by
  refine Triple.asked ?_
  unfold SpotSidecar.replacementFor
  split
  · refine Triple.bind (keeps_of_exec (fun a w hw => hw.inert env (.fold (.ask a)) trivial w) _)
      fun current => ?_
    exact (triple_factoryReplacement _ _ _ _ _ _ _).post fun r w hw => ⟨hw.1, .inr hw.2⟩
  · exact .pure fun w hw => ⟨hw, .inl rfl⟩

theorem submitReplacement (args : ConvertArgs) (c : Conversion) (held : ℚ) :
    Triple (Act.exec env)
      (fun w => ClientIdsOwned cfg w ∧ ((planDraft cfg c).row 0).draft ∈ w.store.drafts)
      (submitReplacement cfg args c (planDraft cfg c).intentId held)
      (fun _ => ClientIdsOwned cfg) (fun _ => ClientIdsOwned cfg) (ClientIdsOwned cfg) := by
  unfold SpotSidecar.submitReplacement
  refine Triple.bind (((replacementFor args c held).and (keeps_draft _ _)).conseq
    (fun _ hw => hw) (fun _ _ hw => hw) (fun _ _ hw => hw.1) fun _ hw => hw.1) ?_
  rintro ⟨endpoint, params⟩
  dsimp only
  have hins : ∀ w : World σ, (ClientIdsOwned cfg w ∧
      ((endpoint, params) = (c.endpoint, c.params) ∨ Fresh params.clientIds w)) ∧
      ((planDraft cfg c).row 0).draft ∈ w.store.drafts →
      Insertable cfg (submissionDraft cfg .protection c.row.tradeId c.symbol endpoint params
        (some (planDraft cfg c).intentId)) w := by
    rintro w ⟨⟨hw, heq | hfresh⟩, hplan⟩
    · cases heq
      exact insertable_child hw hplan (fun h => h rfl) rfl rfl (by rintro ⟨⟩)
    · exact Fresh.insertable (d := submissionDraft ..) hfresh hw fun _ => by rintro ⟨⟩
  have hkeep : Keeps (Act.exec env) (fun w => (ClientIdsOwned cfg w ∧
      ((endpoint, params) = (c.endpoint, c.params) ∨ Fresh params.clientIds w)) ∧
      ((planDraft cfg c).row 0).draft ∈ w.store.drafts)
      (liftM (preflight c.rules endpoint params [] false) : Acting Unit) := by
    refine keeps_asking (fun a w hw => ⟨⟨?_, ?_⟩, ?_⟩) _
    · exact hw.1.1.inert env (.fold (.ask a)) trivial w
    · exact hw.1.2.imp_right fun h => h.inert env (.fold (.ask a)) trivial w
    · exact Act.exec_drafts (.fold (.ask a)) w hw.2
  refine Triple.bind (hkeep.conseq (fun _ hw => hw) (fun _ _ hw => hw) (fun _ _ hw => hw.1.1)
    fun _ hw => hw.1.1) fun _ => ?_
  refine Triple.bind ((submitOnce _ (by decide) _ _ _ _ _).weaken fun w hw =>
    ⟨hw.1.1, hins w hw⟩) fun submitted => ?_
  split
  · exact settles (.finishConversion _ _ _ _ _ _ _)
  · exact Keeps.raise
  · exact Keeps.bind (upsert _ _ _) fun _ => .pure

theorem convert (symbol : Symbol) (args : ConvertArgs) :
    Keeps (Act.exec env) (ClientIdsOwned cfg) (convert cfg symbol args) := by
  unfold SpotSidecar.convert
  refine Triple.bind (Triple.asked (triple_planConversion _ _)) fun planned => ?_
  split
  · exact .pure fun w hw => hw.1
  · next c =>
    unfold executeConversion
    refine Triple.bind ((prepare _).weaken fun w hw => ⟨hw.1,
      Fresh.insertable (d := planDraft cfg c) (hw.2 c rfl) hw.1 fun h => absurd rfl h⟩)
      fun isNew => ?_
    split
    · next hnew =>
      refine Triple.weaken (?_ : Triple _ (fun w => ClientIdsOwned cfg w ∧
        ((planDraft cfg c).row 0).draft ∈ w.store.drafts) _ _ _ _) fun w hw => ⟨hw.1, hw.2 hnew⟩
      refine Triple.bind (and_draft (asking _) _) fun _ => ?_
      refine Triple.bind (and_draft (asking _) _) fun _ => ?_
      refine Triple.bind (and_draft (cancelProtection _ _) _) ?_
      rintro ⟨canceled, detail⟩
      dsimp only
      split
      · unfold replaceCanceled
        refine Triple.bind (and_draft (asking _) _) fun free => ?_
        dsimp only
        split
        · refine Keeps.weaken (.bind (asking _) fun balances => ?_) fun w hw => hw.1
          split
          · exact .pure
          · refine .bind (settles (.finish _ _ _)) fun _ => ?_
            exact .bind (upsert _ _ _) fun _ => .pure
        · exact submitReplacement _ _ _
      · exact .pure fun w hw => hw.1
    · exact .pure fun w hw => hw.1

theorem emergencyExit (symbol : Symbol) :
    Keeps (Act.exec env) (ClientIdsOwned cfg) (emergencyExit cfg symbol) := by
  have hsell : ∀ plan, Keeps (Act.exec env) (ClientIdsOwned cfg) (sellOut cfg plan) := by
    intro plan
    unfold sellOut
    refine .bind (asking _) fun bid => ?_
    refine Triple.bind (Triple.weaken (Triple.asked (triple_mint [] _)) fun w hw => ⟨hw, fresh_nil⟩)
      fun client => ?_
    refine Triple.bind (asking_fresh _ _) fun _ => ?_
    refine Triple.bind (Triple.weaken (submitFresh .emergencyExit (by decide) _ _ _ _ _)
      fun w hw => hw) fun submitted => ?_
    split
    · exact Keeps.bind (settles (.bindIntent _ _ _)) fun _ => settles (.verifyExit _ _)
    · exact Keeps.raise
    · exact Keeps.pure
  unfold SpotSidecar.emergencyExit
  refine .bind (asking _) fun s => .bind .ofExcept fun found => ?_
  split
  · exact .pure
  · refine .bind (asking _) fun _ => .bind (cancelProtection _ _) ?_
    rintro ⟨canceled, detail⟩
    dsimp only
    split
    · unfold exitCanceled
      refine .bind (asking _) fun active => .bind (asking _) fun rules => ?_
      split
      · exact .pure
      · refine .bind (asking _) fun free => ?_
        dsimp only
        split
        · exact .pure
        · exact hsell _
    · exact .pure

theorem asking_knows (i : Intent) (m : Asking α) :
    Triple (Act.exec env) (fun w => ClientIdsOwned cfg w ∧ w.store.Knows i)
      (liftM m : Acting α) (fun _ w => ClientIdsOwned cfg w ∧ w.store.Knows i)
      (fun _ => ClientIdsOwned cfg) (ClientIdsOwned cfg) :=
  ((asking m).and (keeps_knows i _)).conseq (fun _ hw => hw) (fun _ _ hw => hw)
    (fun _ _ hw => hw.1) fun _ hw => hw.1

theorem asking_knowsAll (intents : List Intent) (m : Asking α) :
    Triple (Act.exec env)
      (fun w => ClientIdsOwned cfg w ∧ ∀ i ∈ intents, w.store.Knows i) (liftM m : Acting α)
      (fun _ w => ClientIdsOwned cfg w ∧ ∀ i ∈ intents, w.store.Knows i)
      (fun _ => ClientIdsOwned cfg) (ClientIdsOwned cfg) := by
  have hknows : Keeps (Act.exec env) (fun w => ∀ i ∈ intents, w.store.Knows i)
      (liftM m : Acting α) :=
    keeps_of_exec (fun a w hw i hi => (hw i hi).mono (Act.exec_ledgerLe a w)) _
  exact ((asking m).and hknows).conseq (fun _ hw => hw) (fun _ _ hw => hw)
    (fun _ _ hw => hw.1) fun _ hw => hw.1

/-- A submission that is resumed was no plan. -/
theorem resumeExisting (i : Intent) (hp : i.draft.placing) (request : Params) :
    Triple (Act.exec env) (fun w => ClientIdsOwned cfg w ∧ w.store.Knows i)
      (resumeExistingPreparedSubmission cfg i request)
      (fun _ => ClientIdsOwned cfg) (fun _ => ClientIdsOwned cfg) (ClientIdsOwned cfg) := by
  unfold resumeExistingPreparedSubmission
  refine Triple.bind ((mark _).weaken fun w hw => ⟨hw.1, i.draft, hw.2.mem_drafts, rfl, hp⟩)
    fun _ => Keeps.bind (.attempt (post _)) fun answer => ?_
  split
  · exact .bind (asking _) fun response => settles (.concludeResumed _ _ _)
  · refine .bind (asking _) fun found => ?_
    split
    · exact settles (.concludeResumed _ _ _)
    · dsimp only
      split <;> exact .bind (settles (.finish _ _ _)) fun _ => .pure

theorem resolveIntent (i : Intent) : Triple (Act.exec env)
    (fun w => ClientIdsOwned cfg w ∧ w.store.Knows i) (resolveIntent cfg i)
    (fun _ => ClientIdsOwned cfg) (fun _ => ClientIdsOwned cfg) (ClientIdsOwned cfg) := by
  unfold SpotSidecar.resolveIntent
  refine Triple.bind (asking_knows i _) fun request => ?_
  split
  · split
    · exact .pure fun w hw => hw.1
    · next hplan =>
      split
      · refine Triple.bind (Q := fun _ => ClientIdsOwned cfg) ?_ fun _ => .pure fun w hw => hw
        unfold resolvePreparedChild
        refine Triple.bind (asking_knows i _) fun s => ?_
        split
        · exact .raise fun w hw => hw.1
        · refine Triple.bind (asking_knows i _) fun rules => ?_
          refine Triple.bind (asking_knows i _) fun _ => ?_
          refine Triple.bind (resumeExisting i hplan _) ?_
          rintro ⟨state, response⟩
          exact settles (.bindRecovered _ _ _ _ _ _ _ _)
      · refine Keeps.weaken ?_ fun w hw => hw.1
        exact Keeps.bind (settles (.abortPrepared _)) fun _ => .pure
  · refine Keeps.weaken ?_ fun w hw => hw.1
    split
    · exact Keeps.bind (settles (.resolveCancel _ _)) fun _ => .pure
    · exact Keeps.bind (settles (.resolvePlacement _ _)) fun _ => .pure

theorem plannedRequest_clientIds (request : Params) (requested held step : ℚ) :
    (plannedRequest request requested held step).clientIds = request.clientIds := by
  unfold plannedRequest
  split <;> rfl

theorem plannedRequest_childId (cfg : Config) (plan : Intent) (requested held step : ℚ) :
    (submissionDraft cfg .protection plan.tradeId plan.symbol plan.endpoint
      (plannedRequest plan.request requested held step) (some plan.intentId)).intentId =
    plan.draft.childId cfg := by
  unfold plannedRequest
  split <;> rfl

theorem submitPlan (plan : Intent) (hplan : plan.operation = .replaceProtection)
    (row : TradeRow) (rules : SymbolRules) :
    Triple (Act.exec env) (fun w => ClientIdsOwned cfg w ∧ w.store.Knows plan)
      (submitPlan cfg plan plan.request row rules)
      (fun _ => ClientIdsOwned cfg) (fun _ => ClientIdsOwned cfg) (ClientIdsOwned cfg) := by
  unfold SpotSidecar.submitPlan
  refine Triple.bind (Q := fun _ w => ClientIdsOwned cfg w ∧ w.store.Knows plan)
    (.ensure (fun _ w hw => hw) fun _ w hw => hw.1) fun _ => ?_
  refine Triple.bind (asking_knows plan _) fun free => ?_
  dsimp only
  split
  · refine Keeps.weaken (.bind (asking _) fun balances => .bind .ensure fun _ => ?_)
      fun w hw => hw.1
    exact .bind (settles (.finish _ _ _)) fun _ => .bind (upsert _ _ _) fun _ => .pure
  · refine Triple.bind (asking_knows plan _) fun _ => ?_
    refine Triple.bind
      ((submitOnce .protection (by decide) _ _ _ _ _).weaken fun w hw => ⟨hw.1, ?_⟩)
      fun submitted => ?_
    · exact insertable_child hw.1 hw.2.mem_drafts (fun h => h hplan)
        (plannedRequest_clientIds _ _ _ _) (plannedRequest_childId _ _ _ _ _) (by rintro ⟨⟩)
    · refine Keeps.bind (settles (.finish _ _ _)) fun _ => ?_
      exact Keeps.bind (settles (.bindRecovered _ _ _ _ _ _ _ _)) fun _ => .pure

theorem resumeChild (plan : Intent) (row : TradeRow) (rules : SymbolRules) (child : Intent)
    (hchild : child.parentIntentId ≠ none) :
    Triple (Act.exec env) (fun w => ClientIdsOwned cfg w ∧ w.store.Knows child)
      (resumeChild cfg plan row rules child) (fun _ => ClientIdsOwned cfg)
      (fun _ => ClientIdsOwned cfg) (ClientIdsOwned cfg) := by
  by_cases hp : child.draft.placing
  · unfold SpotSidecar.resumeChild
    refine Triple.bind (asking_knows child _) fun request => ?_
    refine Triple.bind (asking_knows child _) fun _ => ?_
    refine Triple.bind (resumeExisting child hp _) ?_
    rintro ⟨state, response⟩
    exact .bind (settles (.bindRecovered _ _ _ _ _ _ _ _)) fun _ => settles (.finish _ _ _)
  · exact fun w hw => absurd (hw.1.own.child _ hw.2.mem_drafts hchild) hp

theorem resumeAfterCancel (plan : Intent) (hplan : plan.operation = .replaceProtection)
    (related : List Intent) :
    Triple (Act.exec env)
      (fun w => ClientIdsOwned cfg w ∧ ∀ i ∈ plan :: related, w.store.Knows i)
      (resumeAfterCancel cfg plan plan.request related) (fun _ => ClientIdsOwned cfg)
      (fun _ => ClientIdsOwned cfg) (ClientIdsOwned cfg) := by
  have hask : ∀ {γ : Type} (m : Asking γ), Triple (Act.exec env)
      (fun w => ClientIdsOwned cfg w ∧ ∀ i ∈ plan :: related, w.store.Knows i)
      (liftM m : Acting γ)
      (fun _ w => ClientIdsOwned cfg w ∧ ∀ i ∈ plan :: related, w.store.Knows i)
      (fun _ => ClientIdsOwned cfg) (ClientIdsOwned cfg) := asking_knowsAll _
  unfold SpotSidecar.resumeAfterCancel
  refine Triple.bind (hask _) fun s => ?_
  split
  · exact .raise fun w hw => hw.1
  · refine Triple.bind (hask _) fun active => Triple.bind (hask _) fun rules => ?_
    split
    · exact (submitPlan _ hplan _ _).weaken fun w hw => ⟨hw.1, hw.2 _ (List.mem_cons_self ..)⟩
    · next child hchild =>
      have hlast := List.mem_of_getLast? hchild
      have hparent : child.parentIntentId ≠ none := by
        have := of_decide_eq_true (List.mem_filter.mp hlast).2
        simp [this]
      split
      · refine Triple.bind (Triple.weaken (resumeChild _ _ _ _ hparent) fun w hw =>
          ⟨hw.1, hw.2 child (List.mem_cons_of_mem _ (List.mem_of_mem_filter hlast))⟩)
          fun _ => .pure fun w hw => hw
      · exact Keeps.weaken (Keeps.bind (settles (.rebindChild _ _ _)) fun _ => .pure)
          fun w hw => hw.1
      · exact .pure fun w hw => hw.1
      · exact .pure fun w hw => hw.1
      · exact Keeps.weaken (Keeps.bind (settles (.finish _ _ _)) fun _ => .pure) fun w hw => hw.1
      · exact Keeps.weaken (Keeps.bind (settles (.finish _ _ _)) fun _ => .pure) fun w hw => hw.1

theorem resumePreparedReplacement (plan : Intent) (hplan : plan.operation = .replaceProtection) :
    Triple (Act.exec env) (fun w => ClientIdsOwned cfg w ∧ w.store.Knows plan)
      (resumePreparedReplacement cfg plan) (fun _ => ClientIdsOwned cfg)
      (fun _ => ClientIdsOwned cfg) (ClientIdsOwned cfg) := by
  unfold SpotSidecar.resumePreparedReplacement
  refine Triple.bind (triple_intentRequest _ fun w hw => hw.1) fun request => ?_
  refine Triple.assume_eq fun hrequest => ?_
  subst hrequest
  refine Triple.bind (triple_theStore fun w hw => hw.1) fun s => ?_
  dsimp only
  split
  · exact Keeps.weaken (Keeps.bind (settles (.finish _ _ _)) fun _ => .pure) fun w hw => hw.1.1
  · split
    · refine Triple.weaken (?_ : Triple _ (fun w => ClientIdsOwned cfg w ∧
        ∀ i ∈ plan :: s.intentsForTrade plan.tradeId, w.store.Knows i) _ _ _ _) ?_
      · refine Triple.bind (asking_knowsAll _ _) fun cancelRequest => ?_
        refine Triple.bind (asking_knowsAll _ _) fun terminal => ?_
        split
        · exact resumeAfterCancel _ hplan _
        · exact .pure fun w hw => hw.1
      · rintro w ⟨⟨hw, hknows⟩, rfl⟩
        refine ⟨hw, fun i hi => ?_⟩
        rcases List.mem_cons.mp hi with rfl | hi
        · exact hknows
        · exact Store.knows_of_mem (List.mem_of_mem_filter hi)
    · exact .pure fun w hw => hw.1.1

theorem sites : Sites cfg env (ClientIdsOwned cfg) where
  fold f w hw := hw.inert env (.fold f) trivial w
  write id pair f w _ hw := hw.inert env (.upsertTrade id pair f) trivial w
  admits _ _ _ _ _ _ := trivial
  tables _ _ _ _ _ := trivial
  submit symbol id := (submit symbol id).weaken fun w hw => hw.1
  convert := convert
  emergencyExit := emergencyExit
  placePartialProtection := keeps_placePartialProtection
    (fun f w hw => hw.inert env (.fold f) trivial w) (fun _ _ => upsert _ _ _)
    (fun _ _ => cancelEntryList _ _ _ (by decide)) protectFilled
  cancelEntryList := cancelEntryList
  resolveIntent := resolveIntent
  resumePreparedReplacement i hop _ := resumePreparedReplacement i hop

theorem runSteps (cfg : Config) (env : Env σ) (e : σ) (steps : List Step) :
    ClientIdsOwned cfg (runSteps cfg env e steps) :=
  sites.runSteps e steps (init e) (fun _ hw => hw.congr rfl rfl rfl)
    fun _ hw => hw.congr rfl rfl rfl

/-- What a request behind the open mark says about the ledger the run has left. -/
theorem sent_draft {w : World σ} (h : ClientIdsOwned cfg w) (hw : WriteAhead w) {s : Store}
    {p : Post} {r : Except Exc Reply} {es : List Entry}
    (hes : ⟨s, .posted p r⟩ :: es <:+ w.history) :
    ∃ d ∈ w.store.drafts, crossings (⟨s, .posted p r⟩ :: es) = d.intentId :: crossings es ∧
      d.placing ∧ (p.clientIds = [] ∨ p.clientIds = d.request.clientIds) := by
  obtain ⟨before, id, hopen, -, i, hi, -, hauth⟩ := hw.posts s p r es hes
  obtain ⟨j, hj, hdraft, -⟩ := hw.le _ (hes.subset (List.mem_cons_self ..)) id i hi
  obtain ⟨hmem, hid⟩ := Store.mem_drafts hj
  have hmark : id ∈ marks w.history := by
    have := openMark_mem hopen
    exact (((List.suffix_cons _ es).trans hes).sublist.filterMap _).subset this
  obtain ⟨d, hd, hdid, hplacing⟩ := h.marked id hmark
  have hunique : (w.store.drafts.map (·.intentId)).Nodup := by
    rw [Store.drafts, List.map_map]
    exact w.store.intents_nodup
  have heq : d = j.draft := List.inj_on_of_nodup_map hunique hd hmem (hdid.trans hid.symm)
  refine ⟨d, hd, ?_, hplacing, ?_⟩
  · simp only [crossings, hopen, hdid, Option.map_some, Option.toList_some, List.singleton_append]
  · cases p with
    | place endpoint params =>
      have hreq : d.request = params := by
        rw [heq, hdraft]
        exact hauth.2
      exact .inr (congrArg Params.clientIds hreq.symm)
    | _ => exact .inl rfl

/-- Every client id that was sent stands in the request of a crossed intent, and none was
sent twice. -/
theorem sent_nodup {w : World σ} (h : ClientIdsOwned cfg w) (hw : WriteAhead w)
    (hfresh : (minted w.history).Nodup) : ∀ es, es <:+ w.history →
    (∀ c ∈ sentClientIds es, ∃ d ∈ w.store.drafts, d.intentId ∈ crossings es ∧ d.placing ∧
      c ∈ d.request.clientIds) ∧ (sentClientIds es).Nodup := by
  intro es
  induction es with
  | nil => exact fun _ => ⟨fun _ hc => (nomatch hc), List.nodup_nil⟩
  | cons e es ih =>
    intro hes
    have htail : es <:+ w.history := (List.suffix_cons e es).trans hes
    obtain ⟨hsent, hnodup⟩ := ih htail
    rcases e with ⟨s, item⟩
    cases item with
    | posted p r =>
      obtain ⟨d, hd, hcross, hplacing, hids⟩ := h.sent_draft hw hes
      have hnot : d.intentId ∉ crossings es := by
        have hall := hw.once.sublist (crossings_sublist hes)
        rw [hcross] at hall
        exact (List.nodup_cons.mp hall).1
      have hmem : ∀ c ∈ p.clientIds, c ∈ d.request.clientIds := by
        intro c hc
        rcases hids with hids | hids <;> rw [hids] at hc
        · cases hc
        · exact hc
      refine ⟨fun c hc => ?_, List.nodup_append.mpr ⟨?_, hnodup, ?_⟩⟩
      · rcases List.mem_append.mp hc with hc | hc
        · exact ⟨d, hd, hcross ▸ List.mem_cons_self .., hplacing, hmem c hc⟩
        · obtain ⟨d', hd', hid, hrest⟩ := hsent c hc
          exact ⟨d', hd', hcross ▸ List.mem_cons_of_mem _ hid, hrest⟩
      · rcases hids with hids | hids
        · exact (congrArg List.Nodup hids).mpr List.nodup_nil
        · exact (congrArg List.Nodup hids).mpr (h.own.nodup hfresh d hd)
      · rintro c hc _ hc' rfl
        obtain ⟨d', hd', hid, hplacing', hmem'⟩ := hsent c hc'
        have hcompat := h.own.apart hfresh d hd d' hd' ⟨c, hmem c hc, hmem'⟩
        exact hnot ((hcompat.1 (by simp [hplacing, hplacing'])) ▸ hid)
    | _ => exact ⟨hsent, hnodup⟩

end ClientIdsOwned

/-- In every run of the sidecar, whatever the exchange answers and wherever the process dies:
every request to the exchange stands behind an intent that the same operation has moved from
PREPARED to SUBMITTING and that stores this request; no intent crosses twice; an intent that an
operation finds past PREPARED is crossed by no later request; and no client id is sent twice
unless one was minted twice. -/
theorem requests_atMostOnce (cfg : Config) (env : Env σ) (e : σ) (steps : List Step) :
    let h := (runSteps cfg env e steps).history
    (∀ s p r es, ⟨s, .posted p r⟩ :: es <:+ h → Authorized s p es) ∧
    (crossings h).Nodup ∧
    (∀ s es, ⟨s, .began⟩ :: es <:+ h → ∀ id i, s.intent id = some i → i.state ≠ .prepared →
      id ∈ crossings h → id ∈ crossings es) ∧
    ((minted h).Nodup → (sentClientIds h).Nodup) := by
  have hw := WriteAhead.runSteps cfg env e steps
  have hids := ClientIdsOwned.runSteps cfg env e steps
  refine ⟨hw.posts, hw.once, fun s es hes id i hi hs hid => ?_, fun hfresh => ?_⟩
  · exact hw.not_crossed_again hes hi hs hid
  · exact (hids.sent_nodup hw hfresh _ (List.suffix_refl _)).2

end SpotSidecar
