import SpotSidecar.Safety.AtMostOnce
import SpotSidecar.Safety.Still

/-! The answers by which the adapter learns what has become of a placement: the answer of the
request and the lookups by client id. -/
namespace SpotSidecar
open Interaction Prog

/-- What an entry of the history tells about the placement of an intent. -/
def Entry.answer? (e : Entry) (i : Intent) : Option Response :=
  match e.item with
  | .posted (.place endpoint params) (.ok reply) =>
    if i.endpoint = endpoint ∧ i.request = params then reply else none
  | .gotOrder _ (.clientId c) (.ok reply) =>
    if i.endpoint.isOrderList = false ∧
        (c = i.clientOrderId.getD "" ∨ c = i.request.newClientOrderId.getD "") then reply
    else none
  | .gotOrderList (.listClientId c) (.ok reply) =>
    if i.endpoint.isOrderList = true ∧
        (c = i.listClientOrderId.getD "" ∨ c = i.request.listClientOrderId.getD "") then reply
    else none
  | _ => none

/-- The intent was marked last since the operation began. -/
def Intent.markedIn (i : Intent) (es : List Entry) : Bool :=
  (openMark es).any fun m => m.2 = i.intentId

theorem Entry.answer?_congr {e : Entry} {i j : Intent} (h : i.draft = j.draft) :
    e.answer? i = e.answer? j := by
  have hendpoint : i.endpoint = j.endpoint := congrArg IntentDraft.endpoint h
  have hrequest : i.request = j.request := congrArg IntentDraft.request h
  have hclient : i.clientOrderId = j.clientOrderId := congrArg IntentDraft.clientOrderId h
  have hlist : i.listClientOrderId = j.listClientOrderId :=
    congrArg IntentDraft.listClientOrderId h
  unfold answer?
  rw [hendpoint, hrequest, hclient, hlist]

/-- The history tells `r` about the placement of `i`, and since then neither a trade row nor an
event has changed. What is `fresh` is told of the request that the operation has just made, or
of an intent that is confirmed. -/
def Told {σ : Type} (fresh : Bool) (i : Intent) (r : Response) (w : World σ) : Prop :=
  ∃ e es j, e :: es <:+ w.history ∧ e.store.trades = w.store.trades ∧
    e.store.events = w.store.events ∧ j ∈ e.store.intents ∧ j.draft = i.draft ∧
    e.answer? j = some r ∧ (fresh = true → j.state = .confirmed ∨ j.markedIn es = true)

/-- The intent is in the ledger, and it was marked last since the operation began. -/
def Marked {σ : Type} (i : Intent) (w : World σ) : Prop :=
  (∃ j ∈ w.store.intents, j.draft = i.draft) ∧ i.markedIn w.history = true

section told
variable {σ α γ : Type} {cfg : Config} {env : Env σ} {i : Intent}

theorem Told.congr {fresh : Bool} {r : Response} {w w' : World σ} (h : Told fresh i r w)
    (hhistory : w.history <:+ w'.history) (htrades : w'.store.trades = w.store.trades)
    (hevents : w'.store.events = w.store.events) : Told fresh i r w' := by
  obtain ⟨e, es, j, hes, ht, he, hj⟩ := h
  exact ⟨e, es, j, hes.trans hhistory, ht.trans htrades.symm, he.trans hevents.symm, hj⟩

theorem Told.keeps {fresh : Bool} {r : Response} {m : Acting α} (hm : m.All Act.still) :
    Keeps (Act.exec env) (Told fresh i r) m :=
  hm.keeps fun a ha w hw =>
    hw.congr (a.exec_suffix env w) (Act.still_exec env ha w).1 (Act.still_exec env ha w).2

/-- Acts between the mark and the end of a submission. -/
def Act.following (γ : Type) : Act γ → Prop
  | .fold (.ask _) | .finishIntent _ _ _ _ _ | .post _ => True
  | _ => False

theorem Marked.act {a : Act γ} (ha : a.following) (w : World σ) (h : Marked i w) :
    Marked i (a.exec env γ w).2 := by
  obtain ⟨⟨j, hj, hd⟩, hmark⟩ := h
  constructor
  · have hle : Store.LedgerLe w.store (a.exec env γ w).2.store := Act.exec_ledgerLe a w
    obtain ⟨k, hk, hdraft, -⟩ := hle _ j (Store.intent_of_mem hj)
    exact ⟨k, (Store.intent_mem hk).1, hdraft.trans hd⟩
  · have hquiet : ∀ item : Item, item.quiet →
        i.markedIn (⟨w.store, item⟩ :: w.history) = true := by
      intro item hq
      have hsame : openMark (⟨w.store, item⟩ :: w.history) = openMark w.history :=
        openMark_quiet hq
      rwa [Intent.markedIn, hsame]
    cases a with
    | fold f =>
      cases f with
      | ask a =>
        cases a with
        | call c =>
          simp only [Act.exec, Fold.exec, Ask.exec]
          split
          · exact hquiet _ (Call.item?_quiet ‹_›)
          · exact hmark
        | _ => exact hmark
      | recordExchangeEvent e => exact ha.elim
      | replayExchangeEventsForTrade id => exact ha.elim
    | finishIntent id state orderId listId error =>
      simp only [Act.exec]
      split
      · exact hquiet _ trivial
      · exact hmark
    | post p => exact hmark
    | prepareIntent d => exact ha.elim
    | markIntentSubmitting id => exact ha.elim
    | upsertTrade id pair f => exact ha.elim

theorem Marked.keeps {m : Acting α} (hm : m.All Act.following) :
    Keeps (Act.exec env) (Marked i) m :=
  hm.keeps fun _ ha w hw => hw.act ha w

theorem Act.following_still (a : Act γ) (ha : a.following) : a.still := by
  cases a with
  | fold f =>
    cases f with
    | ask a => trivial
    | _ => exact ha
  | _ => trivial

/-- A question that is answered about the placement. -/
theorem triple_question {c : Call Reply} {item : Except Exc Reply → Item}
    (hitem : ∀ r, c.item? r = some (item r))
    (hanswer : ∀ s r, Entry.answer? ⟨s, item (.ok r)⟩ i = r) {fresh : Bool} {P : World σ → Prop}
    (hP : ∀ w, P w → ∃ j ∈ w.store.intents, j.draft = i.draft ∧
      (fresh = true → j.state = .confirmed ∨ j.markedIn w.history = true)) :
    Triple (Ask.exec env) P (call c) (fun r w => ∀ x, r = some x → Told fresh i x w)
      (fun _ _ => True) (fun _ => True) := by
  refine Triple.perform (fun _ _ => trivial) (fun w reply w' hw heq => ?_) fun _ _ _ _ _ => trivial
  rintro x rfl
  obtain ⟨j, hj, hd, hfresh⟩ := hP w hw
  simp only [Ask.exec, hitem] at heq
  cases hcall : env.call _ c w.env with
  | mk answer σ' =>
    rw [hcall] at heq
    cases heq
    refine ⟨_, _, j, List.suffix_refl _, rfl, rfl, hj, hd, ?_, hfresh⟩
    rw [Entry.answer?_congr hd]
    exact hanswer _ _

/-- A lookup of a placement by its client ids. -/
theorem triple_byClientId {fresh : Bool} {P : World σ → Prop}
    (hP : ∀ w, P w → ∃ j ∈ w.store.intents, j.draft = i.draft ∧
      (fresh = true → j.state = .confirmed ∨ j.markedIn w.history = true))
    (symbol : Symbol) {list client : ClientId}
    (hlist : list = i.listClientOrderId.getD "" ∨ list = i.request.listClientOrderId.getD "")
    (hclient : client = i.clientOrderId.getD "" ∨ client = i.request.newClientOrderId.getD "") :
    Triple (Ask.exec env) P
      (if i.endpoint.isOrderList = true then getOrderList none list
        else getOrder symbol none client)
      (fun r w => ∀ x, r = some x → Told fresh i x w) (fun _ _ => True) (fun _ => True) := by
  split
  · next hlisted =>
    unfold getOrderList
    dsimp only
    split
    · refine triple_question (fun _ => rfl) (fun s r => ?_) hP
      simp [Entry.answer?, hlisted, hlist]
    · exact .raise fun _ _ => trivial
  · next hsingle =>
    unfold getOrder
    dsimp only
    split
    · refine triple_question (fun _ => rfl) (fun s r => ?_) hP
      simp [Entry.answer?, hsingle, hclient]
    · exact .raise fun _ _ => trivial

theorem Marked.intents {w : World σ} (h : Marked i w) : ∃ j ∈ w.store.intents, j.draft = i.draft ∧
    (true = true → j.state = .confirmed ∨ j.markedIn w.history = true) := by
  obtain ⟨⟨j, hj, hd⟩, hmark⟩ := h
  have hid : j.intentId = i.intentId := congrArg IntentDraft.intentId hd
  refine ⟨j, hj, hd, fun _ => .inr ?_⟩
  rwa [Intent.markedIn, hid]

theorem keeps_marked (m : Asking α) : Keeps (Ask.exec env) (Marked i) m :=
  keeps_of_exec (fun a _ hw => hw.act (a := .fold (.ask a)) trivial) m

theorem keeps_told {fresh : Bool} {r : Response} (m : Asking α) :
    Keeps (Ask.exec env) (Told fresh i r) m := by
  refine keeps_of_exec (fun {γ} a w hw => ?_) m
  have hstill : Act.still γ (.fold (.ask a)) := trivial
  have hsame := Act.still_exec env hstill w
  exact hw.congr (Act.exec_suffix env (.fold (.ask a)) w) hsame.1 hsame.2

/-- `_lookup` after the request of an intent. -/
theorem triple_lookup (symbol : Symbol) :
    Triple (Ask.exec env) (Marked i) (lookup i.endpoint symbol i.request)
      (fun reply w => Marked i w ∧ ∀ r, reply = some r → Told true i r w)
      (fun _ _ => True) (fun _ => True) := by
  have htold : Triple (Ask.exec env) (Marked i) (lookup i.endpoint symbol i.request)
      (fun reply w => ∀ r, reply = some r → Told true i r w) (fun _ _ => True) (fun _ => True) := by
    unfold lookup
    refine Triple.bind (Q := fun found w => ∀ r, found = .ok (some r) → Told true i r w)
      (.attempt ?_) fun found => ?_
    · refine (triple_byClientId (fun w hw => hw.intents) symbol (.inr rfl) (.inr rfl)).conseq
        (fun _ hw => hw) ?_ ?_ fun _ _ => trivial
      · exact fun reply w hw r hr => hw r (Except.ok.inj hr)
      · exact fun e w _ r hr => nomatch hr
    · cases found with
      | ok reply => exact .pure fun w hw r hr => hw r (congrArg Except.ok hr)
      | error e => exact .pure fun w _ r hr => nomatch hr
  exact ((keeps_marked _).and htold).conseq (fun w hw => ⟨hw, hw⟩) (fun _ _ hw => hw)
    (fun _ _ _ => trivial) fun _ _ => trivial

/-- An answer without an identifier gives way to what a lookup finds. -/
theorem triple_identifiedAnswer (symbol : Symbol) (answer : Response) :
    Triple (Ask.exec env) (fun w => Marked i w ∧ Told true i answer w)
      (identifiedAnswer i.endpoint symbol i.request answer)
      (fun response w => Marked i w ∧ Told true i response w) (fun _ _ => True)
      (fun _ => True) := by
  unfold identifiedAnswer
  split
  · exact .pure fun w hw => hw
  · refine Triple.bind (((triple_lookup symbol).and (keeps_told _)).conseq (fun _ hw => hw)
      (fun _ _ hw => hw) (fun _ _ _ => trivial) fun _ _ => trivial) fun found => ?_
    cases found with
    | none => exact .pure fun w hw => ⟨hw.1.1, hw.2⟩
    | some r => exact .pure fun w hw => ⟨hw.1.1, hw.1.2 r rfl⟩

/-- The request of a marked intent. -/
theorem triple_placePost :
    Triple (Act.exec env) (Marked i) (post (.place i.endpoint i.request)).attempt
      (fun answer w => Marked i w ∧ ∀ r, answer = .ok (some r) → Told true i r w)
      (fun _ _ => True) (fun _ => True) := by
  have hmarked : ∀ w : World σ, Marked i w →
      Marked i (Act.exec env _ (.post (.place i.endpoint i.request)) w).2 :=
    fun w hw => hw.act (a := .post (.place i.endpoint i.request)) trivial
  refine Triple.attempt (Triple.perform (fun _ _ => trivial) ?_ ?_)
  · intro w reply w' hw heq
    have hm := hmarked w hw
    rw [heq] at hm
    refine ⟨hm, fun r hr => ?_⟩
    obtain ⟨hanswer, rfl⟩ := Prod.mk.inj heq
    cases hr
    obtain ⟨j, hj, hd, hfresh⟩ := hw.intents
    refine ⟨_, _, j, List.suffix_refl _, rfl, rfl, hj, hd, ?_, hfresh⟩
    rw [Entry.answer?_congr hd, Entry.answer?]
    dsimp only
    rw [hanswer]
    simp
  · intro w e w' hw heq
    have hm := hmarked w hw
    rw [heq] at hm
    exact ⟨hm, fun r hr => nomatch hr⟩

/-- What a submission that ends confirmed has been told. -/
def Confirmed (i : Intent) (state : IntentState) (response : Option Response) (w : World σ) :
    Prop :=
  state = .confirmed → ∀ r, response = some r →
    (∃ j ∈ w.store.intents, j.draft = i.draft) ∧ Told true i r w

theorem triple_finishTold {r : Response} (id : IntentId) (state : IntentState) (r' : Response)
    (error : Option String) :
    Keeps (Act.exec env) (fun w => Marked i w ∧ Told true i r w)
      (finishWith id state r' error) := by
  have hfinish : (finishWith id state r' error).All Act.following := .perform trivial
  have htold : Keeps (Act.exec env) (Told true i r) (finishWith id state r' error) :=
    Told.keeps (hfinish.mono fun a ha => a.following_still ha)
  exact ((Marked.keeps hfinish).and htold).conseq (fun _ hw => hw) (fun _ _ hw => hw)
    (fun _ _ hw => hw) fun _ hw => hw

theorem triple_concludeSubmission (symbol : Symbol) (id : IntentId) (answer : Response) :
    Triple (Act.exec env) (fun w => Marked i w ∧ Told true i answer w)
      (concludeSubmission i.endpoint symbol i.request id answer)
      (fun submitted w => submitted.intentId = id ∧
        Confirmed i submitted.state submitted.response w)
      (fun _ _ => True) (fun _ => True) := by
  unfold concludeSubmission
  refine Triple.bind (Triple.asked (triple_identifiedAnswer symbol answer)) fun response => ?_
  split
  · refine Triple.bind ((triple_finishTold id _ response none).conseq (fun _ hw => hw)
      (fun _ _ hw => hw) (fun _ _ _ => trivial) fun _ _ => trivial) fun _ => ?_
    refine .pure fun w hw => ⟨rfl, fun _ r hr => ?_⟩
    cases hr
    exact ⟨hw.1.1, hw.2⟩
  · refine Triple.bind Triple.top fun _ => Triple.bind Triple.top fun _ => ?_
    exact .pure fun _ _ => ⟨rfl, fun h => nomatch h⟩

theorem Reply.landed_eq_some {reply : Reply} {r : Response} (h : reply.landed = some r) :
    reply = some r := by
  unfold landed at h
  split at h
  · split at h
    · exact h
    · cases h
  · cases h

theorem triple_recoverSubmission (symbol : Symbol) (id : IntentId) (e : Exc) :
    Triple (Act.exec env) (Marked i) (recoverSubmission cfg i.endpoint symbol i.request id e)
      (fun submitted w => submitted.intentId = id ∧
        Confirmed i submitted.state submitted.response w)
      (fun _ _ => True) (fun _ => True) := by
  unfold recoverSubmission
  refine Triple.bind (Triple.asked (triple_lookup symbol)) fun found => ?_
  split
  · next response hlanded =>
    have hfound := Reply.landed_eq_some hlanded
    exact (triple_concludeSubmission symbol id response).weaken fun w hw => ⟨hw.1, hw.2 _ hfound⟩
  · dsimp only
    split
    · refine Triple.bind Triple.top fun _ => ?_
      exact .pure fun _ _ => ⟨rfl, fun h => nomatch h⟩
    · refine Triple.bind Triple.top fun _ => Triple.bind Triple.top fun _ => ?_
      exact .pure fun _ _ => ⟨rfl, fun h => nomatch h⟩

/-- A mark of an intent that the ledger holds. -/
theorem triple_mark (i : Intent) :
    Triple (Act.exec env) (fun w => ∃ j ∈ w.store.intents, j.draft = i.draft)
      (markSubmitting i.intentId) (fun _ => Marked i) (fun _ _ => True) (fun _ => True) := by
  refine Triple.perform (fun _ _ => trivial) ?_ fun _ _ _ _ _ => trivial
  rintro w _ w' ⟨j, hj, hd⟩ heq
  simp only [Act.exec] at heq
  split at heq
  · next s hok =>
    cases heq
    obtain ⟨k, hk, hdraft, -⟩ :=
      (Store.markIntentSubmitting_ledgerLe hok) _ j (Store.intent_of_mem hj)
    refine ⟨⟨k, (Store.intent_mem hk).1, hdraft.trans hd⟩, ?_⟩
    simp [Intent.markedIn, openMark, World.note]
  · cases heq

/-- A confirmed submission has been told of its placement. -/
theorem triple_submitOnce (operation : Operation) (tradeId : TradeId) (symbol : Symbol)
    (endpoint : Endpoint) (params : Params) (parent : Option IntentId) :
    Triple (Act.exec env) (fun _ => True)
      (submitOnce cfg operation tradeId symbol endpoint params parent)
      (fun submitted w =>
        submitted.intentId =
        (submissionDraft cfg operation tradeId symbol endpoint params parent).intentId ∧
        Confirmed ((submissionDraft cfg operation tradeId symbol endpoint params parent).row 0)
          submitted.state submitted.response w)
      (fun _ _ => True) (fun _ => True) := by
  unfold submitOnce
  dsimp only
  generalize hdraft : submissionDraft cfg operation tradeId symbol endpoint params parent = d
  have hd : endpoint = (d.row 0).endpoint ∧ params = (d.row 0).request := by
    subst hdraft
    exact ⟨rfl, rfl⟩
  obtain ⟨rfl, rfl⟩ := hd
  refine Triple.bind (Q := fun isNew w => isNew = true → ∃ j ∈ w.store.intents,
    j.draft = (d.row 0).draft) (Triple.perform (fun _ _ => trivial) ?_ fun _ _ _ _ _ => trivial)
    fun isNew => ?_
  · rintro w b w' - heq rfl
    simp only [Act.exec] at heq
    split at heq
    · next hok =>
      cases heq
      obtain ⟨-, i, hi, hdi⟩ := Store.prepareIntent_new hok
      exact ⟨i, (Store.intent_mem hi).1, hdi⟩
    · cases heq
  · cases isNew with
    | false =>
      refine Triple.bind Triple.top fun s => ?_
      split
      · exact .pure fun _ _ => ⟨rfl, fun _ r hr => by cases hr⟩
      · exact .raise fun _ _ => trivial
    | true =>
      refine Triple.bind ((triple_mark (d.row 0)).weaken fun w hw => hw rfl) fun _ => ?_
      refine Triple.bind triple_placePost fun answer => ?_
      split
      · next reply =>
        refine Triple.bind (Q := fun response w => Marked (d.row 0) w ∧
          Told true (d.row 0) response w) ?_ fun response =>
          triple_concludeSubmission symbol d.intentId response
        cases reply with
        | none => exact .raise fun _ _ => trivial
        | some r => exact .pure fun w hw => ⟨hw.1, hw.2 r rfl⟩
      · exact (triple_recoverSubmission symbol d.intentId _).weaken fun w hw => hw.1

theorem triple_concludeResumed (id : IntentId) (response : Response) :
    Triple (Act.exec env) (fun w => Marked i w ∧ Told true i response w)
      (concludeResumed i.endpoint id response) (fun r w => Confirmed i r.1 r.2 w)
      (fun _ _ => True) (fun _ => True) := by
  unfold concludeResumed
  split
  · refine Triple.bind ((triple_finishTold id _ response none).conseq (fun _ hw => hw)
      (fun _ _ hw => hw) (fun _ _ _ => trivial) fun _ _ => trivial) fun _ => ?_
    refine .pure fun w hw _ r hr => ?_
    cases hr
    exact ⟨hw.1.1, hw.2⟩
  · exact Triple.bind Triple.top fun _ => .pure fun _ _ h => nomatch h

/-- A confirmed resumption has been told of its placement. -/
theorem triple_resumeExisting (i : Intent) :
    Triple (Act.exec env) (fun w => ∃ j ∈ w.store.intents, j.draft = i.draft)
      (resumeExistingPreparedSubmission cfg i i.request) (fun r w => Confirmed i r.1 r.2 w)
      (fun _ _ => True) (fun _ => True) := by
  unfold resumeExistingPreparedSubmission
  refine Triple.bind (triple_mark i) fun _ => Triple.bind triple_placePost fun answer => ?_
  split
  · next reply =>
    refine Triple.bind (Q := fun response w => Marked i w ∧ Told true i response w) ?_
      fun response => triple_concludeResumed i.intentId response
    cases reply with
    | none => exact .raise fun _ _ => trivial
    | some r => exact .pure fun w hw => ⟨hw.1, hw.2 r rfl⟩
  · refine Triple.bind (Triple.asked ((triple_lookup i.symbol).weaken fun w hw => hw.1))
      fun found => ?_
    split
    · next response hlanded =>
      have hfound := Reply.landed_eq_some hlanded
      exact (triple_concludeResumed i.intentId response).weaken fun w hw => ⟨hw.1, hw.2 _ hfound⟩
    · dsimp only
      split
      · exact Triple.bind Triple.top fun _ => .pure fun _ _ h => nomatch h
      · exact Triple.bind Triple.top fun _ => .pure fun _ _ h => nomatch h

/-- A lookup of an intent that was read from the ledger. -/
theorem triple_lookupPlaced (fresh : Bool) (i : Intent) (symbol : Symbol) :
    Triple (Ask.exec env) (fun w => ∃ j ∈ w.store.intents, j.draft = i.draft ∧
        (fresh = true → j.state = .confirmed)) (lookupPlaced i symbol)
      (fun reply w => ∀ r, reply = some r → Told fresh i r w) (fun _ _ => True)
      (fun _ => True) := by
  unfold lookupPlaced
  refine triple_byClientId (fun w hw => ?_) symbol (.inl rfl) (.inl rfl)
  obtain ⟨j, hj, hd, hstate⟩ := hw
  exact ⟨j, hj, hd, fun h => .inl (hstate h)⟩

end told
end SpotSidecar
