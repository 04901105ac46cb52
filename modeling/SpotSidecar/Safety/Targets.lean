import SpotSidecar.Exchange.Desk
import SpotSidecar.Safety.Rows
import SpotSidecar.Safety.AtMostOnce

/-! Which object a cancel is sent for, against the object that was placed. -/
namespace SpotSidecar
open Interaction Prog

/-- The object that `_cancel_protection` reads from a recorded list id and stop id. -/
def protectionOfIds (list stop : Option ℤ) : Option Protection :=
  match knownId list, knownId stop with
  | some id, _ => some (.list id)
  | none, some id => some (.order id)
  | none, none => none

theorem TradeRow.protection_eq (row : TradeRow) :
    row.protection = protectionOfIds row.orderListId row.stopOrderId := rfl

/-- The recorded protection of a trade. -/
def Store.protection (s : Store) (id : TradeId) : Option (Option Protection) :=
  (s.trade id).map TradeRow.protection

/-- The object that a confirmed answer says was placed. -/
def placedObject (endpoint : Endpoint) (response : Response) : Option Protection :=
  if endpoint.isOrderList then response.orderListId.column.map .list
  else response.orderId.column.map .order

theorem knownId_eq_some {column : Option ℤ} {n : ℤ} :
    knownId column = some n ↔ column = some n ∧ n ≠ 0 := by
  simp [knownId, Option.filter_eq_some_iff]

theorem Ident.toId_ok {i : Ident} {id : Option ℤ} (h : i.toId = .ok id) :
    (i.truthy = true ∧ ∃ n, n ≠ 0 ∧ i = .int n ∧ id = some n) ∨ (i.truthy = false ∧ id = none) := by
  cases i with
  | int n =>
    by_cases hn : n = 0
    · simp_all [toId, toInt, Except.map, truthy]
    · have hid : id = some n := by simpa [toId, toInt, Except.map, hn, eq_comm] using h
      exact .inl ⟨by simp [truthy, hn], n, hn, rfl, hid⟩
  | bad => simp [toId, toInt, Except.map] at h
  | absent => simp_all [toId, toInt, Except.map, truthy]
  | null => simp_all [toId, toInt, Except.map, truthy]

theorem ResponseIds.assign_list (ids : ResponseIds) (id : Option ℤ) (role : Option Role) :
    (ids.assign id role).list = ids.list := by
  rcases role with _ | _ | _ | _ <;> rfl

/-- The list id is the one of the answer; the legs do not change it. -/
theorem responseIds_list {response : Response} {request : Params} {ids : ResponseIds}
    (h : responseIds response request = .ok ids) : response.orderListId.toId = .ok ids.list := by
  have hlegs : ∀ (legs : List Report) (start : ResponseIds),
      legs.foldlM (fun ids leg => do
        let id ← leg.orderId.toId
        return ids.assign id (leg.role request)) start = .ok ids → start.list = ids.list := by
    intro legs
    induction legs with
    | nil =>
      intro start hstart
      cases hstart
      rfl
    | cons leg legs ih =>
      intro start hstart
      rw [List.foldlM_cons, except_bind_eq_ok] at hstart
      obtain ⟨next, hnext, hrest⟩ := hstart
      obtain ⟨id, -, hid⟩ := except_bind_eq_ok.mp hnext
      cases hid
      rw [← ih _ hrest, ResponseIds.assign_list]
  obtain ⟨list, hlist, hrest⟩ := except_bind_eq_ok.mp h
  rw [hlist]
  exact congrArg Except.ok (hlegs _ _ hrest)

/-- The id columns that a confirmed protection gets. -/
theorem bindFields_protection {i : Intent} {response : Response} {request : Params}
    {row : TradeRow} {ids : ResponseIds} {fields : TradeFields}
    (hop : i.operation = .protection ∨ i.operation = .partialFillProtection)
    (h : bindFields i response request row ids = .ok fields) :
    fields.orderListId = some ids.list ∧
      ∃ stop, fields.stopOrderId = some stop ∧ ids.stopOr response = .ok stop := by
  have hfields : ∀ status, bindFields.protectionFields i response request row ids status =
      .ok fields → fields.orderListId = some ids.list ∧
        ∃ stop, fields.stopOrderId = some stop ∧ ids.stopOr response = .ok stop := by
    intro status hstatus
    obtain ⟨stop, hstop, hrest⟩ := except_bind_eq_ok.mp hstatus
    cases hrest
    exact ⟨rfl, stop, rfl, hstop⟩
  unfold bindFields at h
  rcases hop with hop | hop <;> rw [hop] at h <;> exact hfields _ h

section bind
variable {σ : Type} {cfg : Config} {env : Env σ}

/-- Acts that leave the recorded protection of a trade alone. -/
def Act.keepsIds (id : TradeId) (γ : Type) : Act γ → Prop
  | .upsertTrade id' _ f => id' = id → f.orderListId = none ∧ f.stopOrderId = none
  | _ => True

theorem foldEvents_protection (events : List StoredEvent) (now : ℕ) (row : TradeRow) :
    (foldEvents events now row).protection = row.protection := by
  induction events generalizing row with
  | nil => rfl
  | cons e events ih => exact ih _

theorem Act.keepsIds_exec {γ : Type} (a : Act γ) {id : TradeId} (h : a.keepsIds id)
    (w : World σ) {p : Option Protection} (hp : w.store.protection id = some p) :
    (a.exec env γ w).2.store.protection id = some p := by
  by_cases hup : a.upserts id
  · cases a with
    | upsertTrade id' pair f =>
      have hid : id' = id := hup
      subst hid
      obtain ⟨hlist, hstop⟩ := h rfl
      obtain ⟨row, hrow, rfl⟩ := Option.map_eq_some_iff.mp hp
      change (w.store.upsertTrade id' pair f).protection id' = _
      rw [Store.protection, Store.upsertTrade_trade, if_pos rfl, hrow]
      simp [TradeRow.protection, TradeRow.set, hlist, hstop]
    | _ => exact hup.elim
  · obtain ⟨events, hrow, -⟩ := Act.exec_trade env a w id hup
    rw [Store.protection, hrow, Option.map_map]
    rw [← hp, Store.protection]
    congr 1
    exact funext fun row => foldEvents_protection _ _ row

/-- What no act of a program writes, the program keeps. -/
theorem keeps_protection {α : Type} {m : Acting α} {id : TradeId} (hm : m.All (Act.keepsIds id))
    (p : Option Protection) :
    Keeps (Act.exec env) (fun w => w.store.protection id = some p) m :=
  hm.keeps fun a ha w hw => Act.keepsIds_exec a ha w hw

/-- A write of both id columns. -/
theorem triple_upsert_ids {id : TradeId} {pair : Pair} {f : TradeFields} {list stop : Option ℤ}
    (hlist : f.orderListId = some list) (hstop : f.stopOrderId = some stop) {P C : World σ → Prop}
    {E : Exc → World σ → Prop} (hC : ∀ w, P w → C w) :
    Triple (Act.exec env) P (upsert id pair f)
      (fun _ w => w.store.protection id = some (protectionOfIds list stop)) E C := by
  intro w hw
  refine ⟨hC w hw, ?_⟩
  change (w.store.upsertTrade id pair f).protection id = _
  rw [Store.protection, Store.upsertTrade_trade, if_pos rfl]
  rw [Option.map_some, TradeRow.protection_eq]
  simp [TradeRow.set, hlist, hstop]

theorem triple_bindConfirmedIntent {i : Intent} {response : Response} {request : Params}
    (hop : i.operation = .protection ∨ i.operation = .partialFillProtection) :
    Triple (Act.exec env) (fun w => (w.store.trade i.tradeId).isSome)
      (bindConfirmedIntent i response request)
      (fun _ w => ∃ ids stop, responseIds response request = .ok ids ∧
        ids.stopOr response = .ok stop ∧
        w.store.protection i.tradeId = some (protectionOfIds ids.list stop))
      (fun _ _ => True) (fun _ => True) := by
  unfold bindConfirmedIntent
  refine Triple.bind (triple_theStore fun _ _ => trivial) fun s => ?_
  split
  · next hnone =>
    rintro w ⟨hsome, rfl⟩
    simp [hnone] at hsome
  · next row _ =>
    refine Triple.bind (Q := fun ids _ => True ∧ responseIds response request = .ok ids)
      (.ofExcept (fun _ hids _ _ => ⟨trivial, hids⟩) fun _ _ _ _ => trivial) fun ids => ?_
    refine Triple.assume_eq fun hids => ?_
    refine Triple.bind (Q := fun fields _ => True ∧
      bindFields i response request row ids = .ok fields)
      (.ofExcept (fun _ hfields _ _ => ⟨trivial, hfields⟩) fun _ _ _ _ => trivial) fun fields => ?_
    refine Triple.assume_eq fun hfields => ?_
    obtain ⟨hlist, stop, hstop, hids'⟩ := bindFields_protection hop hfields
    refine Triple.bind (triple_upsert_ids hlist hstop fun _ _ => trivial) fun _ => ?_
    have hkeeps : ((do
        (liftM (recordResponseEvents response (.ofOption ids.list)) : Acting Unit)
        (liftM (replayTrade i.tradeId) : Acting Unit)) : Acting Unit).All
          (Act.keepsIds i.tradeId) :=
      .bind (All.lift (fun _ => trivial) _) fun _ => All.lift (fun _ => trivial) _
    exact (keeps_protection hkeeps _).conseq (fun _ hw => hw)
      (fun _ w hw => ⟨ids, stop, hids, hids', hw⟩) (fun _ _ _ => trivial) fun _ _ => trivial

/-- The two ways in which a confirmed placement reaches its trade. -/
inductive Binding where
  /-- `_bind_confirmed_intent` -/
  | direct
  /-- The end of `convert`: `_bind_confirmed_intent` and one more write of the ids. -/
  | converted (args : ConvertArgs) (c : Conversion) (held : ℚ)

namespace Binding

def program (cfg : Config) (i : Intent) (response : Response) (request : Params) :
    Binding → Acting Unit
  | direct => bindConfirmedIntent i response request
  | converted args c held =>
    drop (finishConversion cfg args c i.endpoint request held i.intentId response)

/-- The conversion is one of the intent's trade. -/
def ofTrade (id : TradeId) : Binding → Prop
  | direct => True
  | converted _ c _ => c.row.tradeId = id

/-- For a standalone order: the answer names no list, not even the sentinel, and its reports
name no other order as the stop. -/
def exact (endpoint : Endpoint) (response : Response) (request : Params) : Binding → Prop
  | direct => endpoint = .order → response.orderListId.truthy = false ∧
      ∀ ids, responseIds response request = .ok ids → ∀ n, ids.stop = some n →
        response.orderId = .int n
  | converted .. => endpoint = .order → response.orderListId.truthy = false

/-- How the stop id that is recorded follows from the answer. -/
def stopFrom (endpoint : Endpoint) (response : Response) (ids : ResponseIds) (stop : Option ℤ) :
    Binding → Prop
  | direct => ids.stopOr response = .ok stop
  | converted .. => (if endpoint = .order then response.orderId.toId else .ok ids.stop) = .ok stop

theorem triple_program {i : Intent} (response : Response) (request : Params)
    (hop : i.operation = .protection ∨ i.operation = .partialFillProtection) (b : Binding)
    (hb : b.ofTrade i.tradeId) :
    Triple (Act.exec env) (fun w => (w.store.trade i.tradeId).isSome)
      (b.program cfg i response request)
      (fun _ w => ∃ ids stop, responseIds response request = .ok ids ∧
        b.stopFrom i.endpoint response ids stop ∧
        w.store.protection i.tradeId = some (protectionOfIds ids.list stop))
      (fun _ _ => True) (fun _ => True) := by
  cases b with
  | direct =>
    exact triple_bindConfirmedIntent hop
  | converted args c held =>
    have htrue : ∀ {β : Type} (m : Acting β), Keeps (Act.exec env) (fun _ => True) m :=
      fun m => keeps_of_exec (fun _ _ _ => trivial) m
    refine Triple.weaken (?_ : Triple _ (fun _ => True) _ _ _ _) fun _ _ => trivial
    unfold program drop finishConversion
    refine Triple.bind ?_ fun _ => .pure fun w hw => hw
    refine Triple.bind (htrue _) fun _ => ?_
    refine Triple.bind (Q := fun ids _ => True ∧ responseIds response request = .ok ids)
      (.ofExcept (fun _ hids _ _ => ⟨trivial, hids⟩) fun _ _ _ _ => trivial) fun ids => ?_
    refine Triple.assume_eq fun hids => ?_
    refine Triple.bind (Q := fun stop _ => True ∧
      (if i.endpoint = .order then response.orderId.toId else .ok ids.stop) = .ok stop)
      (.ofExcept (fun _ hstop _ _ => ⟨trivial, hstop⟩) fun _ _ _ _ => trivial) fun stop => ?_
    refine Triple.assume_eq fun hstop => ?_
    have hid : c.row.tradeId = i.tradeId := hb
    rw [hid]
    refine Triple.bind (triple_upsert_ids rfl rfl fun _ _ => trivial) fun _ => ?_
    exact .pure fun w hw => ⟨ids, stop, hids, hstop, hw⟩

theorem protectionOfIds_list {n : ℤ} (hn : n ≠ 0) (stop : Option ℤ) :
    protectionOfIds (some n) stop = some (.list n) := by
  have hknown : knownId (some n) = some n := knownId_eq_some.mpr ⟨rfl, hn⟩
  simp [protectionOfIds, hknown]

theorem protectionOfIds_order_iff {list stop : Option ℤ} {n : ℤ} :
    protectionOfIds list stop = some (.order n) ↔ knownId list = none ∧ knownId stop = some n := by
  unfold protectionOfIds
  cases knownId list <;> cases knownId stop <;> simp

/-- The recorded ids name the placed object exactly when the answer was exact. -/
theorem protectionOfIds_eq_placed_iff {endpoint : Endpoint} {response : Response}
    {request : Params} {ids : ResponseIds} {stop : Option ℤ} {p : Protection} (b : Binding)
    (hend : endpoint = .order ∨ endpoint = .orderListOco)
    (hconf : (response.identifier endpoint).truthy = true)
    (hplaced : placedObject endpoint response = some p)
    (hids : responseIds response request = .ok ids)
    (hstop : b.stopFrom endpoint response ids stop) :
    protectionOfIds ids.list stop = some p ↔ b.exact endpoint response request := by
  have hlist := Ident.toId_ok (responseIds_list hids)
  rcases hend with rfl | rfl
  · obtain ⟨n, hn, rfl⟩ : ∃ n, response.orderId = .int n ∧ .order n = p := by
      cases hid : response.orderId <;> simp_all [placedObject, Endpoint.isOrderList, Ident.column]
    have hn0 : n ≠ 0 := by
      rintro rfl
      simp [Response.identifier, Endpoint.isOrderList, hn, Ident.truthy] at hconf
    have hown : response.orderId.toId = .ok (some n) := by
      simp [hn, Ident.toId, Ident.toInt, Except.map, hn0]
    have hnolist : knownId ids.list = none ↔ response.orderListId.truthy = false := by
      rcases hlist with ⟨htruthy, m, hm0, -, hm⟩ | ⟨hfalse, hm⟩
      · simp [hm, knownId, hm0, htruthy]
      · simp [hm, knownId, hfalse]
    rw [protectionOfIds_order_iff, hnolist]
    cases b with
    | direct =>
      have hstop' : ids.stopOr response = .ok stop := hstop
      have hleg : knownId stop = some n ↔
          ∀ ids', responseIds response request = .ok ids' → ∀ m, ids'.stop = some m →
            response.orderId = .int m := by
        constructor
        · intro hk ids' hids' m hm
          rw [hids] at hids'
          cases hids'
          rw [ResponseIds.stopOr, hm] at hstop'
          cases hstop'
          cases (knownId_eq_some.mp hk).1
          exact hn
        · intro hall
          cases hs : ids.stop with
          | none =>
            rw [ResponseIds.stopOr, hs, hown] at hstop'
            cases hstop'
            exact knownId_eq_some.mpr ⟨rfl, hn0⟩
          | some m =>
            have hm := hall ids hids m hs
            rw [hn] at hm
            cases hm
            rw [ResponseIds.stopOr, hs] at hstop'
            cases hstop'
            exact knownId_eq_some.mpr ⟨rfl, hn0⟩
      rw [hleg]
      exact ⟨fun h _ => h, fun h => h rfl⟩
    | converted args c held =>
      have hs : response.orderId.toId = .ok stop := by simpa [stopFrom] using hstop
      have hstop := hs.symm.trans hown
      cases hstop
      have hk : knownId (some n) = some n := knownId_eq_some.mpr ⟨rfl, hn0⟩
      exact ⟨fun h _ => h.1, fun h => ⟨h rfl, hk⟩⟩
  · obtain ⟨n, hn, rfl⟩ : ∃ n, response.orderListId = .int n ∧ .list n = p := by
      cases hid : response.orderListId <;>
        simp_all [placedObject, Endpoint.isOrderList, Ident.column]
    rcases hlist with ⟨-, m, hm0, hm, hid⟩ | ⟨hfalse, -⟩
    · rw [hn] at hm
      cases hm
      rw [hid, protectionOfIds_list hm0]
      have hexact : b.exact .orderListOco response request := by
        cases b <;>
          · intro h
            cases h
      exact ⟨fun _ => hexact, fun _ => rfl⟩
    · have htruthy : response.orderListId.truthy = true := hconf
      rw [hfalse] at htruthy
      cases htruthy

end Binding

/-- The requests a program may make. -/
def Act.postsOnly (p : Post) (γ : Type) : Act γ → Prop
  | .post q => q = p
  | _ => True

/-- `_cancel_protection` makes no other request than the cancel of the recorded protection. -/
theorem cancelProtection_postsOnly {row : TradeRow} {p : Protection} (h : row.protection = some p)
    (symbol : Symbol) :
    (cancelProtection cfg row symbol).All (Act.postsOnly (p.cancel symbol)) := by
  have hask : ∀ {β : Type} (m : Asking β),
      (liftM m : Acting β).All (Act.postsOnly (p.cancel symbol)) :=
    fun m => All.lift (fun _ => trivial) (m.lift fun _ => Fold.ask)
  unfold cancelProtection
  rw [h]
  refine .bind (.perform trivial) fun isNew => ?_
  split
  · refine .bind (.perform trivial) fun _ => .bind (.attempt (.perform rfl)) fun answer => ?_
    split
    · exact .bind (.perform trivial) fun _ => .pure
    · exact .bind (.perform trivial) fun _ => .pure
    · unfold concludeCancel
      refine .bind .ofExcept fun valid => ?_
      split <;> exact .bind (.perform trivial) fun _ => .pure
  · exact hask _

/-- What a run has added to the history was posted as the program allows. -/
theorem run_postsOnly {α : Type} {m : Acting α} {p : Post} (h : m.All (Act.postsOnly p))
    (w : World σ) (n : ℕ) :
    ∀ e ∈ ((m.run (Act.exec env) n w).2).history, e ∈ w.history ∨
    ∀ q r, e.item = .posted q r → q = p := by
  have hkeeps : Keeps (Act.exec env) (fun w' : World σ => ∀ e ∈ w'.history,
      e ∈ w.history ∨ ∀ q r, e.item = .posted q r → q = p) m := by
    refine h.keeps fun a ha w' hw' => ?_
    have hnote : ∀ i : Item, (∀ q r, i = .posted q r → q = p) → ∀ e ∈ (w'.note i).history,
        e ∈ w.history ∨ ∀ q r, e.item = .posted q r → q = p := by
      intro i hi e he
      rcases List.mem_cons.mp he with rfl | he
      · exact .inr hi
      · exact hw' e he
    cases a with
    | fold f =>
      cases f with
      | ask a =>
        cases a with
        | call c =>
          simp only [Act.exec, Fold.exec, Ask.exec]
          split
          · next i hi =>
            refine hnote i fun q r hq => ?_
            have := Call.item?_quiet hi
            simp [hq, Item.quiet] at this
          · exact hw'
        | _ => exact hw'
      | _ => exact hw'
    | prepareIntent d =>
      simp only [Act.exec]
      split <;> exact hw'
    | markIntentSubmitting id =>
      simp only [Act.exec]
      split
      · exact hnote _ fun _ _ hq => by cases hq
      · exact hw'
    | finishIntent id state orderId listId error =>
      simp only [Act.exec]
      split
      · exact hnote _ fun _ _ hq => by cases hq
      · exact hw'
    | upsertTrade id pair f => exact hnote _ fun _ _ hq => by cases hq
    | post q =>
      refine hnote _ fun q' r hq => ?_
      cases hq
      exact ha
  exact hkeeps.run n fun e he => .inl he

/-- After a protection was confirmed and its ids were written, however many events are recorded
and replayed: the recorded protection is the placed object, and a cancel is sent for it and for
nothing else, exactly when the answer of a standalone order named no list. -/
theorem cancel_targets_placed_iff (cfg : Config) (env : Env σ) {i : Intent} {response : Response}
    (request : Params) {p : Protection} (w : World σ) (n : ℕ) (b : Binding)
    (hb : b.ofTrade i.tradeId)
    (hop : i.operation = .protection ∨ i.operation = .partialFillProtection)
    (hend : i.endpoint = .order ∨ i.endpoint = .orderListOco)
    (hconf : (response.identifier i.endpoint).truthy = true)
    (hplaced : placedObject i.endpoint response = some p)
    (hrow : (w.store.trade i.tradeId).isSome = true)
    (hdone : ((b.program cfg i response request).run (Act.exec env) n w).1 = .done ()) :
    (∀ (later : Acting Unit) (k : ℕ), later.All (Act.keepsIds i.tradeId) →
      let w' := (later.run (Act.exec env) k
        ((b.program cfg i response request).run (Act.exec env) n w).2).2
      ∃ row ∈ w'.store.trade i.tradeId, row.protection = some p ∧
        ∀ symbol l, ∀ e ∈ ((cancelProtection cfg row symbol).run (Act.exec env) l w').2.history,
          e ∈ w'.history ∨ ∀ q r, e.item = .posted q r → q = p.cancel symbol) ↔
      b.exact i.endpoint response request := by
  have htriple : Triple (Act.exec env) _ (b.program cfg i response request) _ _ _ :=
    b.triple_program response request hop hb
  have hends := wp_run (htriple w hrow) n
  rw [hdone] at hends
  obtain ⟨ids, stop, hids, hstop, hrec⟩ := hends
  rw [← b.protectionOfIds_eq_placed_iff hend hconf hplaced hids hstop]
  generalize ((b.program cfg i response request).run (Act.exec env) n w).2 = w₁ at hrec
  constructor
  · intro h
    obtain ⟨row, hmem, hp, -⟩ := h (Pure.pure ()) 0 trivial
    have hsome : w₁.store.protection i.tradeId = some row.protection :=
      congrArg (Option.map TradeRow.protection) hmem
    rw [hrec] at hsome
    exact (Option.some.inj hsome).trans hp
  · intro hp later k hlater w'
    rw [hp] at hrec
    have hkept : w'.store.protection i.tradeId = some (some p) :=
      (keeps_protection hlater (some p)).run k hrec
    obtain ⟨row, hmem, hrow'⟩ := Option.map_eq_some_iff.mp hkept
    exact ⟨row, hmem, hrow', fun symbol l => run_postsOnly
      (cancelProtection_postsOnly hrow' symbol) w' l⟩

end bind

namespace StandaloneStop

/-- A trailing stop that was placed alone, with an answer that names no list. -/
def intent : Intent where
  intentId := 1
  operation := .protection
  tradeId := "t1"
  symbol := "BTCUSDT"
  endpoint := .order
  request := { symbol := "BTCUSDT" }
  requestSha256 := 0
  state := .confirmed

def answer : Response where
  orderId := .int 5
  symbol := some "BTCUSDT"
  side := .sell
  status := .new

def world : World Desk where
  store := Store.upsertTrade { data := { symbolPairs := [("BTCUSDT", ⟨"BTC", "USDT"⟩)] } } "t1"
    ⟨"BTC", "USDT"⟩ { lifecycle := some .protectionActive }
  env := {}

end StandaloneStop

open StandaloneStop in
theorem cancel_targets_standalone_stop :
    let w := ((Binding.direct.program Desk.config intent answer intent.request).run
      (Act.exec Desk.env) 20 world).2
    ∃ row ∈ w.store.trade "t1", row.protection = some (.order 5) := by
  have htargets := cancel_targets_placed_iff Desk.config Desk.env intent.request world 20 .direct
      trivial (.inl rfl) (.inl rfl)
    (show (answer.identifier intent.endpoint).truthy = true by decide) rfl rfl (by decide +kernel)
  have hexact : Binding.direct.exact intent.endpoint answer intent.request :=
    fun _ => ⟨rfl, fun ids hids n hn => by cases hids; cases hn⟩
  obtain ⟨row, hrow, hp, -⟩ := htargets.mpr hexact (Pure.pure ()) 0 trivial
  exact ⟨row, hrow, hp⟩

/-- The exchange answers a standalone stop with the list id -1: the next cancel is sent for the
list -1, and the stop stays open. -/
theorem cancel_targets_sentinel_list :
    let w := runSteps Desk.config Desk.env { script := [{ next := [.fill 2 1 0] }] }
      (Desk.opening ++ [Desk.whole (.convert "BTCUSDT" { mode := .trailingOnly }),
        Desk.whole (.emergencyExit "BTCUSDT")])
    (requests w.history).head? = some (.cancelOrderList "BTCUSDT" (-1)) ∧
      ∃ row ∈ w.store.trade "t1", row.stopOrderId = some 5 ∧
        w.env.orders.any (fun o => o.id = 5 && o.list = -1 && o.live) = true := by
  decide +kernel

end SpotSidecar
