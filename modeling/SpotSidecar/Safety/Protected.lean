import SpotSidecar.Exchange.Desk
import SpotSidecar.Safety.Rows
import SpotSidecar.Safety.Writes

/-! What a successful reconciliation says about the protection of the position. -/
namespace SpotSidecar
open Interaction Prog

namespace TradeRow

/-- The lifecycles of a reachable row: what the operations write, and what an approved signal
writes over whatever the row was. -/
def Sane (row : TradeRow) : Prop :=
  row.lifecycle.written = true ∨ row.lifecycle = .signalApproved

/-- The recorded protection is among the open orders and lists of a snapshot. -/
def OpenIn (row : TradeRow) (orders lists : List (Option Ident)) : Prop :=
  (∃ stop, row.stopOrderId = some stop ∧ stop ≠ 0 ∧ some (.int stop) ∈ orders) ∧
    (row.protectionMode ≠ some .trailingOnly →
      (∃ list, row.orderListId = some list ∧ list ≠ 0 ∧ some (.int list) ∈ lists) ∧
      ∃ leg, row.takeProfitOrderId = some leg ∧ leg ≠ 0 ∧ some (.int leg) ∈ orders)

end TradeRow

/-- Every row of the table is sane. -/
def Store.SaneRows (s : Store) : Prop := ∀ id row, s.trade id = some row → row.Sane

theorem Event.proposes_written {e : Event} {l : Lifecycle} (h : e.proposes = some l) :
    l.written = true := by
  unfold proposes at h
  repeat' split at h
  all_goals first | cases h; rfl | cases h

theorem eventUpdates_written {row : TradeRow} {e : Event} {l : Lifecycle}
    (h : (eventUpdates row e).lifecycle = some l) : l.written = true := by
  cases htype : e.eventType <;> simp only [eventUpdates, htype] at h
  · exact Event.proposes_written h
  · cases h
  · cases h

/-- What the old lifecycle and the proposed one have in common, the new one has. -/
theorem Lifecycle.advance_of {p : Lifecycle → Prop} {old : Lifecycle} {new : Option Lifecycle}
    (hold : p old) (hnew : ∀ l, new = some l → p l) : p (old.advance new) := by
  cases new with
  | none => exact hold
  | some l =>
    unfold advance
    dsimp only
    split
    · exact hnew l rfl
    · exact hold

theorem TradeRow.Sane.foldEvents {row : TradeRow} (h : row.Sane) (events : List StoredEvent)
    (now : ℕ) : (foldEvents events now row).Sane := by
  induction events generalizing row with
  | nil => exact h
  | cons e events ih =>
    have hadvanced : (applyEvent row e.event e.key now).Sane :=
      Lifecycle.advance_of (p := fun l => l.written = true ∨ l = .signalApproved) h
        fun _ hl => .inl (eventUpdates_written hl)
    exact ih hadvanced

theorem TradeRow.Sane.set {row : TradeRow} (h : row.Sane) {f : TradeFields} (hf : RowWrite f)
    (now : ℕ) : (row.set f now).Sane := by
  cases hf with
  | lifecycle hl hw =>
    left
    have hset : (row.set f now).lifecycle = f.lifecycle.getD row.lifecycle := rfl
    rw [hset, hl]
    exact hw
  | status hs =>
    subst hs
    exact h

section run
variable {σ : Type} {cfg : Config} {env : Env σ}

theorem saneRows_upsert {w : World σ} (h : w.store.SaneRows) (id : TradeId) (pair : Pair)
    {f : TradeFields} (hset : ∀ row : TradeRow, row.Sane → (row.set f (w.store.clock + 1)).Sane) :
    (Act.exec env _ (.upsertTrade id pair f) w).2.store.SaneRows := by
  intro id' row' hrow'
  change (w.store.upsertTrade id pair f).trade id' = some row' at hrow'
  rw [Store.upsertTrade_trade] at hrow'
  split at hrow'
  · cases hrow'
    cases hr : w.store.trade id with
    | none => exact hset _ (.inr rfl)
    | some row => exact hset row (h id row hr)
  · exact h id' row' hrow'

theorem saneRows_act {γ : Type} (a : Act γ) (ha : a.writing) (w : World σ)
    (h : w.store.SaneRows) : (a.exec env γ w).2.store.SaneRows := by
  by_cases hup : ∃ id, a.upserts id
  · cases a with
    | upsertTrade id pair f => exact saneRows_upsert h id pair fun row hrow => hrow.set ha _
    | _ => exact hup.elim fun _ h => h.elim
  · intro id row' hrow'
    obtain ⟨events, hrow, -⟩ := Act.exec_trade env a w id fun h => hup ⟨id, h⟩
    rw [hrow] at hrow'
    obtain ⟨row, hr, rfl⟩ := Option.map_eq_some_iff.mp hrow'
    exact (h id row hr).foldEvents events _

theorem saneRows_sites : Sites cfg env fun w => w.store.SaneRows :=
  .ofWrites (fun a ha w h => saneRows_act a ha w h) fun id pair _ _ h =>
    saneRows_upsert h id pair fun _ _ => .inr rfl

theorem saneRows_runSteps (cfg : Config) (env : Env σ) (e : σ) (steps : List Step) :
    (runSteps cfg env e steps).store.SaneRows :=
  saneRows_sites.runSteps e steps (fun _ _ h => nomatch h) (fun _ hw => hw) fun _ hw => hw

end run

section ownership

/-- Items that all have a required id are those ids. -/
theorem mapM_required {items : List Ident} {ids : List ℤ}
    (h : items.mapM Ident.required = .ok ids) : items = ids.map .int := by
  induction items generalizing ids with
  | nil =>
    cases h
    rfl
  | cons i items ih =>
    rw [List.mapM_cons] at h
    obtain ⟨n, hn, hrest⟩ := except_bind_eq_ok.mp h
    obtain ⟨ns, hns, heq⟩ := except_bind_eq_ok.mp hrest
    cases heq
    have hi : i = .int n := by
      cases i <;> simp [Ident.required] at hn
      rw [hn]
    rw [List.map_cons, ← ih hns, hi]

theorem mapM_toInt_int (ids : List ℤ) : (ids.map Ident.int).mapM Ident.toInt = .ok ids := by
  induction ids with
  | nil => rfl
  | cons n ids ih =>
    rw [List.map_cons, List.mapM_cons, ih]
    rfl

theorem knownOrderIds_ne_zero {rows : List TradeRow} {n : ℤ} (h : n ∈ knownOrderIds rows) :
    n ≠ 0 := by
  obtain ⟨row, -, hn⟩ := List.mem_flatMap.mp h
  obtain ⟨column, -, hcolumn⟩ := List.mem_filterMap.mp hn
  exact (mem_knownId.mp hcolumn).2

/-- An enumeration that is owned consists of ids, and its orders of nonzero ids. -/
theorem enumerationOwned_ok {rows : List TradeRow} {orders lists : List (Option Ident)}
    (h : enumerationOwned rows orders lists = .ok ()) :
    ∃ ids listIds, openIds orders = .ok ids ∧ openIds lists = .ok listIds ∧
      orders.filterMap id = ids.map .int ∧ lists.filterMap id = listIds.map .int ∧
      ∀ n ∈ ids, n ≠ 0 := by
  unfold enumerationOwned at h
  dsimp only at h
  split at h
  · next ids listIds hids hlists =>
    split at h
    · cases h
    · split at h
      · cases h
      · split at h
        · next hall =>
          have hids' := mapM_required hids
          have hlists' := mapM_required hlists
          refine ⟨ids, listIds, ?_, ?_, hids', hlists', fun n hn => ?_⟩
          · rw [openIds, hids', mapM_toInt_int]
          · rw [openIds, hlists', mapM_toInt_int]
          · simp only [Bool.and_eq_true, List.all_eq_true, decide_eq_true_eq] at hall
            exact knownOrderIds_ne_zero (hall.1 n hn)
        · cases h
  · cases h

theorem mem_of_filterMap_eq {items : List (Option Ident)} {ids : List ℤ}
    (h : items.filterMap id = ids.map .int) {n : ℤ} (hn : n ∈ ids) : some (.int n) ∈ items := by
  have hmem : Ident.int n ∈ items.filterMap id := by
    rw [h]
    exact List.mem_map_of_mem hn
  obtain ⟨x, hx, heq⟩ := List.mem_filterMap.mp hmem
  exact heq ▸ hx

/-- `_durable_protection_is_open` is right about an enumeration that is owned. -/
theorem durableProtectionIsOpen_openIn {rows : List TradeRow} {row : TradeRow}
    {orders lists : List (Option Ident)} (hown : enumerationOwned rows orders lists = .ok ())
    (h : durableProtectionIsOpen row orders lists = .ok true) : row.OpenIn orders lists := by
  obtain ⟨ids, listIds, hids, hlists, horders, hlisted, hne⟩ := enumerationOwned_ok hown
  have hget : ∀ {column : Option ℤ}, column.getD 0 ∈ ids →
      ∃ n, column = some n ∧ n ≠ 0 ∧ some (.int n) ∈ orders := by
    intro column hmem
    cases column with
    | none => exact absurd rfl (hne _ hmem)
    | some n => exact ⟨n, rfl, hne _ hmem, mem_of_filterMap_eq horders hmem⟩
  obtain ⟨_, hids', h⟩ := except_bind_eq_ok.mp h
  cases hids.symm.trans hids'
  obtain ⟨_, hlists', h⟩ := except_bind_eq_ok.mp h
  cases hlists.symm.trans hlists'
  dsimp only at h
  split at h
  · next hmode =>
    have hstop : row.stopOrderId.getD 0 ≠ 0 ∧ row.stopOrderId.getD 0 ∈ ids := by
      simpa using Except.ok.inj h
    exact ⟨hget hstop.2, fun hne => absurd hmode hne⟩
  · have hall : ((row.orderListId.getD 0 ≠ 0 ∧ row.orderListId.getD 0 ∈ listIds) ∧
        row.stopOrderId.getD 0 ∈ ids) ∧ row.takeProfitOrderId.getD 0 ∈ ids := by
      simpa using Except.ok.inj h
    obtain ⟨⟨⟨hne0, hlist⟩, hstop⟩, hleg⟩ := hall
    refine ⟨hget hstop, fun _ => ⟨?_, hget hleg⟩⟩
    cases hid : row.orderListId with
    | none => simp [hid] at hne0
    | some n =>
      rw [hid] at hne0 hlist
      exact ⟨n, rfl, hne0, mem_of_filterMap_eq hlisted hlist⟩

/-- A lifecycle that `_reconciled_ownership` judges: not AMBIGUOUS, and where it is
SIGNAL_APPROVED, nothing is recorded as held. -/
def TradeRow.Known (row : TradeRow) : Prop :=
  row.lifecycle ≠ .ambiguous ∧ (row.lifecycle = .signalApproved → row.recorded = 0)

/-- A position that `_reconciled_ownership` accepts is protected, where its row is known. -/
theorem ownedTrade_openIn {row : TradeRow} {orders lists : List (Option Ident)} {total step : ℚ}
    (hsane : row.Sane) (hactive : row.lifecycle.terminal = false)
    (hknown : row.Known) {rows : List TradeRow}
    (hown : enumerationOwned rows orders lists = .ok ())
    (hok : ownedTrade row orders lists total step = .ok (.ok ()))
    (hpos : 0 < floorStep total step) : row.OpenIn orders lists := by
  unfold ownedTrade at hok
  dsimp only at hok
  split at hok
  · cases hok
  · split at hok
    · cases hok
    · next hbounds =>
      split at hok
      · cases hok
      · next hpartial =>
        split at hok
        · cases hok
        · next hsubmitted =>
          split at hok
          · obtain ⟨isOpen, hisOpen, hrest⟩ := except_bind_eq_ok.mp hok
            cases isOpen with
            | false => cases hrest
            | true => exact durableProtectionIsOpen_openIn hown hisOpen
          · next hstate =>
            exfalso
            rcases hsane with hwritten | hsignal
            · have hambiguous := hknown.1
              cases hl : row.lifecycle <;> simp_all [Lifecycle.written, Lifecycle.terminal,
                Lifecycle.protectionState]
            · -- nothing is recorded, so nothing may be held
              rw [hknown.2 hsignal, floorStep_zero] at hbounds
              exact hbounds (.inl hpos)

end ownership

section snapshot
variable {σ α β γ : Type} {cfg : Config} {env : Env σ}

def Item.openOrders? : Item → Option (List (Option Ident))
  | .gotOpenOrders _ items => some items
  | _ => none

def Item.openOrderLists? : Item → Option (List (Option Ident))
  | .gotOpenOrderLists items => some items
  | _ => none

def Item.symbolInfo? : Item → Option SymbolInfo
  | .gotSymbolInfo info => some info
  | _ => none

/-- The last thing of a kind in a history. -/
def latest (p : Item → Option β) (h : List Entry) : Option β := h.findSome? fun e => p e.item

/-- What the exchange has answered last about the account and the rules of the symbol. -/
structure Snapshot (h : List Entry) (orders lists : List (Option Ident)) (balances : Balances)
    (info : SymbolInfo) : Prop where
  orders : latest Item.openOrders? h = some orders
  lists : latest Item.openOrderLists? h = some lists
  balances : latest Item.balances? h = some balances
  info : latest Item.symbolInfo? h = some info

/-- Questions whose answers are of another kind. -/
def Ask.silent (p : Item → Option β) (γ : Type) : Ask γ → Prop
  | .call c => ∀ r i, c.item? r = some i → p i = none
  | _ => True

theorem Ask.exec_latest {p : Item → Option β} (a : Ask γ) (ha : a.silent p) (w : World σ) :
    latest p (a.exec env γ w).2.history = latest p w.history := by
  cases a with
  | call c =>
    simp only [Ask.exec]
    split
    · next i hi => simp [latest, World.note, ha _ i hi]
    · rfl
  | _ => rfl

/-- The last thing of a kind that is not asked for stays. -/
theorem keeps_latest (env : Env σ) {p : Item → Option β} {m : Asking α} (hm : m.All (Ask.silent p))
    (R : Option β → Prop) : Keeps (Ask.exec env) (fun w => R (latest p w.history)) m :=
  hm.keeps fun a ha w hw => by
    rw [Ask.exec_latest a ha w]
    exact hw

theorem triple_call_latest (c : Call γ) (p : Item → Option β) {g : γ → Option β}
    (hc : ∀ a b, g a = some b → ∃ i, c.item? (.ok a) = some i ∧ p i = some b) (t : List TradeRow) :
    Triple (Ask.exec env) (fun w => w.store.trades = t) (call c)
      (fun a w => w.store.trades = t ∧ ∀ b, g a = some b → latest p w.history = some b)
      (fun _ w => w.store.trades = t) (fun _ => True) := by
  refine Triple.perform (fun _ _ => trivial) (fun w a w' hw heq => ?_) fun w e w' hw heq => ?_
  · have htrades := (Ask.exec_cases env (.call c) w).1
    rw [heq] at htrades
    refine ⟨htrades.trans hw, fun b hb => ?_⟩
    obtain ⟨i, hi, hp⟩ := hc a b hb
    simp only [Ask.exec, Prod.mk.injEq] at heq
    obtain ⟨hanswer, rfl⟩ := heq
    rw [hanswer, hi]
    simp [latest, World.note, hp]
  · have htrades := (Ask.exec_cases env (.call c) w).1
    rw [heq] at htrades
    exact htrades.trans hw

/-- Questions keep the trades; nothing is said about a crash. -/
theorem triple_ask (m : Asking α) (t : List TradeRow) :
    Triple (Ask.exec env) (fun w => w.store.trades = t) m (fun _ w => w.store.trades = t)
      (fun _ w => w.store.trades = t) (fun _ => True) :=
  (keeps_trades m t).conseq (fun _ hw => hw) (fun _ _ hw => hw) (fun _ _ hw => hw)
    fun _ _ => trivial

theorem triple_silent {p : Item → Option β} {m : Asking α} (hm : m.All (Ask.silent p))
    (t : List TradeRow) (x : Option β) :
    Triple (Ask.exec env) (fun w => w.store.trades = t ∧ latest p w.history = x) m
      (fun _ w => w.store.trades = t ∧ latest p w.history = x) (fun _ w => w.store.trades = t)
      (fun _ => True) :=
  ((keeps_trades m t).and (keeps_latest env hm (· = x))).conseq (fun _ hw => hw) (fun _ _ hw => hw)
    (fun _ _ hw => hw.1) fun _ _ => trivial

theorem triple_rulesOf (pair : Pair) (t : List TradeRow) :
    Triple (Ask.exec env) (fun w => w.store.trades = t) (rulesOf cfg pair)
      (fun rules w => w.store.trades = t ∧
        ∃ info, latest Item.symbolInfo? w.history = some info ∧ rules.step = info.stepSize)
      (fun _ w => w.store.trades = t) (fun _ => True) := by
  unfold rulesOf
  refine Triple.bind (triple_ask _ t) fun _ => ?_
  refine Triple.bind (triple_call_latest (.symbolInfo pair.symbol) Item.symbolInfo? (g := some)
    (fun a b hb => ⟨_, rfl, hb⟩) t) fun info => ?_
  have hsilent : (validateExchangeSymbol pair info).All (Ask.silent Item.symbolInfo?) := by
    unfold validateExchangeSymbol
    exact .bind .ensure fun _ => .bind .ensure fun _ => .bind .ensure fun _ =>
      .bind .ensure fun _ => .ensure
  refine Triple.bind ((triple_silent hsilent t (some info)).weaken
    fun w hw => ⟨hw.1, hw.2 info rfl⟩) fun _ => ?_
  split
  · exact .pure fun w hw => ⟨hw.1, info, hw.2, rfl⟩
  · exact .raise fun w hw => hw.1

/-- What acceptance by `_reconciled_ownership` proves of the position in a store. -/
def Accepted (s : Store) (orders lists : List (Option Ident)) (balances : Balances)
    (info : SymbolInfo) : Prop :=
  (∀ row ∈ s.activeTradeRows, row.Known) →
    0 < floorStep (totalOf balances "BTC") info.stepSize →
    ∃ row, s.activeTradeRows = [row] ∧ row.OpenIn orders lists

theorem triple_judgeBalance (s : Store) (hs : s.SaneRows) {orders lists : List (Option Ident)}
    (balances : Balances) (active : Pair) (hlength : ¬1 < s.activeTradeRows.length)
    (hown : enumerationOwned s.activeTradeRows orders lists = .ok ()) :
    Triple (Ask.exec env) (fun w => w.store.trades = s.trades)
      (judgeBalance cfg active s.activeTradeRows orders lists balances)
      (fun r w => w.store.trades = s.trades ∧ (r = .ok () →
        ∃ info, latest Item.symbolInfo? w.history = some info ∧
        Accepted s orders lists balances info))
      (fun _ w => w.store.trades = s.trades) (fun _ => True) := by
  unfold judgeBalance
  refine Triple.bind (triple_ask _ _) fun _ => ?_
  refine Triple.bind (triple_rulesOf _ _) fun rules => ?_
  cases hrows : s.activeTradeRows with
  | nil =>
    refine .pure fun w hw => ⟨hw.1, fun hok => ?_⟩
    obtain ⟨info, hinfo, hstep⟩ := hw.2
    refine ⟨info, hinfo, fun _ hpos => ?_⟩
    rw [hstep, if_pos hpos] at hok
    cases hok
  | cons row rest =>
    have hrest : rest = [] := by
      rw [hrows, List.length_cons] at hlength
      exact List.length_eq_zero_iff.mp (by omega)
    subst hrest
    refine .ofExcept (fun r hr w hw => ⟨hw.1, fun hok => ?_⟩) fun _ _ w hw => hw.1
    obtain ⟨info, hinfo, hstep⟩ := hw.2
    refine ⟨info, hinfo, fun hknown hpos => ⟨row, hrows, ?_⟩⟩
    have hmem : row ∈ s.activeTradeRows := hrows ▸ List.mem_cons_self ..
    obtain ⟨hrow, hactive⟩ := mem_activeTradeRows.mp hmem
    rw [hok, hstep] at hr
    exact ownedTrade_openIn (hs _ _ (Store.trade_of_mem hrow)) hactive
      (hknown row hmem) hown hr hpos

/-- What `_reconciled_ownership` proves when it accepts. -/
theorem triple_reconciledOwnership (s : Store) (hs : s.SaneRows)
    (orders lists : List (Option Ident)) (balances : Balances) :
    Triple (Ask.exec env) (fun w => w.store.trades = s.trades)
      (reconciledOwnership cfg orders lists balances)
      (fun r w => w.store.trades = s.trades ∧ (r = .ok () →
        ∃ info, latest Item.symbolInfo? w.history = some info ∧
        Accepted s orders lists balances info))
      (fun _ _ => True) (fun _ => True) := by
  have hno : ∀ reason : String, Triple (Ask.exec env) (fun w => w.store.trades = s.trades)
      (Pure.pure (.error reason) : Asking (Except String Unit))
      (fun r w => w.store.trades = s.trades ∧ (r = .ok () →
        ∃ info, latest Item.symbolInfo? w.history = some info ∧
        Accepted s orders lists balances info))
      (fun _ _ => True) (fun _ => True) :=
    fun reason => .pure fun w hw => ⟨hw, fun h => nomatch h⟩
  unfold reconciledOwnership
  refine Triple.bind (Q := fun s' w => w.store.trades = s.trades ∧ s'.trades = s.trades)
    (fun w hw => ⟨trivial, hw, hw⟩) fun s' => Triple.assume_eq fun hs' => ?_
  rw [activeTradeRows_congr hs']
  dsimp only
  split
  · exact hno _
  · next hlength =>
    refine Triple.bind ((triple_ask _ _).conseq (fun _ hw => hw) (fun _ _ hw => hw)
      (fun _ _ _ => trivial) fun _ hw => hw) fun active => ?_
    split
    · exact hno _
    · split
      · exact hno _
      · next hown =>
        refine Triple.handle (triple_judgeBalance s hs balances active hlength hown) fun e => ?_
        split
        · exact hno _
        · exact .raise fun _ _ => trivial

/-- An enumeration and what it leaves as the last of its kind. -/
theorem triple_enumerate (c : Call (Option (List (Option Ident))))
    (p : Item → Option (List (Option Ident)))
    (hc : ∀ items, ∃ i, c.item? (.ok (some items)) = some i ∧ p i = some items)
    (t : List TradeRow) :
    Triple (Ask.exec env) (fun w => w.store.trades = t) (enumerate c)
      (fun r w => w.store.trades = t ∧ ∀ items, r = some items → latest p w.history = some items)
      (fun _ w => w.store.trades = t) (fun _ => True) := by
  unfold enumerate
  refine Triple.bind (Q := fun r w => w.store.trades = t ∧
    ∀ items, r = .ok (some items) → latest p w.history = some items) ?_ fun r => ?_
  · refine Triple.attempt ((triple_call_latest c p (g := id) ?_ t).conseq (fun _ hw => hw) ?_ ?_
      fun _ _ => trivial)
    · rintro a b rfl
      exact hc b
    · exact fun a w hw => ⟨hw.1, fun items h => hw.2 items (Except.ok.inj h)⟩
    · exact fun _ w hw => ⟨hw, fun _ h => nomatch h⟩
  · cases r with
    | ok items =>
      refine .pure fun w hw => ⟨hw.1, fun items' h => ?_⟩
      subst h
      exact hw.2 items' rfl
    | error e => exact .pure fun w hw => ⟨hw.1, fun _ h => nomatch h⟩

theorem triple_enumerateBalances (t : List TradeRow) :
    Triple (Ask.exec env) (fun w => w.store.trades = t) enumerateBalances
      (fun r w => w.store.trades = t ∧
        ∀ balances, r = some balances → latest Item.balances? w.history = some balances)
      (fun _ w => w.store.trades = t) (fun _ => True) := by
  unfold enumerateBalances accountBalances
  refine Triple.bind (Q := fun r w => w.store.trades = t ∧
    ∀ balances, r = .ok balances → latest Item.balances? w.history = some balances) ?_ fun r => ?_
  · refine Triple.attempt
      (Triple.bind ((triple_call_latest .account Item.balances? (g := id) ?_ t).conseq
      (fun _ hw => hw) (fun _ _ hw => hw) ?_ fun _ _ => trivial) fun account => ?_)
    · rintro a b rfl
      exact ⟨_, rfl, rfl⟩
    · exact fun _ w hw => ⟨hw, fun _ h => nomatch h⟩
    · cases account with
      | none => exact .raise fun w hw => ⟨hw.1, fun _ h => nomatch h⟩
      | some balances =>
        refine .pure fun w hw => ⟨hw.1, fun balances' h => ?_⟩
        cases h
        exact hw.2 _ rfl
  · cases r with
    | ok balances =>
      refine .pure fun w hw => ⟨hw.1, fun balances' h => ?_⟩
      cases h
      exact hw.2 _ rfl
    | error e => exact .pure fun w hw => ⟨hw.1, fun _ h => nomatch h⟩

theorem silent_call {p : Item → Option β} (c : Call γ)
    (h : ∀ r i, c.item? r = some i → p i = none) : (call c).All (Ask.silent p) :=
  .perform h

/-- Questions that leave no trace in the history. -/
def Ask.mute (γ : Type) : Ask γ → Prop
  | .call c => ∀ r, c.item? r = none
  | _ => True

theorem keeps_history {m : Asking α} (hm : m.All Ask.mute) (h : List Entry) :
    Keeps (Ask.exec env) (fun w => w.history = h) m := by
  refine hm.keeps fun a ha w hw => ?_
  cases a with
  | call c =>
    simp only [Ask.exec]
    rw [ha]
    exact hw
  | _ => exact hw

theorem mute_recordVerdict (r : Reconciliation) : (recordVerdict r).All Ask.mute := by
  have hpause : (pause "reconciliation-failed").All Ask.mute := by
    unfold pause setMemory theMemory setEntries theStore
    refine .bind (.bind (.perform trivial) fun _ => .perform trivial) fun _ => ?_
    refine .bind (.bind (.perform trivial) fun _ => .perform trivial) fun _ => ?_
    exact .bind (.attempt (.perform fun _ => rfl)) fun _ => .pure
  unfold recordVerdict setData theStore
  refine .bind (.perform fun _ => rfl) fun _ => ?_
  refine .bind (.bind (.perform trivial) fun _ => .perform trivial) fun _ => ?_
  split
  · exact hpause
  · exact .pure

/-- Judging asks for the rules only. -/
theorem silent_ownershipEndpoint {p : Item → Option β} (hp : ∀ info, p (.gotSymbolInfo info) = none)
    (orders lists : Option (List (Option Ident))) (balances : Option Balances) :
    (ownershipEndpoint cfg orders lists balances).All (Ask.silent p) := by
  have hinfo : ∀ (symbol : Symbol) r i, (Call.symbolInfo symbol).item? r = some i → p i = none := by
    intro symbol r i hi
    obtain ⟨info, -, rfl⟩ := Option.map_eq_some_iff.mp hi
    exact hp info
  have hrules : ∀ pair, (rulesOf cfg pair).All (Ask.silent p) := by
    intro pair
    unfold rulesOf canonicalPair validateExchangeSymbol
    refine .bind (.bind .ensure fun _ => .ensure) fun _ =>
      .bind (silent_call _ (hinfo _)) fun info => ?_
    refine .bind (.bind .ensure fun _ => .bind .ensure fun _ => .bind .ensure fun _ =>
      .bind .ensure fun _ => .ensure) fun _ => ?_
    split
    · exact .pure
    · exact .raise
  unfold ownershipEndpoint
  split
  · unfold reconciledOwnership theStore
    refine .bind (.perform trivial) fun s => ?_
    dsimp only
    split
    · exact .pure
    · refine .bind (silent_call _ fun _ _ h => nomatch h) fun active => ?_
      split
      · exact .pure
      · split
        · exact .pure
        · refine .handle ?_ fun e => ?_
          · unfold judgeBalance
            refine .bind .ensure fun _ => .bind (hrules _) fun rules => ?_
            split
            · exact .pure
            · exact .ofExcept
          · split
            · exact .pure
            · exact .raise
  · exact .pure

/-- Everything that a positive verdict rests on. -/
def Verified (s : Store) (h : List Entry) : Prop :=
  ∃ orders lists balances info, Snapshot h orders lists balances info ∧
    Accepted s orders lists balances info

theorem triple_ownershipEndpoint (s : Store) (hs : s.SaneRows)
    (orders lists : Option (List (Option Ident))) (balances : Option Balances) :
    Triple (Ask.exec env)
      (fun w => w.store.trades = s.trades ∧
        (∀ x, orders = some x → latest Item.openOrders? w.history = some x) ∧
        (∀ x, lists = some x → latest Item.openOrderLists? w.history = some x) ∧
        ∀ x, balances = some x → latest Item.balances? w.history = some x)
      (ownershipEndpoint cfg orders lists balances)
      (fun r w => w.store.trades = s.trades ∧ (r = .ok () → Verified s w.history))
      (fun _ _ => True) (fun _ => True) := by
  have hno : Triple (Ask.exec env) (fun w => w.store.trades = s.trades ∧
        (∀ x, orders = some x → latest Item.openOrders? w.history = some x) ∧
        (∀ x, lists = some x → latest Item.openOrderLists? w.history = some x) ∧
        ∀ x, balances = some x → latest Item.balances? w.history = some x)
      (Pure.pure (.error "authenticated ownership enumeration is incomplete") :
        Asking (Except String Unit))
      (fun r w => w.store.trades = s.trades ∧ (r = .ok () → Verified s w.history))
      (fun _ _ => True) (fun _ => True) :=
    .pure fun w hw => ⟨hw.1, fun h => nomatch h⟩
  have hkeeps : ∀ {β : Type} (p : Item → Option β) (R : Option β → Prop),
      (∀ info, p (.gotSymbolInfo info) = none) → Keeps (Ask.exec env)
        (fun w => R (latest p w.history)) (ownershipEndpoint cfg orders lists balances) :=
    fun p R hp => keeps_latest env (silent_ownershipEndpoint hp orders lists balances) R
  have horders := hkeeps Item.openOrders? (fun x => ∀ y, orders = some y → x = some y) fun _ => rfl
  have hlists :=
    hkeeps Item.openOrderLists? (fun x => ∀ y, lists = some y → x = some y) fun _ => rfl
  have hbalances :=
    hkeeps Item.balances? (fun x => ∀ y, balances = some y → x = some y) fun _ => rfl
  cases orders with
  | none => exact hno
  | some orders =>
    cases lists with
    | none => exact hno
    | some lists =>
      cases balances with
      | none => exact hno
      | some balances =>
        have hjudge :
            Triple (Ask.exec env) _ (reconciledOwnership cfg orders lists balances) _ _ _ :=
          triple_reconciledOwnership s hs orders lists balances
        refine (hjudge.and (horders.and (hlists.and hbalances))).conseq (fun _ hw => hw) ?_
          (fun _ _ _ => trivial) fun _ _ => trivial
        rintro r w ⟨⟨htrades, hok⟩, ho, hl, hb⟩
        refine ⟨htrades, fun hr => ?_⟩
        obtain ⟨info, hinfo, haccepted⟩ := hok hr
        exact ⟨orders, lists, balances, info, ⟨ho _ rfl, hl _ rfl, hb _ rfl, hinfo⟩, haccepted⟩

theorem triple_askStore {P C : World σ → Prop} {E : Exc → World σ → Prop} (hC : ∀ w, P w → C w) :
    Triple (Ask.exec env) P theStore (fun s w => P w ∧ s = w.store) E C :=
  fun w hw => ⟨hC w hw, hw, rfl⟩

/-- The verdict is reached on the answers that are the last in the history when it is reached. -/
theorem triple_judgeAccount (s : Store) (hs : s.SaneRows)
    (resolved emergency stale partials : Bool) :
    Triple (Ask.exec env) (fun w => w.store.trades = s.trades)
      (judgeAccount cfg resolved emergency stale partials)
      (fun r w => w.store.trades = s.trades ∧ (r.ok = true → Verified s w.history))
      (fun _ _ => True) (fun _ => True) := by
  have hlisting :
      ∀ {p : Item → Option (List (Option Ident))} (c : Call (Option (List (Option Ident)))),
      (∀ r i, c.item? r = some i → p i = none) → (enumerate c).All (Ask.silent p) := by
    intro p c hc
    unfold enumerate
    refine .bind (.attempt (silent_call c hc)) fun r => ?_
    split <;> exact .pure
  have hbalances : ∀ {p : Item → Option (List (Option Ident))},
      (∀ balances, p (.gotAccount balances) = none) → enumerateBalances.All (Ask.silent p) := by
    intro p hp
    unfold enumerateBalances accountBalances
    refine .bind (.attempt (.bind (silent_call _ fun r i hi => ?_) fun account => ?_)) fun r => ?_
    · obtain ⟨balances, -, rfl⟩ := Option.map_eq_some_iff.mp hi
      exact hp balances
    · split
      · exact .pure
      · exact .raise
    · split <;> exact .pure
  unfold judgeAccount
  refine Triple.bind ((triple_enumerate (.openOrders none) Item.openOrders?
    (fun items => ⟨_, rfl, rfl⟩) _).conseq (fun _ hw => hw) (fun _ _ hw => hw)
      (fun _ _ _ => trivial)
    fun _ hw => hw) fun orders => ?_
  have horders := keeps_latest env (hlisting (p := Item.openOrders?) .openOrderLists
    fun r i hi => by
      obtain ⟨items, -, rfl⟩ := Option.map_eq_some_iff.mp hi
      rfl) fun x => ∀ y, orders = some y → x = some y
  refine Triple.bind (((triple_enumerate .openOrderLists Item.openOrderLists?
    (fun items => ⟨_, rfl, rfl⟩) _).and horders).conseq (fun _ hw => hw) (fun _ _ hw => hw)
    (fun _ _ _ => trivial) fun _ hw => trivial) fun lists => ?_
  have hkeep := (keeps_latest env (hbalances (p := Item.openOrders?) fun _ => rfl)
      fun x => ∀ y, orders = some y → x = some y).and
    (keeps_latest env (hbalances (p := Item.openOrderLists?) fun _ => rfl)
      fun x => ∀ y, lists = some y → x = some y)
  refine Triple.bind (((triple_enumerateBalances s.trades).and hkeep).conseq
    (fun _ hw => ⟨hw.1.1, hw.2, hw.1.2⟩) (fun _ _ hw => hw) (fun _ _ _ => trivial)
    fun _ hw => trivial) fun balances => ?_
  refine Triple.bind (triple_askStore fun _ _ => trivial) fun s' => ?_
  refine Triple.bind ((triple_ownershipEndpoint s hs orders lists balances).weaken
    fun w hw => ⟨hw.1.1.1, hw.1.2.1, hw.1.2.2, hw.1.1.2⟩) fun ownership => ?_
  dsimp only
  have hverdict : ∀ r h, Triple (Ask.exec env) _ (recordVerdict r) _ _ _ := fun r h =>
    (keeps_trades (recordVerdict r) s.trades).and (keeps_history (mute_recordVerdict r) h)
  refine Triple.bind (Q := fun _ w => w.store.trades = s.trades ∧
    (ownership = .ok () → Verified s w.history)) ?_ fun _ => ?_
  · refine Triple.assume fun w hw => ?_
    refine (hverdict _ w.history).conseq ?_ ?_ (fun _ _ _ => trivial) fun _ _ => trivial
    · rintro _ rfl
      exact ⟨hw.1, rfl⟩
    · rintro _ w' ⟨htrades, hhistory⟩
      exact ⟨htrades, fun hok => hhistory ▸ hw.2 hok⟩
  · refine .pure fun w hw => ⟨hw.1, fun hok => hw.2 ?_⟩
    simp only [Reconciliation.ok, Bool.and_eq_true] at hok
    cases ownership with
    | ok u => rfl
    | error reason => cases hok.2

theorem Verified.congr {s s' : Store} {h : List Entry} (hs : s'.trades = s.trades)
    (hv : Verified s h) : Verified s' h := by
  obtain ⟨orders, lists, balances, info, hsnapshot, haccepted⟩ := hv
  refine ⟨orders, lists, balances, info, hsnapshot, ?_⟩
  unfold Accepted
  rw [activeTradeRows_congr hs]
  exact haccepted

/-- `verified_reconcile` from a store with sane rows. -/
theorem triple_verifiedReconcile (cfg : Config) (env : Env σ) :
    Triple (Act.exec env) (fun w => w.store.SaneRows) (verifiedReconcile cfg)
      (fun r w => r.ok = true → Verified w.store w.history) (fun _ _ => True) (fun _ => True) := by
  have hkeep : ∀ {β : Type} (m : Acting β), Keeps (Act.exec env) (fun w => w.store.SaneRows) m →
      Triple (Act.exec env) (fun w => w.store.SaneRows) m (fun _ w => w.store.SaneRows)
        (fun _ _ => True) (fun _ => True) :=
    fun m h => h.conseq (fun _ hw => hw) (fun _ _ hw => hw) (fun _ _ _ => trivial)
      fun _ _ => trivial
  have hsites : Sites cfg env fun w => w.store.SaneRows := saneRows_sites
  unfold verifiedReconcile
  refine Triple.bind (hkeep _ hsites.resolveOperationIntents) fun resolution => ?_
  refine Triple.bind (hkeep _ (hsites.folding _)) fun _ => ?_
  refine Triple.bind (hkeep _ hsites.reconcileConfirmedEmergencyExits) fun emergency => ?_
  refine Triple.bind (hkeep _ (hsites.asking _)) fun s => ?_
  refine Triple.bind (hkeep _ (Keeps.each fun row _ => hsites.controlStaleEntry row))
    fun stale => ?_
  refine Triple.bind (hkeep _ (hsites.asking _)) fun m => ?_
  refine Triple.bind (hkeep _ (Keeps.each fun symbol _ => hsites.recoverPartial symbol))
    fun partials => ?_
  refine Triple.assume fun w hw => ?_
  have hjudge : Triple (Ask.exec env) _ (judgeAccount cfg _ _ _ _) _ _ _ :=
    triple_judgeAccount w.store hw (resolution.remaining = 0) emergency (stale.all id)
      (partials.all id)
  refine (Triple.lift (fun _ _ => rfl) (Triple.lift (fun _ _ => rfl) hjudge)).conseq ?_ ?_
    (fun _ _ _ => trivial) fun _ _ => trivial
  · rintro _ rfl
    rfl
  · intro r w' hw' hok
    exact (hw'.2 hok).congr hw'.1

end snapshot

/-- Whenever a reconciliation from a reachable store succeeds over a position that can be sold,
and every open row is known when the account is judged, exactly one row is open, and the
exchange shows its recorded protection working. -/
theorem reconciled_protected {σ : Type} (cfg : Config) (env : Env σ) (e : σ) (steps : List Step)
    (n : ℕ) {w w' : World σ} {r : Reconciliation}
    (hreached : w.store = (runSteps cfg env e steps).store)
    (hrun : (verifiedReconcile cfg).run (Act.exec env) n w = (.done r, w')) (hok : r.ok = true)
    (hknown : ∀ row ∈ w'.store.activeTradeRows, row.Known) :
    ∃ orders lists balances info, Snapshot w'.history orders lists balances info ∧
      (0 < floorStep (totalOf balances "BTC") info.stepSize →
        ∃ row, w'.store.activeTradeRows = [row] ∧ row.OpenIn orders lists) := by
  have hsane : w.store.SaneRows := by
    rw [hreached]
    exact saneRows_runSteps cfg env e steps
  have hends := wp_run (triple_verifiedReconcile cfg env w hsane) n
  rw [hrun] at hends
  obtain ⟨orders, lists, balances, info, hsnapshot, haccepted⟩ := hends hok
  exact ⟨orders, lists, balances, info, hsnapshot, haccepted hknown⟩

/-- A reconciliation at the desk after some steps. -/
def Desk.reconcile (desk : Desk) (steps : List Step) : Outcome Exc Reconciliation × World Desk :=
  (verifiedReconcile config).run (Act.exec env) 10000 (runSteps config env desk steps)

/-- A reconciliation that ended and succeeded. -/
def succeeded : Outcome Exc Reconciliation → Bool
  | .done r => r.ok
  | _ => false

theorem exists_of_succeeded {o : Outcome Exc Reconciliation} (h : succeeded o = true) :
    ∃ r, o = .done r ∧ r.ok = true := by
  cases o with
  | done r => exact ⟨r, rfl, h⟩
  | raised e => cases h
  | crashed => cases h

theorem reconciled_protected_opening :
    let w := (Desk.reconcile { script := [{ next := [.fill 2 1 0] }] } Desk.opening).2
    w.store.activeTradeRows.map (·.lifecycle) = [.protectionActive] ∧
      ∃ orders lists balances info, Snapshot w.history orders lists balances info ∧
        (0 < floorStep (totalOf balances "BTC") info.stepSize →
          ∃ row, w.store.activeTradeRows = [row] ∧ row.OpenIn orders lists) := by
  have hrows : (Desk.reconcile { script := [{ next := [.fill 2 1 0] }] }
      Desk.opening).2.store.activeTradeRows.map (·.lifecycle) = [.protectionActive] := by
    decide +kernel
  have hsucceeded : succeeded (Desk.reconcile { script := [{ next := [.fill 2 1 0] }] }
      Desk.opening).1 = true := by
    decide +kernel
  obtain ⟨r, hdone, hok⟩ := exists_of_succeeded hsucceeded
  refine ⟨hrows, reconciled_protected Desk.config Desk.env
    { script := [{ next := [.fill 2 1 0] }] } Desk.opening 10000 rfl (Prod.ext hdone rfl) hok ?_⟩
  intro row hrow
  have hmem := List.mem_map_of_mem (f := (·.lifecycle)) hrow
  rw [hrows, List.mem_singleton] at hmem
  rw [TradeRow.Known, hmem]
  exact ⟨by decide, fun h => nomatch h⟩

/-- The protection of a trade is canceled for a conversion, and the exchange refuses the
replacement: the next reconciliation succeeds over a position that nothing protects. -/
theorem reconciled_protected_refused :
    let o := Desk.reconcile
      { script := [{ next := [.fill 2 1 0] }, {}, { manner := .refused }] }
      (Desk.opening ++ [Desk.whole (.convert "BTCUSDT" { mode := .trailingOnly })])
    succeeded o.1 = true ∧
      Snapshot o.2.history [] [] [("BTC", 1, 0), ("USDT", 999900, 0)] Desk.info ∧
      0 < floorStep (totalOf [("BTC", 1, 0), ("USDT", 999900, 0)] "BTC") Desk.info.stepSize ∧
      ¬∃ row, o.2.store.activeTradeRows = [row] ∧ row.OpenIn [] [] := by
  intro o
  refine ⟨by decide +kernel, ⟨by decide +kernel, by decide +kernel, by decide +kernel,
    by decide +kernel⟩, by decide +kernel, ?_⟩
  rintro ⟨row, -, ⟨stop, -, -, hopen⟩, -⟩
  cases hopen

end SpotSidecar
