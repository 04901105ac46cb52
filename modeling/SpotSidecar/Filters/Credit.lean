import Mathlib.Algebra.Order.BigOperators.Group.List
import SpotSidecar.Filters.Soundness

/-! The capacity limits after an accepted replacement, and when what it replaces is rightly
credited. -/
namespace SpotSidecar.Filters

/-- An order that is open at the exchange. -/
structure OpenOrder where
  symbol : Symbol
  id : ℤ
  type : OrderType
  side : Side
  origQty : ℚ
  executedQty : ℚ := 0
  deriving DecidableEq, Repr

def OpenOrder.report (o : OpenOrder) : Report where
  orderId := .int o.id
  symbol := some o.symbol
  side := o.side
  type := o.type
  origQty := .num o.origQty
  executedQty := .num o.executedQty

structure OpenList where
  symbol : Symbol
  id : ℤ
  deriving DecidableEq, Repr

/-- What is open at the exchange, and the balance of the base asset. -/
structure Account where
  orders : List OpenOrder := []
  lists : List OpenList := []
  balance : ℚ := 0
  deriving DecidableEq, Repr

/-- The account is such as an exchange has it. -/
structure Account.Proper (a : Account) : Prop where
  ids : ∀ o ∈ a.orders, 0 < o.id
  executed : ∀ o ∈ a.orders, 0 ≤ o.executedQty ∧ o.executedQty ≤ o.origQty

/-- Whatever rows the callables answer are those of the account. -/
structure Providers.Truthful (p : Providers) (a : Account) (symbol : Symbol) (asset : Asset) :
    Prop where
  openOrders : ∀ rows, p.openOrders = some (.ok (.ok rows)) →
    rows = (a.orders.filter (·.symbol = symbol)).map OpenOrder.report
  allOpenOrders : ∀ rows, p.allOpenOrders = some (.ok (.ok rows)) →
    rows = a.orders.map OpenOrder.report
  openOrderLists : ∀ rows, p.openOrderLists = some (.ok (.ok rows)) →
    rows = a.lists.map fun l => { symbol := l.symbol }
  account : ∀ rows, p.account = some (.ok (.ok rows)) → ∃ free locked,
    rows.filter (·.asset = asset) = [{ asset := asset, free := .num free, locked := .num locked }] ∧
      a.balance = free + locked

namespace Account
variable (a : Account) (symbol : Symbol) (row : TradeRow)

/-- An order of the symbol that a trade row records as part of its protection. -/
def Replaces (o : OpenOrder) : Prop :=
  o.symbol = symbol ∧ (row.takeProfitOrderId = some o.id ∨ row.stopOrderId = some o.id)

instance : DecidablePred (Replaces symbol row) := fun _ => instDecidableAnd

def ReplacesList (l : OpenList) : Prop := l.symbol = symbol ∧ row.orderListId = some l.id

instance : DecidablePred (ReplacesList symbol row) := fun _ => instDecidableAnd

/-- What a trade row records and is really open. -/
def replaced : Account where
  orders := a.orders.filter (Replaces symbol row ·)
  lists := a.lists.filter (ReplacesList symbol row ·)

/-- What stays when that is gone. -/
def kept : Account where
  orders := a.orders.filter (¬ Replaces symbol row ·)
  lists := a.lists.filter (¬ ReplacesList symbol row ·)
  balance := a.balance

/-- What a request adds. -/
def added (endpoint : Endpoint) (legs : List OrderLeg) : Account where
  orders := legs.map fun leg =>
    { symbol := symbol, id := 0, type := leg.orderType, side := leg.side, origQty := leg.qty }
  lists := if endpoint.isOrderList then [{ symbol := symbol, id := 0 }] else []

def append (b : Account) : Account where
  orders := a.orders ++ b.orders
  lists := a.lists ++ b.lists
  balance := a.balance + b.balance

end Account

inductive Limit where
  | orders
  | algoOrders
  | orderLists
  | position
  | exchangeOrders
  | exchangeAlgoOrders
  | exchangeOrderLists
  deriving DecidableEq, Repr

def countLimit : Option Ident → Option ℚ
  | some (.int n) => some n
  | _ => none

/-- The limit, if it is published. -/
def Limit.published (v : Validation) : Limit → Option ℚ
  | .orders => countLimit v.filters.maxNumOrders
  | .algoOrders => countLimit v.filters.maxNumAlgoOrders
  | .orderLists => countLimit v.filters.maxNumOrderLists
  | .position => match v.filters.maxPosition with
    | some (.num q) => some q
    | _ => none
  | .exchangeOrders => countLimit v.exchangeFilters.exchangeMaxNumOrders
  | .exchangeAlgoOrders => countLimit v.exchangeFilters.exchangeMaxNumAlgoOrders
  | .exchangeOrderLists => countLimit v.exchangeFilters.exchangeMaxNumOrderLists

/-- What an open BUY may still add to the position. -/
def OpenOrder.pendingBuy (symbol : Symbol) (o : OpenOrder) : ℚ :=
  if o.symbol = symbol ∧ o.side = .buy then o.origQty - o.executedQty else 0

/-- What the limit bounds. -/
def Limit.measure (symbol : Symbol) (a : Account) : Limit → ℚ
  | .orders => a.orders.countP (·.symbol = symbol)
  | .algoOrders => a.orders.countP fun o => o.symbol = symbol ∧ isAlgoType o.type
  | .orderLists => a.lists.countP (·.symbol = symbol)
  | .position => a.balance + (a.orders.map (OpenOrder.pendingBuy symbol)).sum
  | .exchangeOrders => a.orders.length
  | .exchangeAlgoOrders => a.orders.countP fun o => isAlgoType o.type
  | .exchangeOrderLists => a.lists.length

/-- A limit, if it is published, holds of the account. -/
def Limit.Holds (v : Validation) (a : Account) (l : Limit) : Prop :=
  ∀ n ∈ l.published v, l.measure v.symbol a ≤ n

/-- The account after the replacement. -/
def Account.after (a : Account) (v : Validation) (row : TradeRow) (legs : List OrderLeg) :
    Account :=
  (a.kept v.symbol row).append (Account.added v.symbol v.endpoint legs)

theorem Limit.measure_append (symbol : Symbol) (a b : Account) (l : Limit) :
    l.measure symbol (a.append b) = l.measure symbol a + l.measure symbol b := by
  cases l with
  | orders => simp [measure, Account.append]
  | algoOrders => simp [measure, Account.append]
  | orderLists => simp [measure, Account.append]
  | position =>
    simp only [measure, Account.append, List.map_append, List.sum_append]
    ring
  | exchangeOrders => simp [measure, Account.append]
  | exchangeAlgoOrders => simp [measure, Account.append]
  | exchangeOrderLists => simp [measure, Account.append]

/-! ### What is counted -/

section counting
variable {v : Validation} {a : Account} {row : TradeRow} {legs : List OrderLeg}

theorem enumerated_ok {α : Type} {provider : Except Exc (Decoded (List α))} {description : String}
    {rows : List α} (h : enumerated provider description = .ok rows) :
      provider = .ok (.ok rows) := by
  unfold enumerated at h
  split at h
  · cases h
  · cases h
  · cases h
    rfl

theorem openOrderRows_ok {provider : Except Exc (Decoded (List Report))} {description : String}
    {rows : List Report} (h : openOrderRows provider description = .ok rows) :
    provider = .ok (.ok rows) := by
  unfold openOrderRows at h
  obtain ⟨rows', hrows, h⟩ := except_bind_eq_ok.mp h
  obtain ⟨_, -, h⟩ := except_bind_eq_ok.mp h
  cases h
  exact enumerated_ok hrows

/-- The rows that are counted are the open orders. -/
theorem openOrders_ok (htruth : v.providers.Truthful a v.symbol v.entry.baseAsset)
    {all own : List Report} (h : v.openOrders legs = .ok (all, own)) :
    (v.needsExchangeOrders = true → all = a.orders.map OpenOrder.report) ∧
      (v.needsExchangeOrders = true ∨ v.needsSymbolOrders legs = true →
        own = (a.orders.filter (·.symbol = v.symbol)).map OpenOrder.report) := by
  unfold Validation.openOrders at h
  by_cases hexchange : v.needsExchangeOrders = true
  · rw [if_pos hexchange] at h
    split at h
    · cases h
    · next provider hprovider =>
      obtain ⟨rows, hrows, h⟩ := except_bind_eq_ok.mp h
      obtain ⟨rfl, rfl⟩ := Prod.mk.inj (Except.ok.inj h)
      rw [openOrderRows_ok hrows] at hprovider
      have hall := htruth.allOpenOrders _ hprovider
      refine ⟨fun _ => hall, fun _ => ?_⟩
      rw [hall, List.filter_map]
      congr 1
      apply List.filter_congr
      intro o _
      simp [OpenOrder.report]
  · rw [if_neg hexchange] at h
    by_cases hsymbol : v.needsSymbolOrders legs = true
    · rw [if_pos hsymbol] at h
      split at h
      · cases h
      · next provider hprovider =>
        obtain ⟨rows, hrows, h⟩ := except_bind_eq_ok.mp h
        obtain ⟨_, -, h⟩ := except_bind_eq_ok.mp h
        obtain ⟨rfl, rfl⟩ := Prod.mk.inj (Except.ok.inj h)
        rw [openOrderRows_ok hrows] at hprovider
        exact ⟨fun hneeded => absurd hneeded hexchange,
          fun _ => htruth.openOrders _ hprovider⟩
    · exact ⟨fun hneeded => absurd hneeded hexchange,
        fun hneeded => hneeded.elim (absurd · hexchange) (absurd · hsymbol)⟩

theorem effective_map (orders : List OpenOrder) :
    v.effective (orders.map OpenOrder.report) =
      (orders.filter (·.id ∉ v.replaced)).map OpenOrder.report := by
  rw [Validation.effective, List.filter_map]
  congr 1

/-- The replaced ids are those that the row records. -/
theorem mem_replaced (hids : v.replacingOrderIds = [row.takeProfitOrderId, row.stopOrderId])
    {n : ℤ} (hpos : 0 < n) :
    n ∈ v.replaced ↔ row.takeProfitOrderId = some n ∨ row.stopOrderId = some n := by
  rw [Validation.replaced, hids, List.mem_filter, List.mem_filterMap]
  simp only [List.mem_cons, List.not_mem_nil, or_false]
  constructor
  · rintro ⟨⟨o, ho, hn⟩, -⟩
    have hn : o = some n := hn
    rw [hn] at ho
    obtain ho | ho := ho
    · exact .inl ho.symm
    · exact .inr ho.symm
  · intro h
    refine ⟨⟨some n, ?_, rfl⟩, by simpa using hpos.ne'⟩
    obtain h | h := h
    · exact .inl h.symm
    · exact .inr h.symm

theorem positiveLimit_ok {published : Option Ident} {name : String} {limit n : ℤ}
    (h : positiveLimit published name = .ok limit) (hn : published = some (.int n)) :
    limit = n ∧ 0 < n := by
  rw [hn] at h
  unfold positiveLimit at h
  dsimp only at h
  split at h
  · next hpos => exact ⟨(Except.ok.inj h).symm, hpos⟩
  · cases h

theorem checkCount_ok {published : Option Ident} {name scope counted : String}
    {count : Except Exc ℕ} {new : ℕ} {names : List String}
    (h : Validation.checkCount published name scope counted count new = .ok names) {n : ℤ}
    (hn : published = some (.int n)) : 0 < n ∧ ∃ c, count = .ok c ∧ (c + new : ℤ) ≤ n := by
  unfold Validation.checkCount at h
  obtain ⟨limit, hlimit, h⟩ := except_bind_eq_ok.mp h
  obtain ⟨rfl, hpos⟩ := positiveLimit_ok hlimit hn
  rw [if_neg hpos.ne'] at h
  obtain ⟨c, hc, h⟩ := except_bind_eq_ok.mp h
  obtain ⟨_, hle, -⟩ := except_bind_eq_ok.mp h
  exact ⟨hpos, c, hc, Checks.require_eq_ok.mp hle⟩

theorem algoOrderCount_ok {orders : List OpenOrder} {description : String} {c : ℕ}
    (h : algoOrderCount (orders.map OpenOrder.report) description = .ok c) :
    c = orders.countP fun o => isAlgoType o.type := by
  unfold algoOrderCount at h
  obtain ⟨_, -, h⟩ := except_bind_eq_ok.mp h
  cases h
  rw [List.countP_map]
  rfl

theorem countLimit_eq_some {published : Option Ident} {q : ℚ} (h : q ∈ countLimit published) :
    ∃ n : ℤ, published = some (.int n) ∧ q = n := by
  unfold countLimit at h
  split at h
  · next n => exact ⟨n, rfl, (Option.some.inj h).symm⟩
  · cases h

/-- The checks that an accepted request has passed, of the rows that were open. -/
structure CapacityChecked (v : Validation) (legs : List OrderLeg) (all own : List Report) :
    Prop where
  opened : v.openOrders legs = .ok (all, own)
  orders : ∃ names, Validation.checkCount v.filters.maxNumOrders "MAX_NUM_ORDERS" v.symbol
    " effective open" (.ok (v.effective own).length) legs.length = .ok names
  algo : ∃ names, Validation.checkCount v.filters.maxNumAlgoOrders "MAX_NUM_ALGO_ORDERS" v.symbol
    " open" (algoOrderCount (v.effective own) (v.symbol ++ " open-order"))
    (Validation.newAlgo legs) = .ok names
  position : ∃ names, v.checkPosition legs (v.effective own) = .ok names
  exchangeOrders : ∃ names, Validation.checkCount v.exchangeFilters.exchangeMaxNumOrders
    "EXCHANGE_MAX_NUM_ORDERS" "account" " effective open" (.ok (v.effective all).length)
    legs.length = .ok names
  exchangeAlgo : ∃ names, Validation.checkCount v.exchangeFilters.exchangeMaxNumAlgoOrders
    "EXCHANGE_MAX_NUM_ALGO_ORDERS" "account" " open"
    (algoOrderCount (v.effective all) "account-wide open-order") (Validation.newAlgo legs) =
      .ok names
  lists : ∃ names, v.checkLists = .ok names

theorem capacityChecked {names : List String} (h : v.checkCapacity legs = .ok names) :
    ∃ all own, CapacityChecked v legs all own := by
  unfold Validation.checkCapacity at h
  obtain ⟨⟨all, own⟩, hopened, h⟩ := except_bind_eq_ok.mp h
  obtain ⟨orders, horders, h⟩ := except_bind_eq_ok.mp h
  obtain ⟨algo, halgo, h⟩ := except_bind_eq_ok.mp h
  obtain ⟨position, hposition, h⟩ := except_bind_eq_ok.mp h
  obtain ⟨exchangeOrders, hexchangeOrders, h⟩ := except_bind_eq_ok.mp h
  obtain ⟨exchangeAlgo, hexchangeAlgo, h⟩ := except_bind_eq_ok.mp h
  obtain ⟨lists, hlists, -⟩ := except_bind_eq_ok.mp h
  exact ⟨all, own, {
    opened := hopened
    orders := ⟨orders, horders⟩
    algo := ⟨algo, halgo⟩
    position := ⟨position, hposition⟩
    exchangeOrders := ⟨exchangeOrders, hexchangeOrders⟩
    exchangeAlgo := ⟨exchangeAlgo, hexchangeAlgo⟩
    lists := ⟨lists, hlists⟩ }⟩

theorem checked_of_accepted {summary : Summary}
    (hlegs : legsFromRequest v.endpoint v.request = .ok legs)
    (h : validateReplacement v = .ok summary) : ∃ all own, CapacityChecked v legs all own := by
  unfold validateReplacement at h
  obtain ⟨_, -, h⟩ := except_bind_eq_ok.mp h
  obtain ⟨legs', hlegs', h⟩ := except_bind_eq_ok.mp h
  obtain ⟨c, -, h⟩ := except_bind_eq_ok.mp h
  obtain ⟨_, -, h⟩ := except_bind_eq_ok.mp h
  obtain ⟨names, hnames, -⟩ := except_bind_eq_ok.mp h
  rw [hlegs] at hlegs'
  cases hlegs'
  exact capacityChecked hnames

end counting

/-! ### Orders -/

/-- What a check goes by: a truthful account, and the arguments that `convert` takes from a row. -/
structure Preflight (v : Validation) (a : Account) (row : TradeRow) : Prop where
  proper : a.Proper
  truthful : v.providers.Truthful a v.symbol v.entry.baseAsset
  ids : v.replacingOrderIds = [row.takeProfitOrderId, row.stopOrderId]
  list : v.replacingOrderList = truthyId row.orderListId

section orders
variable {v : Validation} {a : Account} {row : TradeRow} {legs : List OrderLeg}

theorem Preflight.effective_own (hv : Preflight v a row) :
    (a.orders.filter (·.symbol = v.symbol)).filter (·.id ∉ v.replaced) =
      (a.kept v.symbol row).orders.filter (·.symbol = v.symbol) := by
  rw [Account.kept, List.filter_filter, List.filter_filter]
  apply List.filter_congr
  intro o ho
  have hiff := mem_replaced hv.ids (hv.proper.ids o ho)
  by_cases hsymbol : o.symbol = v.symbol
  · simp [hsymbol, Account.Replaces, hiff]
  · simp [hsymbol]

/-- An order of another symbol that has a recorded id. -/
def Stranger (v : Validation) (a : Account) (row : TradeRow) (counted : OpenOrder → Bool) : Prop :=
  ∃ o ∈ a.orders, counted o = true ∧ o.symbol ≠ v.symbol ∧
    (row.takeProfitOrderId = some o.id ∨ row.stopOrderId = some o.id)

/-- Without a stranger the orders that are credited are the replaced ones. -/
theorem Preflight.effective_all (hv : Preflight v a row) {counted : OpenOrder → Bool}
    (hnone : ¬ Stranger v a row counted) :
    (a.orders.filter (·.id ∉ v.replaced)).countP counted =
      (a.kept v.symbol row).orders.countP counted := by
  rw [Account.kept, List.countP_filter, List.countP_filter]
  apply List.countP_congr
  intro o ho
  have hiff := mem_replaced hv.ids (hv.proper.ids o ho)
  by_cases hcounted : counted o = true
  · have hown : row.takeProfitOrderId = some o.id ∨ row.stopOrderId = some o.id →
        o.symbol = v.symbol := by
      intro hid
      by_contra hne
      exact hnone ⟨o, ho, hcounted, hne, hid⟩
    simp only [hcounted, Account.Replaces, Bool.true_and, decide_eq_true_eq, hiff]
    constructor
    · intro hid
      apply decide_eq_true
      intro hreplaced
      exact hid hreplaced.2
    · intro hreplaced hid
      exact of_decide_eq_true hreplaced ⟨hown hid, hid⟩
  · simp [hcounted]

theorem measure_added_orders (symbol : Symbol) (endpoint : Endpoint) (legs : List OrderLeg) :
    Limit.orders.measure symbol (Account.added symbol endpoint legs) = legs.length ∧
      Limit.exchangeOrders.measure symbol (Account.added symbol endpoint legs) = legs.length := by
  simp only [Limit.measure, Account.added, List.countP_map, List.length_map]
  simp [Function.comp_def]

theorem measure_added_algo (symbol : Symbol) (endpoint : Endpoint) (legs : List OrderLeg) :
    Limit.algoOrders.measure symbol (Account.added symbol endpoint legs) =
        Validation.newAlgo legs ∧
      Limit.exchangeAlgoOrders.measure symbol (Account.added symbol endpoint legs) =
        Validation.newAlgo legs := by
  simp only [Limit.measure, Account.added, List.countP_map]
  simp [Function.comp_def, Validation.newAlgo, OrderLeg.isAlgo]

variable {all own : List Report}

/-- The orders of the symbol that are counted when one of its limits is published. -/
theorem CapacityChecked.own_rows (hc : CapacityChecked v legs all own) (hv : Preflight v a row)
    (hneeded : v.needsSymbolOrders legs = true) : v.effective own =
      ((a.kept v.symbol row).orders.filter (·.symbol = v.symbol)).map OpenOrder.report := by
  rw [(openOrders_ok hv.truthful hc.opened).2 (.inr hneeded), effective_map, hv.effective_own]

theorem CapacityChecked.all_rows (hc : CapacityChecked v legs all own) (hv : Preflight v a row)
    (hneeded : v.needsExchangeOrders = true) : v.effective all =
      (a.orders.filter (·.id ∉ v.replaced)).map OpenOrder.report := by
  rw [(openOrders_ok hv.truthful hc.opened).1 hneeded, effective_map]

theorem CapacityChecked.orders_kept (hc : CapacityChecked v legs all own) (hv : Preflight v a row)
    {n : ℚ} (hn : n ∈ Limit.orders.published v) :
    Limit.orders.measure v.symbol (a.after v row legs) ≤ n := by
  obtain ⟨k, hk, rfl⟩ := countLimit_eq_some hn
  have hneeded : v.needsSymbolOrders legs = true := by
    rw [Validation.needsSymbolOrders, hk]
    rfl
  obtain ⟨names, hnames⟩ := hc.orders
  rw [hc.own_rows hv hneeded, List.length_map] at hnames
  obtain ⟨-, c, hcount, hle⟩ := checkCount_ok hnames hk
  cases hcount
  rw [Account.after, Limit.measure_append, (measure_added_orders _ _ _).1, Limit.measure,
    List.countP_eq_length_filter]
  exact_mod_cast hle

theorem CapacityChecked.algo_kept (hc : CapacityChecked v legs all own) (hv : Preflight v a row)
    {n : ℚ} (hn : n ∈ Limit.algoOrders.published v) :
    Limit.algoOrders.measure v.symbol (a.after v row legs) ≤ n := by
  obtain ⟨k, hk, rfl⟩ := countLimit_eq_some hn
  have hneeded : v.needsSymbolOrders legs = true := by
    rw [Validation.needsSymbolOrders, hk, Option.isSome_some, Bool.or_true, Bool.true_or]
  obtain ⟨names, hnames⟩ := hc.algo
  rw [hc.own_rows hv hneeded] at hnames
  obtain ⟨-, c, hcount, hle⟩ := checkCount_ok hnames hk
  have hcounted := algoOrderCount_ok hcount
  rw [List.countP_filter] at hcounted
  have hkept : Limit.algoOrders.measure v.symbol (a.kept v.symbol row) = c := by
    rw [hcounted, Limit.measure]
    congr 2
    funext o
    rw [Bool.decide_and, Bool.and_comm, Bool.decide_eq_true]
  rw [Account.after, Limit.measure_append, (measure_added_algo _ _ _).1, hkept]
  exact_mod_cast hle

/-- With no stranger among the orders the limit of the account is kept. -/
theorem CapacityChecked.exchange_orders_kept (hc : CapacityChecked v legs all own)
    (hv : Preflight v a row) (hnone : ¬ Stranger v a row fun _ => true) {n : ℚ}
    (hn : n ∈ Limit.exchangeOrders.published v) :
    Limit.exchangeOrders.measure v.symbol (a.after v row legs) ≤ n := by
  obtain ⟨k, hk, rfl⟩ := countLimit_eq_some hn
  have hneeded : v.needsExchangeOrders = true := by
    rw [Validation.needsExchangeOrders, hk]
    rfl
  obtain ⟨names, hnames⟩ := hc.exchangeOrders
  rw [hc.all_rows hv hneeded, List.length_map] at hnames
  obtain ⟨-, c, hcount, hle⟩ := checkCount_ok hnames hk
  cases hcount
  have heffective := hv.effective_all hnone
  rw [List.countP_true] at heffective
  rw [Account.after, Limit.measure_append, (measure_added_orders _ _ _).2, Limit.measure,
    ← heffective]
  exact_mod_cast hle

theorem CapacityChecked.exchange_algo_kept (hc : CapacityChecked v legs all own)
    (hv : Preflight v a row) (hnone : ¬ Stranger v a row fun o => isAlgoType o.type) {n : ℚ}
    (hn : n ∈ Limit.exchangeAlgoOrders.published v) :
    Limit.exchangeAlgoOrders.measure v.symbol (a.after v row legs) ≤ n := by
  obtain ⟨k, hk, rfl⟩ := countLimit_eq_some hn
  have hneeded : v.needsExchangeOrders = true := by
    rw [Validation.needsExchangeOrders, hk, Option.isSome_some, Bool.or_true]
  obtain ⟨names, hnames⟩ := hc.exchangeAlgo
  rw [hc.all_rows hv hneeded] at hnames
  obtain ⟨-, c, hcount, hle⟩ := checkCount_ok hnames hk
  have hcounted := algoOrderCount_ok hcount
  rw [hv.effective_all hnone] at hcounted
  have hkept : Limit.exchangeAlgoOrders.measure v.symbol (a.kept v.symbol row) = c := by
    rw [hcounted, Limit.measure]
  rw [Account.after, Limit.measure_append, (measure_added_algo _ _ _).2, hkept]
  exact_mod_cast hle

/-! ### The position -/

theorem addBuy_ok {o : OpenOrder} (hexecuted : 0 ≤ o.executedQty) {sum q : ℚ}
    (h : v.addBuy sum o.report = .ok q) : sum + o.pendingBuy v.symbol ≤ q := by
  unfold Validation.addBuy at h
  rw [OpenOrder.pendingBuy]
  split at h
  · cases h
  · next hsell =>
    have hne : ¬ (o.symbol = v.symbol ∧ o.side = .buy) := by
      rintro ⟨-, hbuy⟩
      have hsell : o.side = .sell := hsell
      rw [hbuy] at hsell
      cases hsell
    cases h
    rw [if_neg hne, add_zero]
  · split at h
    · next q' hq' =>
      cases hq'
      split at h
      · next hnonneg =>
        cases h
        split
        · linarith
        · linarith
      · cases h
    · cases h
    · cases h

/-- The sum that the check makes of the open BUYs bounds what they may still add. -/
theorem openBuy_ok {orders : List OpenOrder} (hexecuted : ∀ o ∈ orders, 0 ≤ o.executedQty)
    {sum q : ℚ} (h : (orders.map OpenOrder.report).foldlM v.addBuy sum = .ok q) :
    sum + (orders.map (OpenOrder.pendingBuy v.symbol)).sum ≤ q := by
  induction orders generalizing sum with
  | nil =>
    cases h
    simp
  | cons o orders ih =>
    rw [List.map_cons, List.foldlM_cons] at h
    obtain ⟨sum', hsum, h⟩ := except_bind_eq_ok.mp h
    have hstep := addBuy_ok (hexecuted o List.mem_cons_self) hsum
    have hrest := ih (fun o' ho' => hexecuted o' (List.mem_cons_of_mem o ho')) h
    rw [List.map_cons, List.sum_cons]
    linarith

/-- What the open orders of a list may still add, those of the symbol alone. -/
theorem pendingBuy_filter (symbol : Symbol) (orders : List OpenOrder) :
    (orders.map (OpenOrder.pendingBuy symbol)).sum =
      ((orders.filter (·.symbol = symbol)).map (OpenOrder.pendingBuy symbol)).sum := by
  induction orders with
  | nil => rfl
  | cons o orders ih =>
    by_cases hsymbol : o.symbol = symbol
    · simp [hsymbol, ih]
    · simp [hsymbol, ih, OpenOrder.pendingBuy]

theorem pendingBuy_nonneg (ha : a.Proper) (symbol : Symbol) {o : OpenOrder} (ho : o ∈ a.orders) :
    0 ≤ o.pendingBuy symbol := by
  unfold OpenOrder.pendingBuy
  split
  · have hexecuted := (ha.executed o ho).2
    linarith
  · exact le_rfl

theorem pendingBuy_kept (ha : a.Proper) (symbol : Symbol) (row : TradeRow) :
    ((a.kept symbol row).orders.map (OpenOrder.pendingBuy symbol)).sum ≤
      (a.orders.map (OpenOrder.pendingBuy symbol)).sum := by
  apply List.Sublist.sum_le_sum
  · exact List.filter_sublist.map _
  · intro x hx
    obtain ⟨o, ho, rfl⟩ := List.mem_map.mp hx
    exact pendingBuy_nonneg ha symbol ho

theorem pendingBuy_added (symbol : Symbol) (endpoint : Endpoint) (legs : List OrderLeg) :
    ((Account.added symbol endpoint legs).orders.map (OpenOrder.pendingBuy symbol)).sum =
      Validation.incomingBuy legs := by
  unfold Validation.incomingBuy
  simp only [Account.added, List.map_map]
  induction legs with
  | nil => rfl
  | cons leg legs ih =>
    by_cases hbuy : leg.side = .buy
    · simp [hbuy, OpenOrder.pendingBuy, ih]
    · simp [hbuy, OpenOrder.pendingBuy, ih]

theorem balanceOf_num {asset : Asset} {q q' : ℚ} (h : balanceOf asset (.num q) = .ok q') :
    q' = q := by
  unfold balanceOf at h
  dsimp only at h
  split at h
  · exact (Except.ok.inj h).symm
  · cases h

theorem baseBalance_ok {rows : List Balance} {asset : Asset} {free locked q : ℚ}
    (hrows : rows.filter (·.asset = asset) =
      [{ asset := asset, free := .num free, locked := .num locked }])
    (h : baseBalance (.ok rows) asset = .ok q) : q = free + locked := by
  unfold baseBalance at h
  dsimp only at h
  rw [hrows] at h
  obtain ⟨free', hfree, h⟩ := except_bind_eq_ok.mp h
  obtain ⟨locked', hlocked, h⟩ := except_bind_eq_ok.mp h
  rw [balanceOf_num hfree, balanceOf_num hlocked] at h
  exact (Except.ok.inj h).symm

/-- What the check of a published position with an incoming BUY compares. -/
theorem checkPosition_ok {symbolOrders : List Report} {names : List String} {n : ℚ}
    (hn : v.filters.maxPosition = some (.num n)) (hbuy : 0 < Validation.incomingBuy legs)
    (h : v.checkPosition legs symbolOrders = .ok names) :
    ∃ account balance bought, v.providers.account = some (.ok account) ∧
      baseBalance account v.entry.baseAsset = .ok balance ∧
      v.openBuy symbolOrders = .ok bought ∧
      balance + bought + Validation.incomingBuy legs ≤ n := by
  unfold Validation.checkPosition at h
  rw [hn] at h
  dsimp only at h
  rw [if_neg (not_le.mpr hbuy)] at h
  obtain ⟨maximum, hmaximum, h⟩ := except_bind_eq_ok.mp h
  obtain ⟨provider, hprovider, h⟩ := except_bind_eq_ok.mp h
  obtain ⟨account, haccount, h⟩ := except_bind_eq_ok.mp h
  obtain ⟨balance, hbalance, h⟩ := except_bind_eq_ok.mp h
  obtain ⟨bought, hbought, h⟩ := except_bind_eq_ok.mp h
  obtain ⟨_, hle, -⟩ := except_bind_eq_ok.mp h
  have hmaximum : maximum = n := by
    split at hmaximum
    · exact (Except.ok.inj hmaximum).symm
    · cases hmaximum
  have hprovided : v.providers.account = some provider := by
    split at hprovider
    · cases hprovider
    · next heq =>
      rw [heq]
      exact congrArg some (Except.ok.inj hprovider)
  have hanswer : provider = .ok account := by
    split at haccount
    · cases haccount
    · next heq => exact congrArg Except.ok (Except.ok.inj haccount)
  rw [hanswer] at hprovided
  rw [hmaximum] at hle
  exact ⟨account, balance, bought, hprovided, hbalance, hbought, Checks.require_eq_ok.mp hle⟩

theorem CapacityChecked.position_kept (hc : CapacityChecked v legs all own)
    (hv : Preflight v a row) {n : ℚ} (hn : n ∈ Limit.position.published v)
    (hheld : Limit.position.measure v.symbol a ≤ n) :
    Limit.position.measure v.symbol (a.after v row legs) ≤ n := by
  have hpublished : v.filters.maxPosition = some (.num n) := by
    simp only [Limit.published] at hn
    split at hn
    · next heq =>
      rw [heq]
      exact congrArg (fun q => some (Scalar.num q)) (Option.some.inj hn)
    · cases hn
  have hmeasure : Limit.position.measure v.symbol (a.after v row legs) =
      a.balance + ((a.kept v.symbol row).orders.map (OpenOrder.pendingBuy v.symbol)).sum +
        Validation.incomingBuy legs := by
    rw [Account.after, Limit.measure_append, ← pendingBuy_added v.symbol v.endpoint legs]
    simp [Limit.measure, Account.kept, Account.added]
  rw [hmeasure]
  by_cases hbuy : 0 < Validation.incomingBuy legs
  · have hneeded : v.needsSymbolOrders legs = true := by
      rw [Validation.needsSymbolOrders, hpublished]
      simp [hbuy]
    obtain ⟨names, hnames⟩ := hc.position
    obtain ⟨account, balance, bought, haccount, hbalance, hbought, hle⟩ :=
      checkPosition_ok hpublished hbuy hnames
    rw [hc.own_rows hv hneeded] at hbought
    have hexecuted : ∀ o ∈ (a.kept v.symbol row).orders.filter (·.symbol = v.symbol),
        0 ≤ o.executedQty := by
      intro o ho
      have hkept := List.mem_of_mem_filter ho
      exact (hv.proper.executed o (List.mem_of_mem_filter hkept)).1
    have hsum := openBuy_ok hexecuted hbought
    rw [← pendingBuy_filter] at hsum
    have hfunds : balance = a.balance := by
      cases account with
      | malformed => cases hbalance
      | ok rows =>
        obtain ⟨free, locked, hrows, hbase⟩ := hv.truthful.account rows haccount
        rw [baseBalance_ok hrows hbalance, hbase]
    linarith
  · have hkept := pendingBuy_kept hv.proper v.symbol row
    simp only [Limit.measure] at hheld
    linarith

/-! ### Lists -/

theorem CapacityChecked.lists_checked (hc : CapacityChecked v legs all own)
    (hv : Preflight v a row) (hendpoint : v.endpoint.isOrderList = true) :
    (∀ k : ℤ, v.filters.maxNumOrderLists = some (.int k) →
      0 < k ∧ (v.effectiveLists (a.lists.filter (·.symbol = v.symbol)) + 1 : ℤ) ≤ k) ∧
    ∀ k : ℤ, v.exchangeFilters.exchangeMaxNumOrderLists = some (.int k) →
      0 < k ∧ (v.effectiveLists a.lists + 1 : ℤ) ≤ k := by
  obtain ⟨names, h⟩ := hc.lists
  unfold Validation.checkLists at h
  rw [hendpoint] at h
  simp only [Bool.not_true, Bool.false_eq_true, if_false] at h
  obtain ⟨limit, hlimit, h⟩ := except_bind_eq_ok.mp h
  obtain ⟨exchangeLimit, hexchangeLimit, h⟩ := except_bind_eq_ok.mp h
  by_cases hnone : limit = 0 ∧ exchangeLimit = 0
  · constructor
    · intro k hk
      have hpos := positiveLimit_ok hlimit hk
      omega
    · intro k hk
      have hpos := positiveLimit_ok hexchangeLimit hk
      omega
  · rw [if_neg hnone] at h
    split at h
    · cases h
    · next provider hprovider =>
      obtain ⟨rows, hrows, h⟩ := except_bind_eq_ok.mp h
      obtain ⟨_, -, h⟩ := except_bind_eq_ok.mp h
      obtain ⟨names', hnames, h⟩ := except_bind_eq_ok.mp h
      obtain ⟨names'', hexchange, h⟩ := except_bind_eq_ok.mp h
      rw [enumerated_ok hrows] at hprovider
      have hlists := hv.truthful.openOrderLists rows hprovider
      have hown : v.effectiveLists (rows.filter (·.symbol = v.symbol)) =
          v.effectiveLists (a.lists.filter (·.symbol = v.symbol)) := by
        rw [hlists, List.filter_map, Validation.effectiveLists, List.length_map]
        rfl
      have hall : v.effectiveLists rows = v.effectiveLists a.lists := by
        rw [hlists, Validation.effectiveLists, List.length_map]
        rfl
      rw [hown] at hnames
      rw [hall] at hexchange
      constructor
      · intro k hk
        obtain ⟨hpos, c, hc, hle⟩ := checkCount_ok hnames hk
        cases hc
        exact ⟨hpos, hle⟩
      · intro k hk
        obtain ⟨hpos, c, hc, hle⟩ := checkCount_ok hexchange hk
        cases hc
        exact ⟨hpos, hle⟩

end orders

/-! ### The condition -/

theorem Limit.measure_perm {symbol : Symbol} {a b : Account} (horders : a.orders.Perm b.orders)
    (hlists : a.lists.Perm b.lists) (hbalance : a.balance = b.balance) (l : Limit) :
    l.measure symbol a = l.measure symbol b := by
  cases l with
  | orders => simp only [measure, horders.countP_eq]
  | algoOrders => simp only [measure, horders.countP_eq]
  | orderLists => simp only [measure, hlists.countP_eq]
  | position => simp only [measure, (horders.map _).sum_eq, hbalance]
  | exchangeOrders => simp only [measure, horders.length_eq]
  | exchangeAlgoOrders => simp only [measure, horders.countP_eq]
  | exchangeOrderLists => simp only [measure, hlists.length_eq]

/-- What is replaced and what is kept make up the account. -/
theorem Limit.measure_split (symbol : Symbol) (a : Account) (row : TradeRow) (l : Limit) :
    l.measure symbol a = l.measure symbol (a.kept symbol row) +
      l.measure symbol (a.replaced symbol row) := by
  rw [← measure_append]
  have horders :=
    List.filter_append_perm (fun o => decide (¬ Account.Replaces symbol row o)) a.orders
  have hlists :=
    List.filter_append_perm (fun l => decide (¬ Account.ReplacesList symbol row l)) a.lists
  apply measure_perm
  · simpa [Account.append, Account.kept, Account.replaced] using horders.symm
  · simpa [Account.append, Account.kept, Account.replaced] using hlists.symm
  · simp [Account.append, Account.kept, Account.replaced]

section condition
variable (v : Validation) (a : Account) (row : TradeRow) (legs : List OrderLeg)

/-- The limit, if it is published and held, has room for the request once the replaced orders are
gone. -/
def Limit.Room (l : Limit) : Prop :=
  ∀ n ∈ l.published v, l.measure v.symbol a ≤ n →
    l.measure v.symbol a + l.measure v.symbol (Account.added v.symbol v.endpoint legs) ≤
      n + l.measure v.symbol (a.replaced v.symbol row)

/-- The recorded list is credited although it is not open, and the limit is full. -/
def Limit.Overfull (l : Limit) : Prop :=
  v.endpoint.isOrderList = true ∧ truthyId row.orderListId = true ∧
    (a.replaced v.symbol row).lists = [] ∧ l.measure v.symbol a ∈ l.published v

/-- When an accepted replacement keeps the limits. -/
structure Credited : Prop where
  symbolLists : ¬ Limit.orderLists.Overfull v a row
  exchangeLists : ¬ Limit.exchangeOrderLists.Overfull v a row
  orders : Stranger v a row (fun _ => true) → Limit.exchangeOrders.Room v a row legs
  algo : Stranger v a row (fun o => isAlgoType o.type) → Limit.exchangeAlgoOrders.Room v a row legs

end condition

section iff
variable {v : Validation} {a : Account} {row : TradeRow} {legs : List OrderLeg}
  {all own : List Report}

/-- A limit is kept where it has room. -/
theorem Limit.kept_iff_room (l : Limit) :
    (l.Holds v a → l.Holds v (a.after v row legs)) ↔ l.Room v a row legs := by
  have hsplit := l.measure_split v.symbol a row
  have hafter : l.measure v.symbol (a.after v row legs) =
      l.measure v.symbol (a.kept v.symbol row) +
        l.measure v.symbol (Account.added v.symbol v.endpoint legs) := l.measure_append _ _ _
  constructor
  · intro h n hn hheld
    have hholds : l.Holds v a := by
      intro n' hn'
      rw [Option.mem_unique hn' hn]
      exact hheld
    have hle := h hholds n hn
    linarith
  · intro h hholds n hn
    have hle := h n hn (hholds n hn)
    linarith

/-- The arithmetic of a list limit: what is full and has one list more than is counted. -/
theorem room_of_credit {kept replaced total : ℕ} {k : ℤ} {flag : Bool}
    (htotal : total = kept + replaced) (hpos : 0 < k)
    (hle : ((total - if flag then 1 else 0 : ℕ) + 1 : ℤ) ≤ k) :
    (kept + 1 : ℤ) ≤ k ↔ ¬ (flag = true ∧ replaced = 0 ∧ (total : ℤ) = k) := by
  cases flag with
  | false =>
    simp only [Bool.false_eq_true, false_and, not_false_eq_true, iff_true]
    simp only [Bool.false_eq_true, if_false] at hle
    omega
  | true =>
    simp only [if_true, true_and] at hle ⊢
    omega

theorem measure_added_lists (symbol : Symbol) (endpoint : Endpoint) (legs : List OrderLeg) :
    Limit.orderLists.measure symbol (Account.added symbol endpoint legs) =
        (if endpoint.isOrderList then 1 else 0) ∧
      Limit.exchangeOrderLists.measure symbol (Account.added symbol endpoint legs) =
        if endpoint.isOrderList then 1 else 0 := by
  cases hlist : endpoint.isOrderList with
  | true => simp [Limit.measure, Account.added, hlist]
  | false => simp [Limit.measure, Account.added, hlist]

/-- The lists that are counted, and those of them that are replaced, settle whether a limit on lists
has room. -/
theorem Limit.room_iff {l : Limit} {published : Option Ident} {total replaced : ℕ}
    (hpublished : l.published v = countLimit published)
    (htotal : l.measure v.symbol a = total)
    (hreplaced : l.measure v.symbol (a.replaced v.symbol row) = replaced)
    (hadded : l.measure v.symbol (Account.added v.symbol v.endpoint legs) =
      if v.endpoint.isOrderList then 1 else 0)
    (hempty : replaced = 0 ↔ (a.replaced v.symbol row).lists = []) (hle : replaced ≤ total)
    (hchecked : v.endpoint.isOrderList = true → ∀ k : ℤ, published = some (.int k) →
      0 < k ∧ ((total - if truthyId row.orderListId then 1 else 0 : ℕ) + 1 : ℤ) ≤ k) :
    l.Room v a row legs ↔ ¬ l.Overfull v a row := by
  unfold Limit.Room Limit.Overfull
  rw [hpublished, htotal, hreplaced, hadded, ← hempty]
  cases hlist : v.endpoint.isOrderList with
  | false =>
    simp only [Bool.false_eq_true, if_false, false_and, not_false_eq_true, iff_true]
    intro n _ hheld
    have hnonneg : (0 : ℚ) ≤ replaced := by positivity
    linarith
  | true =>
    simp only [if_true, true_and]
    constructor
    · intro hroom hover
      obtain ⟨k, hk, hcount⟩ := countLimit_eq_some hover.2.2
      have hfull := hroom _ hover.2.2 le_rfl
      rw [hover.2.1, Nat.cast_zero] at hfull
      linarith
    · intro hnot n hn hheld
      obtain ⟨k, hk, rfl⟩ := countLimit_eq_some hn
      obtain ⟨hpos, hcounted⟩ := hchecked hlist k hk
      have hsplit : total = total - replaced + replaced := (Nat.sub_add_cancel hle).symm
      have hroom := (room_of_credit hsplit hpos hcounted).mpr ?_
      · have hcast : ((total - replaced : ℕ) : ℤ) = total - replaced := by omega
        rw [hcast] at hroom
        have hgoal : (total : ℤ) + 1 ≤ k + replaced := by omega
        exact_mod_cast hgoal
      · rintro ⟨hflag, hzero, hfull⟩
        apply hnot
        refine ⟨hflag, hzero, ?_⟩
        have hcast : (total : ℚ) = k := by exact_mod_cast hfull
        rw [hcast]
        exact hn

theorem CapacityChecked.symbol_lists (hc : CapacityChecked v legs all own)
    (hv : Preflight v a row) :
    Limit.orderLists.Room v a row legs ↔ ¬ Limit.orderLists.Overfull v a row := by
  have hsymbol : ∀ l ∈ (a.replaced v.symbol row).lists, decide (l.symbol = v.symbol) = true := by
    intro l hl
    have hreplaced : Account.ReplacesList v.symbol row l := by
      simpa using List.of_mem_filter hl
    simpa using hreplaced.1
  have hall : (a.replaced v.symbol row).lists.countP (·.symbol = v.symbol) =
      (a.replaced v.symbol row).lists.length := List.countP_eq_length.mpr hsymbol
  apply Limit.room_iff rfl rfl rfl (measure_added_lists _ _ _).1
  · rw [hall, List.length_eq_zero_iff]
  · exact List.filter_sublist.countP_le
  · intro hlist k hk
    have hchecked := (hc.lists_checked hv hlist).1 k hk
    rwa [Validation.effectiveLists, hv.list, ← List.countP_eq_length_filter] at hchecked

theorem CapacityChecked.exchange_lists (hc : CapacityChecked v legs all own)
    (hv : Preflight v a row) :
    Limit.exchangeOrderLists.Room v a row legs ↔
      ¬ Limit.exchangeOrderLists.Overfull v a row := by
  apply Limit.room_iff rfl rfl rfl (measure_added_lists _ _ _).2
  · exact List.length_eq_zero_iff
  · exact List.filter_sublist.length_le
  · intro hlist k hk
    have hchecked := (hc.lists_checked hv hlist).2 k hk
    rwa [Validation.effectiveLists, hv.list] at hchecked

end iff

variable {v : Validation} {a : Account} {row : TradeRow} {legs : List OrderLeg}

/-- After an accepted replacement every limit that held before holds, exactly if what the request is
credited for is what it replaces. -/
theorem capacity_kept_iff (hv : Preflight v a row)
    (hlegs : legsFromRequest v.endpoint v.request = .ok legs) {summary : Summary}
    (h : validateReplacement v = .ok summary) :
    (∀ l : Limit, l.Holds v a → l.Holds v (a.after v row legs)) ↔ Credited v a row legs := by
  obtain ⟨all, own, hc⟩ := checked_of_accepted hlegs h
  constructor
  · intro hkept
    have hroom : ∀ l : Limit, l.Room v a row legs := fun l => l.kept_iff_room.mp (hkept l)
    exact {
      symbolLists := (hc.symbol_lists hv).mp (hroom .orderLists)
      exchangeLists := (hc.exchange_lists hv).mp (hroom .exchangeOrderLists)
      orders := fun _ => hroom .exchangeOrders
      algo := fun _ => hroom .exchangeAlgoOrders }
  · intro hcredited l
    cases l with
    | orders => exact fun _ n hn => hc.orders_kept hv hn
    | algoOrders => exact fun _ n hn => hc.algo_kept hv hn
    | orderLists =>
      exact (Limit.kept_iff_room _).mpr ((hc.symbol_lists hv).mpr hcredited.symbolLists)
    | position => exact fun hholds n hn => hc.position_kept hv hn (hholds n hn)
    | exchangeOrders =>
      by_cases hstranger : Stranger v a row fun _ => true
      · exact (Limit.kept_iff_room _).mpr (hcredited.orders hstranger)
      · exact fun _ n hn => hc.exchange_orders_kept hv hstranger hn
    | exchangeAlgoOrders =>
      by_cases hstranger : Stranger v a row fun o => isAlgoType o.type
      · exact (Limit.kept_iff_room _).mpr (hcredited.algo hstranger)
      · exact fun _ n hn => hc.exchange_algo_kept hv hstranger hn
    | exchangeOrderLists =>
      exact (Limit.kept_iff_room _).mpr ((hc.exchange_lists hv).mpr hcredited.exchangeLists)

/-- Callables that answer what is open. -/
def Account.providers (a : Account) (symbol : Symbol) (asset : Asset) : Providers where
  openOrders := some (.ok (.ok ((a.orders.filter (·.symbol = symbol)).map OpenOrder.report)))
  allOpenOrders := some (.ok (.ok (a.orders.map OpenOrder.report)))
  openOrderLists := some (.ok (.ok (a.lists.map fun l => { symbol := l.symbol })))
  account := some (.ok (.ok [{ asset := asset, free := .num a.balance, locked := .num 0 }]))

theorem Account.truthful (a : Account) (symbol : Symbol) (asset : Asset) :
    (a.providers symbol asset).Truthful a symbol asset where
  openOrders := by
    intro rows h
    cases h
    rfl
  allOpenOrders := by
    intro rows h
    cases h
    rfl
  openOrderLists := by
    intro rows h
    cases h
    rfl
  account := by
    intro rows h
    cases h
    exact ⟨a.balance, 0, by simp, by simp⟩

/-- The sample request in place of the protection that a row records. -/
def replacing (a : Account) (row : TradeRow) : Validation :=
  { sampleValidation with
    providers := a.providers "BTCUSDT" "BTC"
    replacingOrderIds := [row.takeProfitOrderId, row.stopOrderId]
    replacingOrderList := truthyId row.orderListId }

theorem preflight_replacing {a : Account} (ha : a.Proper) (row : TradeRow) :
    Preflight (replacing a row) a row where
  proper := ha
  truthful := a.truthful "BTCUSDT" "BTC"
  ids := rfl
  list := rfl

/-- Two lists of the symbol are open, as many as it may have. -/
def fullAccount : Account where
  orders :=
    [{ symbol := "BTCUSDT", id := 71, type := .limitMaker, side := .sell, origQty := 1 },
      { symbol := "BTCUSDT", id := 72, type := .stopLossLimit, side := .sell, origQty := 1 },
      { symbol := "BTCUSDT", id := 81, type := .limitMaker, side := .sell, origQty := 1 },
      { symbol := "BTCUSDT", id := 82, type := .stopLossLimit, side := .sell, origQty := 1 }]
  lists := [{ symbol := "BTCUSDT", id := 7 }, { symbol := "BTCUSDT", id := 8 }]
  balance := 2

theorem fullAccount_proper : fullAccount.Proper where
  ids := by decide
  executed := by decide +kernel

def protectedBy (list takeProfit stop : ℤ) : TradeRow where
  tradeId := "t1"
  pair := { base := "BTC", quote := "USDT" }
  orderListId := some list
  takeProfitOrderId := some takeProfit
  stopOrderId := some stop

def sampleLegs : List OrderLeg :=
  [{ side := .sell, orderType := .limitMaker, qty := 1 / 10, price := some 112 },
    { side := .sell
      orderType := .stopLossLimit
      qty := 1 / 10
      price := some 109
      trailingDelta := some 40 }]

/-- The recorded list is not open any more, but one of the two open lists is credited for it. -/
theorem capacity_kept_fails :
    ¬ ∀ (v : Validation) (a : Account) (row : TradeRow) (legs : List OrderLeg) (summary : Summary),
      Preflight v a row → legsFromRequest v.endpoint v.request = .ok legs →
        validateReplacement v = .ok summary →
          ∀ l : Limit, l.Holds v a → l.Holds v (a.after v row legs) := by
  intro h
  have hpreflight := preflight_replacing fullAccount_proper (protectedBy 5 51 52)
  have hrequest : (legsFromRequest (replacing fullAccount (protectedBy 5 51 52)).endpoint
      (replacing fullAccount (protectedBy 5 51 52)).request).toOption = some sampleLegs := by
    decide +kernel
  have haccepted : (validateReplacement
      (replacing fullAccount (protectedBy 5 51 52))).toOption.isSome = true := by
    decide +kernel
  have hlegs := except_ok_of_toOption hrequest
  obtain ⟨summary, hsummary⟩ := except_ok_of_isSome haccepted
  have hkept := h _ _ _ _ _ hpreflight hlegs hsummary .orderLists
  have hheld :
      Limit.orderLists.Holds (replacing fullAccount (protectedBy 5 51 52)) fullAccount := by
    intro n hn
    cases hn
    decide +kernel
  have hfull := hkept hheld 2 rfl
  revert hfull
  decide +kernel

theorem capacity_kept_iff_open :
    ∃ summary, validateReplacement (replacing fullAccount (protectedBy 7 71 72)) = .ok summary ∧
      ((∀ l : Limit, l.Holds (replacing fullAccount (protectedBy 7 71 72)) fullAccount →
        l.Holds (replacing fullAccount (protectedBy 7 71 72)) (fullAccount.after
          (replacing fullAccount (protectedBy 7 71 72)) (protectedBy 7 71 72) sampleLegs)) ↔
        Credited (replacing fullAccount (protectedBy 7 71 72)) fullAccount (protectedBy 7 71 72)
          sampleLegs) := by
  have hrequest : (legsFromRequest (replacing fullAccount (protectedBy 7 71 72)).endpoint
      (replacing fullAccount (protectedBy 7 71 72)).request).toOption = some sampleLegs := by
    decide +kernel
  have haccepted : (validateReplacement
      (replacing fullAccount (protectedBy 7 71 72))).toOption.isSome = true := by
    decide +kernel
  have hlegs := except_ok_of_toOption hrequest
  obtain ⟨summary, hsummary⟩ := except_ok_of_isSome haccepted
  exact ⟨summary, hsummary,
    capacity_kept_iff (preflight_replacing fullAccount_proper _) hlegs hsummary⟩

end SpotSidecar.Filters
