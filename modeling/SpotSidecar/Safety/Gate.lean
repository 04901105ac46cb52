import SpotSidecar.Adapter.Owner
import SpotSidecar.Safety.Still

/-! The walk through the operations for what they do to the flags of the adapter and to its
ENTRY intents: none but `set_enabled` enables the adapter, and none but `submit` sends an entry. -/
namespace SpotSidecar
open Interaction Prog
variable {σ α β γ : Type} {cfg : Config} {env : Env σ}

namespace Keeps
variable {I : World σ → Prop}

/-- A program that only asks, among those that fold events. -/
theorem asks {m : Asking α} (h : Keeps (Ask.exec env) I m) :
    Keeps (Fold.exec env) I (liftM m : Folding α) :=
  Triple.lift (fun _ _ => rfl) h

theorem asked {m : Asking α} (h : Keeps (Ask.exec env) I m) :
    Keeps (Act.exec env) I (liftM m : Acting α) :=
  Triple.asked h

theorem folded {m : Folding α} (h : Keeps (Fold.exec env) I m) :
    Keeps (Act.exec env) I (liftM m : Acting α) :=
  Triple.folded h

end Keeps

theorem keeps_allKnown (known : List Intent) (m : Acting α) :
    Keeps (Act.exec env) (fun w => ∀ i ∈ known, w.store.Knows i) m :=
  keeps_of_exec (fun a w hw i hi => (hw i hi).mono (Act.exec_ledgerLe a w)) m

/-- An intent with a parent is no entry. -/
def Store.Parented (s : Store) : Prop :=
  ∀ d ∈ s.drafts, d.parentIntentId.isSome = true → d.operation ≠ .entry

/-- Acts that leave the flags as they are, begin no entry and mark nothing. -/
def Act.calm (γ : Type) : Act γ → Prop
  | .fold (.ask (.setMemory _)) | .fold (.ask (.setData _)) | .markIntentSubmitting _ => False
  | .prepareIntent d => d.operation ≠ .entry
  | _ => True

/-- Acts that ask, and write no flag. -/
def Ask.calm (γ : Type) : Ask γ → Prop
  | .setMemory _ | .setData _ => False
  | _ => True

/-- What an invariant needs in order to be kept by every operation that neither enables the
adapter nor submits an entry. -/
structure Gate (env : Env σ) (J : World σ → Prop) : Prop where
  exec : ∀ {γ} (a : Act γ) w, a.calm → J w → J (a.exec env γ w).2
  memory : ∀ (m : Memory) w, (w.memory.enabled = false → m.enabled = false) → J w →
    J { w with memory := m }
  data : ∀ (d : SidecarData) w, d.liveRestartRequired = w.store.data.liveRestartRequired → J w →
    J { w with store := { w.store with data := d } }
  mark : ∀ id i w, w.store.intent id = some i → i.operation ≠ .entry → J w →
    J ((Act.markIntentSubmitting id).exec env _ w).2
  parented : ∀ w, J w → w.store.Parented

/-- The ledger holds an intent with this id, for one of these trades. -/
def Store.Holds (N : TradeId → Prop) (s : Store) (id : IntentId) : Prop :=
  ∃ i, s.intent id = some i ∧ N i.tradeId

/-- The rows and intents that the act writes are of these trades. -/
def Act.within (N : TradeId → Prop) (s : Store) (γ : Type) : Act γ → Prop
  | .prepareIntent d => N d.tradeId
  | .finishIntent id _ _ _ _ => s.Holds N id
  | .upsertTrade id _ _ => N id
  | _ => True

/-- What an invariant needs in order to be kept by the same operations, when all that they read
as open and so all that they write is of the trades in `N`. -/
structure Ward (env : Env σ) (N : TradeId → Prop) (J : World σ → Prop) : Prop where
  exec : ∀ {γ} (a : Act γ) w, a.calm → a.within N w.store → J w → J (a.exec env γ w).2
  memory : ∀ (m : Memory) w, (w.memory.enabled = false → m.enabled = false) → J w →
    J { w with memory := m }
  data : ∀ (d : SidecarData) w, d.liveRestartRequired = w.store.data.liveRestartRequired → J w →
    J { w with store := { w.store with data := d } }
  mark : ∀ id i w, w.store.intent id = some i → i.operation ≠ .entry → N i.tradeId → J w →
    J ((Act.markIntentSubmitting id).exec env _ w).2
  parented : ∀ w, J w → w.store.Parented
  row : ∀ w, J w → ∀ row ∈ w.store.activeTradeRows, N row.tradeId
  intent : ∀ w, J w → ∀ i ∈ w.store.unresolvedIntents, N i.tradeId

theorem Gate.ward {J : World σ → Prop} (h : Gate env J) : Ward env (fun _ => True) J where
  exec a w ha _ := h.exec a w ha
  memory := h.memory
  data := h.data
  mark id i w hi hne _ := h.mark id i w hi hne
  parented := h.parented
  row _ _ _ _ := trivial
  intent _ _ _ _ := trivial

theorem Store.Knows.holds {N : TradeId → Prop} {s : Store} {i : Intent} (h : s.Knows i)
    (hi : N i.tradeId) : s.Holds N i.intentId := by
  obtain ⟨j, hj, hd, -⟩ := h
  have hid : j.tradeId = i.tradeId := congrArg IntentDraft.tradeId hd
  exact ⟨j, hj, hid ▸ hi⟩

theorem Store.Holds.mono {N : TradeId → Prop} {s s' : Store} {id : IntentId} (h : s.Holds N id)
    (hle : LedgerLe s s') : s'.Holds N id := by
  obtain ⟨i, hi, hN⟩ := h
  obtain ⟨j, hj, hd, -⟩ := hle id i hi
  have hid : j.tradeId = i.tradeId := congrArg IntentDraft.tradeId hd
  exact ⟨j, hj, hid ▸ hN⟩

theorem keeps_holds (N : TradeId → Prop) (id : IntentId) (m : Acting α) :
    Keeps (Act.exec env) (fun w => w.store.Holds N id) m :=
  keeps_of_exec (fun a w h => h.mono (Act.exec_ledgerLe a w)) m

/-- The program asks, and writes no flag. -/
abbrev Calm (m : Asking α) : Prop := m.All Ask.calm

namespace Calm

theorem theStore : Calm theStore := .perform trivial

theorem theMemory : Calm theMemory := .perform trivial

theorem call (c : Call γ) : Calm (call c) := .perform trivial

theorem asObject (reply : Reply) : Calm (asObject reply) := by
  cases reply <;> trivial

theorem getOrder (symbol : Symbol) (orderId : Option ℤ) (clientId : ClientId) :
    Calm (getOrder symbol orderId clientId) := by
  unfold SpotSidecar.getOrder
  split
  · exact call _
  · split
    · exact call _
    · exact .raise

theorem getOrderList (orderListId : Option ℤ) (listClientId : ClientId) :
    Calm (getOrderList orderListId listClientId) := by
  unfold SpotSidecar.getOrderList
  split
  · exact call _
  · split
    · exact call _
    · exact .raise

theorem canonicalPair (pair : Pair) : Calm (canonicalPair cfg pair) :=
  .bind .ensure fun _ => .ensure

theorem rulesOf (pair : Pair) : Calm (rulesOf cfg pair) := by
  unfold SpotSidecar.rulesOf
  refine .bind (canonicalPair _) fun _ => .bind (call _) fun info => .bind ?_ fun _ => ?_
  · exact .bind .ensure fun _ => .bind .ensure fun _ => .bind .ensure fun _ =>
      .bind .ensure fun _ => .ensure
  · split
    · exact .pure
    · exact .raise

theorem priceOf (value : Scalar) : Calm (priceOf value) := by
  unfold SpotSidecar.priceOf
  split
  · exact .bind .ensure fun _ => .pure
  · exact .raise
  · exact .raise

theorem bestAsk (symbol : Symbol) : Calm (bestAsk symbol) := by
  unfold SpotSidecar.bestAsk
  refine .bind (call _) fun book => ?_
  split
  · exact priceOf _
  · exact .raise

theorem bestBid (symbol : Symbol) : Calm (bestBid symbol) := by
  unfold SpotSidecar.bestBid
  refine .bind (call _) fun book => ?_
  split
  · exact priceOf _
  · exact .raise

theorem currentPrice (symbol : Symbol) : Calm (currentPrice symbol) :=
  .bind (call _) fun _ => priceOf _

theorem accountBalances : Calm accountBalances := by
  unfold SpotSidecar.accountBalances
  refine .bind (call _) fun account => ?_
  split
  · exact .pure
  · exact .raise

theorem freeBalance (asset : Asset) : Calm (freeBalance asset) :=
  .bind accountBalances fun _ => .pure

theorem eventInScope (e : Event) : Calm (eventInScope e) := by
  unfold SpotSidecar.eventInScope
  split
  · exact .raise
  · refine .bind theStore fun s => ?_
    split
    · exact .bind .ensure fun _ => .pure
    · exact .bind (call _) fun info => .bind .ensure fun _ => .bind .ensure fun _ => .pure

theorem lookup (endpoint : Endpoint) (symbol : Symbol) (params : Params) :
    Calm (lookup endpoint symbol params) := by
  unfold SpotSidecar.lookup
  refine .bind (.attempt ?_) fun found => ?_
  · split
    · exact getOrderList _ _
    · exact getOrder _ _ _
  · split <;> exact .pure

theorem factoryEntry (mode : ProtectionMode) (rules : SymbolRules) (qty entry : ℚ) :
    Calm (factoryEntry cfg mode rules qty entry) := by
  unfold SpotSidecar.factoryEntry
  refine .bind .ofExcept fun pending => .bind .ensure fun _ => .bind (call _) fun list => ?_
  refine .bind (call _) fun working => .bind (call _) fun first => .bind ?_ fun second => .pure
  split
  · exact .pure
  · exact call _

theorem factoryReplacement (mode : ProtectionMode) (rules : SymbolRules)
    (qty entry current : ℚ) (stopPrice : Option ℚ) (trailingDeltaBips : Option ℤ) :
    Calm (factoryReplacement cfg mode rules qty entry current stopPrice trailingDeltaBips) := by
  unfold SpotSidecar.factoryReplacement
  refine .bind .ensure fun _ => ?_
  split
  · exact .bind (call _) fun client => .pure
  · refine .bind (call _) fun list => .bind (call _) fun above => .bind (call _) fun below => ?_
    dsimp only
    split
    · exact .bind .ensure fun _ => .pure
    · exact .pure

theorem identifiedAnswer (endpoint : Endpoint) (symbol : Symbol) (params : Params)
    (answer : Response) : Calm (identifiedAnswer endpoint symbol params answer) := by
  unfold SpotSidecar.identifiedAnswer
  split
  · exact .pure
  · exact .bind (lookup _ _ _) fun found => .pure

theorem intentRequest (i : Intent) : Calm (intentRequest cfg i) := .bind .ensure fun _ => .pure

theorem lookupPlaced (i : Intent) (symbol : Symbol) : Calm (lookupPlaced i symbol) := by
  unfold SpotSidecar.lookupPlaced
  split
  · exact getOrderList _ _
  · exact getOrder _ _ _

theorem lookupEntry (row : TradeRow) (symbol : Symbol) : Calm (lookupEntry row symbol) :=
  .bind (getOrder _ _ _) fun _ => asObject _

theorem observe (symbol : Symbol) (p : Protection) : Calm (p.observe symbol) := by
  refine .bind ?_ fun reply => .bind (asObject _) fun observed => .ofExcept
  cases p with
  | list id => exact getOrderList (some id) ""
  | order id => exact getOrder symbol (some id) ""

theorem reobserveCancel (symbol : Symbol) (p : Protection) (id : IntentId) :
    Calm (reobserveCancel symbol p id) := by
  unfold SpotSidecar.reobserveCancel
  refine .bind theStore fun s => ?_
  split
  · refine .bind (.attempt (observe _ _)) fun shown => ?_
    split <;> exact .pure
  · exact .pure

theorem cancelLooksTerminal (symbol : Symbol) (endpoint : Endpoint) (request : Params) :
    Calm (cancelLooksTerminal symbol endpoint request) := by
  unfold SpotSidecar.cancelLooksTerminal
  split
  · exact .bind (getOrderList _ _) fun _ => .bind (asObject _) fun _ => .pure
  · exact .bind (getOrder _ _ _) fun _ => .bind (asObject _) fun _ => .pure

theorem asList (answer : Option (List (Option Ident))) : Calm (asList answer) := by
  cases answer <;> trivial

theorem listStillOpen (row : TradeRow) (items : List (Option Ident)) :
    Calm (listStillOpen row items) := by
  induction items with
  | nil => exact .pure
  | cons item items ih =>
    cases item with
    | none => exact .raise
    | some item =>
      refine .bind .ofExcept fun id => ?_
      split
      · exact .pure
      · exact ih

theorem filledAndProtected (row : TradeRow) (entry : Report)
    (orders lists : Option (List (Option Ident))) :
    Calm (filledAndProtected row entry orders lists) := by
  unfold SpotSidecar.filledAndProtected
  split
  · exact .bind (asList _) fun _ => .bind (asList _) fun _ => .ofExcept
  · exact .pure

theorem entryPriceOf (row : TradeRow) (symbol : Symbol) : Calm (entryPriceOf row symbol) := by
  unfold SpotSidecar.entryPriceOf
  split
  · exact .pure
  · exact currentPrice _

theorem configuredEntryQuantity (rules : SymbolRules) (entry : ℚ) :
    Calm (configuredEntryQuantity cfg rules entry) := .bind .ensure fun _ => .pure

theorem planEntry (symbol : Symbol) (pair : Pair) : Calm (planEntry cfg symbol pair) := by
  unfold SpotSidecar.planEntry
  refine .bind (rulesOf _) fun rules => .bind (freeBalance _) fun free => ?_
  refine .bind (bestAsk _) fun ask => .bind (configuredEntryQuantity _ _) ?_
  rintro ⟨quantity, requiredQuote⟩
  dsimp only
  split
  · exact .pure
  · refine .bind theStore fun s => .bind .ensure fun _ => ?_
    exact .bind (factoryEntry _ _ _ _) fun _ => .bind (call _) fun _ => .pure

theorem planConversion (symbol : Symbol) (args : ConvertArgs) :
    Calm (planConversion cfg symbol args) := by
  unfold SpotSidecar.planConversion
  refine .bind theStore fun s => .bind .ofExcept fun found => ?_
  split
  · exact .pure
  · refine .bind theStore fun s => ?_
    split
    · exact .pure
    · split
      · exact .pure
      · refine .bind (call _) fun active => ?_
        split
        · exact .pure
        · refine .bind (rulesOf _) fun rules => .bind (currentPrice _) fun current => ?_
          dsimp only
          split
          · exact .pure
          · refine .bind .ofExcept fun stopPrice => ?_
            split
            · exact .pure
            · refine .bind .ensure fun _ => .bind (factoryReplacement _ _ _ _ _ _ _) fun _ => ?_
              exact .bind (call _) fun _ => .pure

theorem replacementFor (args : ConvertArgs) (c : Conversion) (held : ℚ) :
    Calm (replacementFor cfg args c held) := by
  unfold SpotSidecar.replacementFor
  split
  · exact .bind (currentPrice _) fun current => factoryReplacement _ _ _ _ _ _ _
  · exact .pure

theorem entryIsStale (row : TradeRow) : Calm (entryIsStale cfg row) := by
  unfold SpotSidecar.entryIsStale
  split
  · exact .pure
  · exact .bind (call _) fun now => .pure

theorem enumerate (c : Call (Option (List (Option Ident)))) : Calm (enumerate c) := by
  unfold SpotSidecar.enumerate
  refine .bind (.attempt (call _)) fun answer => ?_
  split <;> exact .pure

theorem enumerateBalances : Calm enumerateBalances := by
  unfold SpotSidecar.enumerateBalances
  refine .bind (.attempt accountBalances) fun answer => ?_
  split <;> exact .pure

theorem ownershipEndpoint (orders lists : Option (List (Option Ident)))
    (balances : Option Balances) : Calm (ownershipEndpoint cfg orders lists balances) := by
  unfold SpotSidecar.ownershipEndpoint
  split
  · unfold reconciledOwnership
    refine .bind theStore fun s => ?_
    dsimp only
    split
    · exact .pure
    · refine .bind (call _) fun active => ?_
      split
      · exact .pure
      · split
        · exact .pure
        · refine .handle ?_ fun e => ?_
          · unfold judgeBalance
            refine .bind .ensure fun _ => .bind (rulesOf _) fun rules => ?_
            split
            · exact .pure
            · exact .ofExcept
          · split
            · exact .pure
            · exact .raise
  · exact .pure

theorem validatePair (pair : Pair) : Calm (validatePair cfg pair) :=
  .bind (rulesOf _) fun _ => .bind theStore fun _ => .ensure

theorem validatePairFunding (pair : Pair) : Calm (validatePairFunding cfg pair) := by
  unfold SpotSidecar.validatePairFunding
  refine .bind (rulesOf _) fun rules => .bind theStore fun s => .bind .ensure fun _ => ?_
  refine .bind (freeBalance _) fun free => .bind (bestAsk _) fun ask => ?_
  refine .bind (configuredEntryQuantity _ _) fun quantity => .bind .ensure fun _ => ?_
  exact .bind (factoryEntry _ _ _ _) fun _ => call _

theorem readStatus : Calm readStatus :=
  .bind theMemory fun _ => .bind (call _) fun _ => .bind theStore fun _ => .pure

theorem readBalance : Calm readBalance :=
  .bind (call _) fun _ => .bind accountBalances fun _ => .pure

theorem verifyFlatOrders (symbols : List Symbol) : Calm (verifyFlatOrders cfg symbols) := by
  unfold SpotSidecar.verifyFlatOrders
  refine .bind (.attempt ?_) fun answers => ?_
  · exact .bind (call _) fun _ => .bind (call _) fun _ => .pure
  · split
    · exact .pure
    · split
      · exact .pure
      · refine .bind (.each fun symbol _ => ?_) fun _ => ?_
        · unfold refreshRules
          refine .bind theStore fun s => ?_
          split
          · exact .bind (rulesOf _) fun _ => .pure
          · exact .pure
        · exact .bind (.attempt accountBalances) fun _ => .pure

theorem autoAction (pair : Pair) (triggerPct : ℚ) (tightTrailBips : ℤ) (bullish : Bool)
    (row : TradeRow) (entry current : ℚ) :
    Calm (autoAction cfg pair triggerPct tightTrailBips bullish row entry current) := by
  unfold SpotSidecar.autoAction
  split
  · split
    · exact .pure
    · exact .bind (rulesOf _) fun rules => .ofExcept
  · split <;> exact .pure

end Calm

namespace Ward
variable {N : TradeId → Prop} {J : World σ → Prop} (h : Ward env N J)
include h

theorem calm {m : Asking α} (hm : Calm m) : Keeps (Ask.exec env) J m := by
  refine hm.keeps fun a ha w hw => h.exec (.fold (.ask a)) w ?_ trivial hw
  cases a <;> trivial

theorem setMemory (f : Memory → Memory) (hf : ∀ m, m.enabled = false → (f m).enabled = false) :
    Keeps (Ask.exec env) J (setMemory f) :=
  fun w hw => ⟨hw, hw, h.memory _ w (hf _) hw⟩

theorem setData (f : SidecarData → SidecarData)
    (hf : ∀ d, (f d).liveRestartRequired = d.liveRestartRequired) :
    Keeps (Ask.exec env) J (setData f) :=
  fun w hw => ⟨hw, hw, h.data _ w (hf _) hw⟩

theorem setEntries (value : Bool) (reason : String) :
    Keeps (Ask.exec env) J (setEntries value reason) :=
  h.setData (fun d => (Store.setEntries { data := d } value reason).data) fun _ => rfl

theorem pause (reason : String) : Keeps (Ask.exec env) J (pause reason) := by
  refine .bind (h.setMemory _ fun _ _ => rfl) fun _ => .bind (h.setEntries _ _) fun _ => ?_
  exact .bind (.attempt (h.calm (.call _))) fun _ => .pure

theorem registerPair (symbol : Symbol) (pair : Pair) :
    Keeps (Ask.exec env) J (registerPair symbol pair) := by
  unfold SpotSidecar.registerPair
  refine Triple.bind (Q := fun s w => J w ∧ s = w.store)
    (fun w hw => ⟨hw, hw, rfl⟩) fun s => ?_
  refine Triple.bind (Q := fun r w => J w ∧
    r.data.liveRestartRequired = w.store.data.liveRestartRequired) ?_ fun r => ?_
  · refine .ofExcept ?_ fun e _ w hw => hw.1
    rintro r hr w ⟨hw, rfl⟩
    refine ⟨hw, ?_⟩
    unfold Store.registerSymbolPair at hr
    split at hr
    · cases hr
    · cases hr
      rfl
  · exact fun w hw => ⟨hw.1, h.data _ w hw.2 hw.1⟩

theorem recordVerdict (r : Reconciliation) :
    Keeps (Ask.exec env) J (recordVerdict r) := by
  unfold SpotSidecar.recordVerdict
  refine .bind (h.calm (.call _)) fun now => .bind (h.setData _ fun _ => rfl) fun _ => ?_
  split
  · exact h.pause _
  · exact .pure

theorem judgeAccount (resolved emergency stale partials : Bool) :
    Keeps (Ask.exec env) J
      (judgeAccount cfg resolved emergency stale partials) := by
  unfold SpotSidecar.judgeAccount
  refine .bind (h.calm (.enumerate _)) fun orders => .bind (h.calm (.enumerate _)) fun lists => ?_
  refine .bind (h.calm .enumerateBalances) fun balances => .bind (h.calm .theStore) fun s => ?_
  refine .bind (h.calm (.ownershipEndpoint _ _ _)) fun ownership => ?_
  exact .bind (h.recordVerdict _) fun _ => .pure

theorem verifyFlatForSwitch (symbols : List Symbol) :
    Keeps (Ask.exec env) J (verifyFlatForSwitch cfg symbols) := by
  unfold SpotSidecar.verifyFlatForSwitch
  refine .bind (h.pause _) fun _ => .bind (h.calm .theStore) fun s => ?_
  split
  · exact .pure
  · refine .bind (h.calm .theStore) fun s => ?_
    split
    · exact .pure
    · exact h.calm (.verifyFlatOrders _)

theorem fold (f : Fold γ) (hf : (Act.fold f).calm) :
    Keeps (Fold.exec env) J (.perform f : Folding γ) :=
  .perform fun w hw => h.exec (.fold f) w hf trivial hw

theorem recordAuthenticatedEvent (e : Event) :
    Keeps (Fold.exec env) J (recordAuthenticatedEvent e) := by
  unfold SpotSidecar.recordAuthenticatedEvent
  refine .bind (Keeps.asks (h.calm (.eventInScope _))) fun inScope => ?_
  split
  · refine .bind (h.fold _ trivial) fun isNew => ?_
    split
    · exact .bind (Keeps.asks (h.calm (.call _))) fun _ => .pure
    · exact .pure
  · exact .pure

theorem recordRestEvent (order : Report) (orderListId : Ident) :
    Keeps (Fold.exec env) J (recordRestEvent order orderListId) := by
  unfold SpotSidecar.recordRestEvent
  refine .bind .ofExcept fun event => ?_
  split
  · exact .bind (h.recordAuthenticatedEvent _) fun _ => .pure
  · exact .pure

theorem recordResponseEvents (response : Response) (orderListId : Ident) :
    Keeps (Fold.exec env) J (recordResponseEvents response orderListId) :=
  .bind (.each fun _ _ => h.recordRestEvent _ _) fun _ => .pure

theorem replayTrade (id : TradeId) : Keeps (Fold.exec env) J (replayTrade id) :=
  .bind (h.fold _ trivial) fun _ => .pure

/-- The reread row is of the same trade. -/
theorem foldEntry (row : TradeRow) (event : Event) : Triple (Fold.exec env) J
    (foldEntry row event) (fun row' w => J w ∧ row'.tradeId = row.tradeId) (fun _ => J) J := by
  unfold SpotSidecar.foldEntry
  refine Triple.bind (h.recordAuthenticatedEvent _) fun _ => ?_
  refine Triple.bind (h.replayTrade _) fun _ => ?_
  refine Triple.bind (Keeps.asks (h.calm .theStore)) fun s => .pure fun w hw => ⟨hw, ?_⟩
  cases hrow : s.trade row.tradeId with
  | none => rfl
  | some row' => exact (Store.trade_mem hrow).2

theorem readExit (symbol : Symbol) (response : Response) :
    Keeps (Fold.exec env) J (readExit symbol response) := by
  unfold SpotSidecar.readExit
  refine .bind .ofExcept fun id => .bind (Keeps.asks (h.calm (.getOrder _ _ _))) fun reply => ?_
  refine .bind (Keeps.asks (h.calm (.asObject _))) fun order => .bind .ofExcept fun found => ?_
  refine .bind .ensure fun _ => .bind .ensure fun _ => ?_
  exact .bind (h.recordRestEvent _ _) fun _ => .ofExcept

theorem refreshOrder (row : TradeRow) (query : Option ℤ × ClientId) :
    Keeps (Fold.exec env) J (refreshOrder row query) := by
  unfold SpotSidecar.refreshOrder
  refine .bind (Keeps.asks (h.calm (.getOrder _ _ _))) fun reply => ?_
  have hlast : ∀ response : Response, Keeps (Fold.exec env) J
      (Prog.ensure (response.symbol.getD row.pair.symbol = row.pair.symbol)
        (.of .runtime "order GET symbol mismatch") >>= fun _ =>
        SpotSidecar.recordRestEvent response.toReport (.ofOption row.orderListId) >>= fun _ =>
          Pure.pure ()) :=
    fun response => .bind .ensure fun _ => .bind (h.recordRestEvent _ _) fun _ => .pure
  split
  · exact .raise
  · refine .bind .ensure fun _ => ?_
    split
    · exact .bind .ofExcept fun found => .bind .ensure fun _ => hlast _
    · exact hlast _

theorem refreshList (row : TradeRow) (listId : ℤ) :
    Keeps (Fold.exec env) J (refreshList row listId) := by
  unfold SpotSidecar.refreshList
  refine .bind (Keeps.asks (h.calm (.getOrderList _ _))) fun reply => ?_
  refine .bind (Keeps.asks (h.calm (.asObject _))) fun listing => .bind .ofExcept fun found => ?_
  refine .bind .ensure fun _ => .bind (h.fold _ trivial) fun _ => ?_
  exact .bind (.each fun _ _ => h.recordRestEvent _ _) fun _ => .pure

theorem refreshTrade (original : TradeRow) :
    Keeps (Fold.exec env) J (refreshTrade original) := by
  unfold SpotSidecar.refreshTrade
  have hlast : ∀ s : Store, Keeps (Fold.exec env) J
      (if (s.trade original.tradeId).any (·.lifecycle = .entryPartiallyFilled) then
        (liftM (SpotSidecar.setMemory fun m => { m with
          partialRecovery := m.partialRecovery.insert original.pair.symbol }) >>= fun _ =>
          liftM (SpotSidecar.pause "partial-entry-fill-needs-protection") : Folding Unit)
      else Pure.pure ()) := by
    intro s
    split
    · exact .bind (Keeps.asks (h.setMemory _ fun _ h => h)) fun _ => Keeps.asks (h.pause _)
    · exact .pure
  refine .bind (.each fun q _ => .attempt (h.refreshOrder _ _)) fun _ => ?_
  split
  · refine .bind (.attempt (h.refreshList _ _)) fun _ => .bind (h.replayTrade _) fun _ => ?_
    exact .bind (Keeps.asks (h.calm .theStore)) fun s => hlast s
  · exact .bind (h.replayTrade _) fun _ => .bind (Keeps.asks (h.calm .theStore)) fun s => hlast s

theorem refreshDurableExchangeState :
    Keeps (Fold.exec env) J refreshDurableExchangeState :=
  .bind (Keeps.asks (h.calm .theStore)) fun _ =>
    .bind (.each fun _ _ => h.refreshTrade _) fun _ => .pure

theorem quiet {m : Asking α} (hm : Calm m) :
    Keeps (Act.exec env) J (liftM m : Acting α) :=
  Keeps.asked (h.calm hm)

end Ward

end SpotSidecar
