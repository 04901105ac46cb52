import Mathlib.Data.List.Sublists
import SpotSidecar.PairControl.Scripted
import SpotSidecar.Telegram.StablePanel

/-! What leaves the control panels: an order of any effect stands behind a button that the owner has
pressed, and the button was made for the order when the owner asked for it. -/
namespace SpotSidecar.Telegram.Broker.Owner
open Interaction

/-- What a handler hands to the sidecar or to Freqtrade. -/
inductive Order where
  | command (name : String) (args : Args)
  | freqtrade (method endpoint : String)
  deriving DecidableEq, Repr

inductive Event where
  | update (u : Update)
  | call (call : CallbackCall ℚ Args) (answer : CallbackAnswer Args)
  | order (o : Order)
  deriving DecidableEq, Repr

def Event.update? : Event → Option Update
  | .update u => some u
  | _ => none

def Event.call? : Event → Option (CallbackCall ℚ Args × CallbackAnswer Args)
  | .call c answer => some (c, answer)
  | _ => none

/-- The calls of a log to the store of the buttons. -/
def calls (log : List Event) : List (CallbackCall ℚ Args × CallbackAnswer Args) :=
  log.filterMap Event.call?

/-- The clock, the tokens that are drawn, and everything else that a handler may hear. -/
structure Env (σ : Type) where
  time : σ → ℚ × σ
  token : σ → String × σ
  answer : (γ : Type) → Act γ → σ → Except Exc γ × σ

/-- The buttons that are out, and a record of the run that no handler reads. -/
structure World (σ : Type) where
  store : CallbackStore ℚ Args
  log : List Event := []
  env : σ

/-- The order that an act gives, whether or not it then fails. -/
def order? {γ : Type} : Act γ → Option Order
  | .enqueue name args => some (.command name args)
  | .freqtrade method endpoint => some (.freqtrade method endpoint)
  | _ => none

section run
variable {σ : Type} (env : Env σ)

def World.call (w : World σ) (call : CallbackCall ℚ Args) (env : σ) : World σ :=
  { store := (w.store.step call).2
    log := w.log ++ [.call call (w.store.step call).1]
    env }

def World.note (w : World σ) (o : Option Order) (env : σ) : World σ :=
  { w with log := w.log ++ (o.map Event.order).toList, env }

def exec : (γ : Type) → Act γ → World σ → Except Exc γ × World σ
  | _, .issue action args, w =>
    let now := env.time w.env
    let token := env.token now.2
    (.ok token.1, w.call (.issue now.1 token.1 action args) token.2)
  | _, .consume token, w =>
    let now := env.time w.env
    (.ok (w.store.consume now.1 token).1, w.call (.consume now.1 token) now.2)
  | _, .cancel token, w =>
    let now := env.time w.env
    (.ok (w.store.cancel now.1 token).1, w.call (.cancel now.1 token) now.2)
  | _, op, w =>
    let answer := env.answer _ op w.env
    (answer.1, w.note (order? op) answer.2)

/-- An update that is handled, by a process that may die on the way, or a new start of it. -/
inductive Turn where
  | handle (panel : Panel) (u : Update) (budget : ℕ)
  | restart
  deriving DecidableEq, Repr

variable (cfg : Config)

/-- The buttons are in the memory of the process. -/
def World.restarted (w : World σ) : World σ := { w with store := { ttl := cfg.ttl } }

def World.turn (w : World σ) : Turn → World σ
  | .restart => w.restarted cfg
  | .handle panel u budget =>
    let w := { w with log := w.log ++ [.update u] }
    match Prog.run (exec env) budget (panel.handle cfg u) w with
    | (.crashed, w) => w.restarted cfg
    | (_, w) => w

def World.start (s : σ) : World σ := { store := { ttl := cfg.ttl }, env := s }

def World.run (w : World σ) (turns : List Turn) : World σ := turns.foldl (World.turn env cfg) w

end run

/-- The commands that only read. -/
def readings : List String := ["status", "balance", "profit", "pair", "pairs"]

/-- The commands that bring the records up to date: `reconcile` those of the orders and
`verify_pair_switch` the state of a switch, which is `PAUSED_READY` once Freqtrade has followed. -/
def upkeep : List String := ["reconcile", "verify_pair_switch"]

/-- The orders that need no confirmation: to read, to bring the records up to date and to stop. -/
def plain : Order → Bool
  | .command name args =>
    (name ∈ readings ++ upkeep && args = []) ||
      (name = "entries" && args = [("enabled", .flag false)])
  | .freqtrade method endpoint => method = "GET" || (method = "POST" && endpoint = "/pause")

def Event.order? : Event → Option Order
  | .order o => if plain o then none else some o
  | _ => none

/-- The orders of a log that are not plain. -/
def orders (log : List Event) : List Order := log.filterMap Event.order?

/-- The orders that a confirmed action gives if nothing refuses. -/
def plan (action : String) (args : Args) : List Order :=
  match action with
  | "resume_entries" => [.freqtrade "POST" "/start", .command "entries" [("enabled", .flag true)]]
  | "restart_stream" => [.command "restart_stream" []]
  | "set_mode" => [.command "mode" args]
  | "switch_pair" => [.command "switch_pair" args]
  | "complete_pair_switch" =>
    [.command "complete_pair_switch" [], .freqtrade "POST" "/reload_config"]
  | "x_recover_confirmed" =>
    [.command "restart_stream" [], .command "clear_risk_pause" [], .freqtrade "POST" "/start",
      .command "entries" [("enabled", .flag true)]]
  | action => if action ∈ direct then [.command action args] else []

theorem plan_direct {action : String} {args : Args} (h : action ∈ direct) :
    plan action args = [.command action args] ∧ plain (.command action args) = false := by
  simp only [direct, List.mem_cons, List.not_mem_nil, or_false] at h
  rcases h with rfl | rfl | rfl | rfl | rfl | rfl | rfl | rfl | rfl <;> exact ⟨rfl, rfl⟩

/-- The arguments are what the panel lets through for the action. -/
inductive Proper (cfg : Config) : String → Args → Prop where
  | bare {action : String} (h : action ∈ ["resume_entries", "restart_stream",
      "complete_pair_switch", "x_recover_confirmed"]) : Proper cfg action []
  | mode {mode : String} (h : mode ∈ modes) : Proper cfg "set_mode" [("mode", .text mode)]
  | switch {value pair : String} {more : Args}
    (h : PairControl.canonicalPair cfg.pairs value = .ok pair)
      (hmore : more = [] ∨ ∃ hash, more = [("registry_hash", hash)]) :
      Proper cfg "switch_pair" (("pair", .text pair) :: more)
  | convert {symbol mode : String} (h : mode ∈ modes) :
      Proper cfg "convert" [("symbol", .text symbol), ("mode", .text mode)]
  | symbol {action symbol : String}
    (h : action ∈ ["break_even", "manual_entry", "emergency_exit"]) :
      Proper cfg action [("symbol", .text symbol)]
  | lockProfit {symbol : String} {pct : ℚ} (h : 0 < pct ∧ pct ≤ 100) :
      Proper cfg "lock_profit" [("symbol", .text symbol), ("profit_pct", .number pct)]
  | tightTrail {symbol : String} {bips : ℤ} :
      Proper cfg "tight_trailing" [("symbol", .text symbol), ("delta_bips", .count bips)]
  | autoProtection {enabled : Bool} : Proper cfg "auto_protection" [("enabled", .flag enabled)]
  | setSize {amount : ℚ} (h : 0 < amount) : Proper cfg "set_size" [("quote_amount", .number amount)]
  | setMax {count : ℤ} : Proper cfg "set_max" [("count", .count count)]
  | select {pair : String} {hash : ArgValue} :
      Proper cfg "select_pair" [("pair", .text pair), ("registry_hash", hash)]
  | page {page : ℤ} : Proper cfg "pairs_page" [("page", .count page)]

/-- The update comes from the owner, in the chat of the owner. -/
def Owns (cfg : Config) (u : Update) : Prop :=
  cfg.owner ≠ "" ∧ u.user = cfg.owner ∧ u.chat = cfg.owner

theorem owns_of_isOwner {cfg : Config} {u : Update}
    (h : isOwner cfg u.user u.chat = .ok true) : Owns cfg u := by
  unfold isOwner at h
  split at h
  · cases h
  · next howner =>
    obtain ⟨same, hsame, h⟩ := except_bind_eq_ok.mp h
    cases same with
    | false => cases h
    | true =>
      have hequal : ∀ a b : String, compareDigest a b = .ok true → a = b := by
        intro a b hab
        unfold compareDigest at hab
        split at hab
        · exact of_decide_eq_true (Except.ok.inj hab)
        · cases hab
      exact ⟨howner, hequal _ _ hsame, hequal _ _ h⟩

section sound
variable {τ α : Type} [Add τ] [EmptyCollection α] {ttl now : τ}
  {past : List (CallbackCall τ α × CallbackAnswer α)} {s : CallbackStore τ α}
  {token action : String} {args : α}

/-- A store that has lost its buttons is as sound as before. -/
theorem Sound.lost (h : s.Sound ttl past) :
    ({ ttl := ttl } : CallbackStore τ α).Sound ttl past := by
  constructor
  · rfl
  · intro token item hitem
    cases hitem
  · exact h.spent

theorem Sound.granted [LinearOrder τ] (h : s.Sound ttl past)
    (hgrant : (s.consume now token).1.1 = some (action, args)) :
    CallbackStore.Granted ttl past now token action args := by
  obtain ⟨item, hitem, hfound⟩ := (s.consume_spec now token).2 _ hgrant
  obtain ⟨rfl, rfl⟩ := Prod.mk.inj hitem
  have hpending := h.pending token item hfound.held
  obtain ⟨issuedAt, given, hmem, hargs, hexpiry⟩ := hpending.issued
  constructor
  · exact ⟨issuedAt, given, hmem, hargs, hexpiry ▸ hfound.live⟩
  · intro now' why hcancel
    exact hpending.unspent _ hcancel ⟨rfl, rfl⟩
  · intro now' granted why hconsume
    exact hpending.unspent _ hconsume ⟨rfl, rfl⟩

end sound

/-- The owner has pressed a confirmation, the update `u`, and the orders of `rest` can still follow
from it: with those already given they are orders of the plan, in its order. -/
def Pressed (u : Update) (rest : List Order) (log : List Event) : Prop :=
  ∃ before since now token action args why,
    log = before ++ .call (.consume now token) (.consumed (some (action, args)) why) :: since ∧
      (∃ user chat id, u = .callback user chat id ("confirm|" ++ token)) ∧
      (∀ e ∈ since, e.update? = none) ∧ (orders since ++ rest).Sublist (plan action args)

/-- What stands behind an event, with the log up to it. -/
def Allowed (cfg : Config) (past : List Event) : Event → Prop
  | .call (.issue _ _ action given) _ =>
    ∃ u, History.latest Event.update? past = some u ∧ Owns cfg u ∧ Proper cfg action (given.getD ∅)
  | .call (.consume now token) (.consumed (some (action, args)) _) =>
    CallbackStore.Granted cfg.ttl (calls past) now token action args
  | .order o => ∃ u, History.latest Event.update? past = some u ∧ Owns cfg u ∧
      (plain o = true ∨ Pressed u [o] past)
  | _ => True

section handling
variable {σ : Type} {env : Env σ} {cfg : Config} {w : World σ} {u : Update} {rest : List Order}

structure Consistent (cfg : Config) (w : World σ) : Prop where
  sound : w.store.Sound cfg.ttl (calls w.log)
  lawful : History.Lawful (Allowed cfg) w.log

/-- No token is drawn twice. -/
def Fresh (log : List Event) : Prop := (issuedTokens (calls log)).Nodup

instance (log : List Event) : Decidable (Fresh log) :=
  inferInstanceAs (Decidable (issuedTokens (calls log)).Nodup)

theorem Fresh.earlier {log more : List Event} (h : Fresh (log ++ more)) : Fresh log := by
  unfold Fresh calls issuedTokens at h ⊢
  rw [List.filterMap_append, List.filterMap_append] at h
  exact (List.nodup_append.mp h).1

/-- The update `u` is being handled. -/
structure Handling (cfg : Config) (u : Update) (w : World σ) : Prop where
  consistent : Fresh w.log → Consistent cfg w
  now : History.latest Event.update? w.log = some u

theorem Handling.note {o : Order} {e : σ} (h : Handling cfg u w) (howns : Owns cfg u)
    (ho : plain o = true ∨ Pressed u [o] w.log) : Handling cfg u (w.note (some o) e) := by
  constructor
  · intro hfresh
    have hcons := h.consistent (Fresh.earlier hfresh)
    constructor
    · have hcalls : calls (w.log ++ [.order o]) = calls w.log := by simp [calls, Event.call?]
      exact hcalls ▸ hcons.sound
    · exact hcons.lawful.concat ⟨u, h.now, howns, ho⟩
  · exact (History.latest_other rfl).trans h.now

theorem note_none_log {e : σ} : (w.note none e).log = w.log := List.append_nil _

theorem Handling.silent {e : σ} (h : Handling cfg u w) : Handling cfg u (w.note none e) := by
  have hlog : (w.note none e).log = w.log := note_none_log
  constructor
  · intro hfresh
    rw [hlog] at hfresh
    have hcons := h.consistent hfresh
    constructor
    · rw [hlog]
      exact hcons.sound
    · rw [hlog]
      exact hcons.lawful
  · rw [hlog]
    exact h.now

theorem Handling.call {c : CallbackCall ℚ Args} {e : σ} (h : Handling cfg u w)
    (hallowed : Consistent cfg w → Allowed cfg w.log (.call c (w.store.step c).1)) :
    Handling cfg u (w.call c e) := by
  constructor
  · intro hfresh
    have hcalls : calls (w.call c e).log = calls w.log ++ [(c, (w.store.step c).1)] := by
      simp [calls, World.call, Event.call?]
    have hcons := h.consistent (Fresh.earlier hfresh)
    constructor
    · rw [hcalls]
      refine hcons.sound.step c fun token htoken hmem => ?_
      rw [Fresh, hcalls, issuedTokens, List.filterMap_append, List.nodup_append] at hfresh
      exact hfresh.2.2 token hmem token (by simp [htoken]) rfl
    · exact hcons.lawful.concat (hallowed hcons)
  · exact (History.latest_other rfl).trans h.now

theorem Handling.consume {token : String} {now : ℚ} {e : σ} (h : Handling cfg u w) :
    Handling cfg u (w.call (.consume now token) e) := by
  apply h.call
  intro hcons
  rcases hgrant : (w.store.consume now token).1.1 with _ | ⟨action, args⟩
  · have hstep : (w.store.step (.consume now token)).1 =
        .consumed none (w.store.consume now token).1.2 := by
      rw [← hgrant]
      rfl
    rw [hstep]
    trivial
  · have hstep : (w.store.step (.consume now token)).1 =
        .consumed (some (action, args)) (w.store.consume now token).1.2 := by
      rw [← hgrant]
      rfl
    rw [hstep]
    exact Sound.granted hcons.sound hgrant

/-- An act that needs no confirmation. -/
def PlainAct (cfg : Config) : (γ : Type) → Act γ → Prop
  | _, .issue action args => Proper cfg action (args.getD ∅)
  | _, op => ∀ o, order? op = some o → plain o = true

theorem Handling.exec (howns : Owns cfg u) {γ : Type} (op : Act γ)
    (hop : PlainAct cfg γ op) (w : World σ)
    (h : Handling cfg u w) : Handling cfg u (exec env γ op w).2 := by
  cases op with
  | issue action args => exact h.call fun _ => ⟨u, h.now, howns, hop⟩
  | consume token => exact h.consume
  | cancel token => exact h.call fun _ => trivial
  | enqueue name args => exact h.note howns (.inl (hop _ rfl))
  | freqtrade method endpoint => exact h.note howns (.inl (hop _ rfl))
  | _ => exact h.silent

theorem Pressed.concat (more : List Order) {log : List Event} {e : Event}
    (h : Pressed u (more ++ rest) log) (hupdate : e.update? = none) (horder : orders [e] = more) :
    Pressed u rest (log ++ [e]) := by
  obtain ⟨before, since, now, token, action, args, why, rfl, hu, halone, hplan⟩ := h
  refine ⟨before, since ++ [e], now, token, action, args, why, by simp, hu, ?_, ?_⟩
  · intro e' he'
    rcases List.mem_append.mp he' with hsince | hlast
    · exact halone e' hsince
    · rw [List.mem_singleton.mp hlast]
      exact hupdate
  · have horders : orders (since ++ [e]) = orders since ++ more := by
      rw [orders, List.filterMap_append]
      exact congrArg (orders since ++ ·) horder
    rw [horders, List.append_assoc]
    exact hplan

theorem Pressed.fewer {log : List Event} {fewer : List Order} (h : Pressed u rest log)
    (hfewer : fewer.Sublist rest) : Pressed u fewer log := by
  obtain ⟨before, since, now, token, action, args, why, hlog, hu, halone, hplan⟩ := h
  exact ⟨before, since, now, token, action, args, why, hlog, hu, halone,
    (hfewer.append_left _).trans hplan⟩

theorem Pressed.silent {e : σ} (h : Pressed u rest w.log) : Pressed u rest (w.note none e).log := by
  rw [note_none_log]
  exact h

theorem Pressed.exec {γ : Type} (op : Act γ) (hop : PlainAct cfg γ op) (w : World σ)
    (h : Pressed u rest w.log) : Pressed u rest (exec env γ op w).2.log := by
  have hplain : ∀ o, plain o = true → orders [.order o] = [] := by
    intro o ho
    simp [orders, Event.order?, ho]
  cases op with
  | issue action args => exact Pressed.concat [] h rfl rfl
  | consume token => exact Pressed.concat [] h rfl rfl
  | cancel token => exact Pressed.concat [] h rfl rfl
  | enqueue name args => exact Pressed.concat [] h rfl (hplain _ (hop _ rfl))
  | freqtrade method endpoint => exact Pressed.concat [] h rfl (hplain _ (hop _ rfl))
  | _ => exact h.silent

/-- A confirmation is being carried out. -/
def Ready (cfg : Config) (u : Update) (rest : List Order) (w : World σ) : Prop :=
  Handling cfg u w ∧ Pressed u rest w.log

theorem Ready.handling (h : Ready cfg u rest w) : Handling cfg u w := h.1

theorem keeps_handling (howns : Owns cfg u) {α : Type} {m : Working α} (hm : m.All (PlainAct cfg)) :
    Prog.Keeps (exec env) (Handling cfg u) m :=
  hm.keeps fun op hop w h => h.exec howns op hop w

theorem keeps_ready (howns : Owns cfg u) {α : Type} {m : Working α} (hm : m.All (PlainAct cfg)) :
    Prog.Keeps (exec env) (Ready cfg u rest) m :=
  hm.keeps fun op hop w h => ⟨h.1.exec howns op hop w, h.2.exec op hop w⟩

end handling

section plain
variable {cfg : Config} {action name : String} {args : Args}

theorem send_plain {content : Content} {menu : Menu} {buttons : List (List Button)} :
    (send content menu buttons).All (PlainAct cfg) :=
  .perform fun _ h => by cases h

theorem editOrSend_plain {content : Content} {messageId : Option ℤ} {menu : Menu} :
    (editOrSend content messageId menu).All (PlainAct cfg) := by
  cases messageId with
  | none => exact send_plain
  | some id =>
    refine .bind (.attempt (.perform fun _ h => by cases h)) fun r => ?_
    cases r with
    | ok _ => exact .pure
    | error _ => exact send_plain

theorem sidecarCommand_plain (h : plain (.command name args) = true) :
    (sidecarCommand name args).All (PlainAct cfg) := by
  refine .bind (.perform ?_) fun _ => .bind (.perform fun _ h => by cases h) fun answer => ?_
  · intro o ho
    rw [← Option.some.inj ho]
    exact h
  · cases answer with
    | none => exact .pure
    | some answer => exact .pure

theorem ftCall_plain {method endpoint : String} (h : plain (.freqtrade method endpoint) = true) :
    (ftCall cfg method endpoint).All (PlainAct cfg) := by
  unfold ftCall
  split
  · exact .pure
  · refine .bind (.attempt (.perform ?_)) fun r => ?_
    · intro o ho
      rw [← Option.some.inj ho]
      exact h
    · cases r with
      | ok _ => exact .pure
      | error _ => exact .pure

theorem askConfirm_plain {label text : String} {args : Option Args}
    (h : Proper cfg action (args.getD ∅)) :
    (askConfirm label action args text).All (PlainAct cfg) :=
  .bind (.bind (.perform h) fun _ => .bind (.perform fun _ h => by cases h) fun _ => .pure)
    fun _ => send_plain

theorem sendCommand_plain (h : plain (.command name args) = true) :
    (sendCommand name args).All (PlainAct cfg) :=
  .bind (sidecarCommand_plain h) fun _ => send_plain

theorem selfAudit_plain : (selfAudit cfg).All (PlainAct cfg) :=
  .bind (ftCall_plain (by decide)) fun _ => .bind (.perform fun _ h => by cases h) fun _ =>
    .bind (.perform fun _ h => by cases h) fun _ => send_plain

theorem sendPage_plain {p : Page} : (sendPage p).All (PlainAct cfg) :=
  .bind (.perform fun _ h => by cases h) fun _ => send_plain

theorem pageButton_plain {there : Bool} {label : String} {page : ℤ} :
    (pageButton there label page).All (PlainAct cfg) := by
  unfold pageButton
  split
  · exact .bind (.perform .page) fun _ => .pure
  · exact .pure

theorem pairButton_plain {registry : Registry} {active row : Option String} :
    (pairButton registry active row).All (PlainAct cfg) := by
  unfold pairButton
  split
  · exact .pure
  · exact .pure
  · exact .bind (.perform .select) fun _ => .pure

theorem sidecarJsonResult_plain : (sidecarJsonResult cfg).All (PlainAct cfg) := by
  refine .bind (sidecarCommand_plain (by decide)) fun response => ?_
  split
  · split
    · exact .pure
    · exact .pure
  · exact .pure

theorem showPairs_plain {page : ℤ} : (showPairs cfg page).All (PlainAct cfg) := by
  refine .bind sidecarJsonResult_plain fun r => ?_
  rcases r with ⟨_ | registry, error⟩
  · exact send_plain
  · dsimp only
    split
    · exact send_plain
    · exact send_plain
    · exact .bind (.perform fun _ h => by cases h) fun _ =>
        .bind (.each fun _ _ => pairButton_plain)
        fun _ => .bind pageButton_plain fun _ => .bind pageButton_plain fun _ => send_plain

theorem askMode_plain {mode : String} (h : mode ∈ modes) :
    (Broker.route.askMode mode).All (PlainAct cfg) :=
  askConfirm_plain (.mode h)

theorem route_plain {messageId : Option ℤ} :
    (Broker.route cfg action messageId).All (PlainAct cfg) := by
  unfold Broker.route
  split
  all_goals first
    | exact editOrSend_plain
    | exact send_plain
    | exact sendPage_plain
    | exact selfAudit_plain
    | exact showPairs_plain
    | exact sendCommand_plain (by decide)
    | exact askConfirm_plain (.bare (by decide))
    | exact askMode_plain (by decide)
    | exact .bind (sidecarCommand_plain (by decide)) fun _ => .bind (ftCall_plain (by decide))
        fun _ => send_plain
    | exact .bind (.perform fun _ h => by cases h) fun _ => .bind (ftCall_plain (by decide))
        fun _ => send_plain

theorem askSwitch_plain {value text : String} {more : Args}
    (hmore : more = [] ∨ ∃ hash, more = [("registry_hash", hash)]) :
    (askSwitch cfg value more text).All (PlainAct cfg) := by
  unfold askSwitch normalizePairInput
  rcases h : PairControl.canonicalPair cfg.pairs value with e | pair
  · exact send_plain
  · exact askConfirm_plain (.switch h hmore)

theorem lockProfit_plain {symbol : String} {pct : Option (Double ℚ)} :
    (command.lockProfit cfg symbol pct).All (PlainAct cfg) := by
  unfold command.lockProfit
  split
  · exact send_plain
  · split
    · next h => exact askConfirm_plain (.lockProfit h)
    · exact send_plain
  · exact send_plain

theorem setSize_plain {value : Option (Double ℚ)} :
    (command.setSize value).All (PlainAct cfg) := by
  unfold command.setSize
  split
  · exact send_plain
  · split
    · next h => exact askConfirm_plain (.setSize h)
    · exact send_plain
  · exact send_plain

theorem tightTrail_plain {symbol : String} {bips : Option ℤ} :
    (command.tightTrail cfg symbol bips).All (PlainAct cfg) := by
  cases bips with
  | none => exact send_plain
  | some bips => exact askConfirm_plain .tightTrail

theorem setMax_plain {value : Option ℤ} : (command.setMax value).All (PlainAct cfg) := by
  cases value with
  | none => exact send_plain
  | some value => exact askConfirm_plain .setMax

theorem pairsPage_plain {page : Option ℤ} : (command.pairsPage cfg page).All (PlainAct cfg) := by
  cases page with
  | none => exact send_plain
  | some page => exact showPairs_plain

theorem command_plain {cmd : String} {rest : List String} :
    (command cfg cmd rest).All (PlainAct cfg) := by
  unfold command
  split
  case h_6 =>
    split
    · next h => exact askConfirm_plain (.convert h)
    · exact send_plain
  all_goals first
    | exact send_plain
    | exact showPairs_plain
    | exact pairsPage_plain
    | exact askSwitch_plain (.inl rfl)
    | exact askConfirm_plain (.symbol (by decide))
    | exact lockProfit_plain
    | exact tightTrail_plain
    | exact setSize_plain
    | exact setMax_plain
    | (split
       · exact askConfirm_plain .autoProtection
       · exact send_plain)

theorem picked_plain {token : String} : (picked cfg token).All (PlainAct cfg) := by
  refine .bind (.perform fun _ h => by cases h) fun r => ?_
  rcases r with ⟨item, reason⟩
  dsimp only
  split
  · exact send_plain
  · exact showPairs_plain
  · exact askSwitch_plain (.inr ⟨_, rfl⟩)
  · exact send_plain

theorem canceled_plain {token : String} : (canceled token).All (PlainAct cfg) :=
  .bind (.perform fun _ h => by cases h) fun _ => send_plain

theorem asked_plain {p : Page} : (StablePanel.asked cfg p).All (PlainAct cfg) := by
  have hcommand : ∀ name, plain (.command name []) = true →
      (StablePanel.asked.command name).All (PlainAct cfg) :=
    fun name h => .bind (sidecarCommand_plain h) fun _ => .pure
  have hrequest : ∀ endpoint, (StablePanel.asked.request cfg endpoint).All (PlainAct cfg) :=
    fun endpoint => .bind (ftCall_plain rfl) fun _ => .pure
  unfold StablePanel.asked
  split
  · exact hcommand _ (by decide)
  · exact hcommand _ (by decide)
  · exact hcommand _ (by decide)
  · exact .bind (.perform fun _ h => by cases h) fun _ => hrequest _
  · exact hrequest _
  · exact hrequest _
  · exact .pure

theorem sendBuilder_plain {p : Page} : (StablePanel.sendBuilder cfg p).All (PlainAct cfg) := by
  refine .bind (.attempt (.bind asked_plain fun _ => .perform fun _ h => by cases h)) fun r => ?_
  cases r with
  | ok text => exact send_plain
  | error e => exact send_plain

theorem askActive_plain {label text : String} (h : action ∈ ["manual_entry", "emergency_exit"]) :
    (StablePanel.askActive label action text).All (PlainAct cfg) :=
  .bind (.perform fun _ h => by cases h) fun _ =>
    askConfirm_plain (.symbol (List.mem_cons_of_mem _ h))

theorem stable_route_plain {messageId : Option ℤ} :
    (StablePanel.route cfg action messageId).All (PlainAct cfg) := by
  unfold StablePanel.route
  split
  all_goals first
    | exact send_plain
    | exact sendBuilder_plain
    | exact showPairs_plain
    | exact route_plain
    | exact askActive_plain (by decide)
    | exact askConfirm_plain (.bare (by decide))
    | exact .bind (sidecarCommand_plain (by decide)) fun _ => .bind (ftCall_plain (by decide))
        fun _ => send_plain
    | exact .bind (sidecarCommand_plain (by decide)) fun _ => send_plain

end plain

section confirm
variable {σ : Type} {env : Env σ} {cfg : Config} {u : Update} {rest : List Order}

/-- The program starts where the orders of `rest` may follow, and ends with the update held. -/
abbrev Carries (env : Env σ) (cfg : Config) (u : Update) (rest : List Order) {α : Type}
    (m : Working α) (Q : α → World σ → Prop) : Prop :=
  Prog.Triple (exec env) (Ready cfg u rest) m Q (fun _ => Handling cfg u) (Handling cfg u)

theorem carries_plain (howns : Owns cfg u) {α : Type} {m : Working α} (hm : m.All (PlainAct cfg)) :
    Carries env cfg u rest m fun _ => Ready cfg u rest :=
  (keeps_ready howns hm).conseq (fun _ h => h) (fun _ _ h => h) (fun _ _ h => h.handling)
    fun _ h => h.handling

theorem carries_last (howns : Owns cfg u) {α : Type} {m : Working α} (hm : m.All (PlainAct cfg)) :
    Carries env cfg u rest m fun _ => Handling cfg u :=
  (carries_plain howns hm).post fun _ _ h => h.handling

/-- An order may be given if it is the next of the plan, or a later one. -/
theorem Ready.note {o : Order} {w : World σ} {e : σ} (h : Ready cfg u (o :: rest) w)
    (howns : Owns cfg u) (ho : plain o = false) : Ready cfg u rest (w.note (some o) e) := by
  constructor
  · exact h.1.note howns (.inr (h.2.fewer (List.singleton_sublist.mpr (List.mem_cons_self ..))))
  · exact Pressed.concat [o] h.2 rfl (by simp [orders, Event.order?, ho])

/-- The next order of the plan is given, whether or not the act then fails. -/
theorem order_carries (howns : Owns cfg u) {γ : Type} {op : Act γ} {o : Order}
    (hop : ∀ w, (exec env γ op w).2 = w.note (some o) (env.answer γ op w.env).2)
    (ho : plain o = false) :
    Prog.Triple (exec env) (Ready cfg u (o :: rest)) (Prog.perform op) (fun _ => Ready cfg u rest)
      (fun _ => Ready cfg u rest) (Handling cfg u) := by
  have hready : ∀ w r w', Ready cfg u (o :: rest) w → exec env γ op w = (r, w') →
      Ready cfg u rest w' := by
    intro w r w' h heq
    have hw' : w' = w.note (some o) (env.answer γ op w.env).2 := by rw [← hop, heq]
    rw [hw']
    exact h.note howns ho
  exact .perform (fun w h => h.handling) (fun w a w' => hready w (.ok a) w')
    fun w e w' => hready w (.error e) w'

theorem sidecarCommand_carries (howns : Owns cfg u) {name : String} {args : Args}
    (ho : plain (.command name args) = false) :
    Carries env cfg u (.command name args :: rest) (sidecarCommand name args)
      fun _ => Ready cfg u rest := by
  have hsend : Carries env cfg u (.command name args :: rest)
      (Prog.perform (.enqueue name args)) fun _ => Ready cfg u rest :=
    (order_carries howns (fun _ => rfl) ho).conseq (fun _ h => h) (fun _ _ h => h)
      (fun _ _ h => h.handling) fun _ h => h
  refine .bind hsend fun _ => .bind (carries_plain howns (.perform fun _ h => by cases h)) ?_
  rintro (_ | answer)
  · exact .pure fun _ h => h
  · exact .pure fun _ h => h

theorem ftCall_carries (howns : Owns cfg u) {method endpoint : String}
    (ho : plain (.freqtrade method endpoint) = false) :
    Carries env cfg u (.freqtrade method endpoint :: rest) (ftCall cfg method endpoint)
      fun _ => Ready cfg u rest := by
  refine .ite (fun _ => .pure fun _ h => ⟨h.1, h.2.fewer (List.sublist_cons_self ..)⟩) fun _ => ?_
  refine .bind (Q := fun _ => Ready cfg u rest)
    (.attempt (order_carries howns (fun _ => rfl) ho)) ?_
  rintro (_ | data)
  · exact .pure fun _ h => h
  · exact .pure fun _ h => h

theorem broker_confirmAction_carries (howns : Owns cfg u) {action : String} {args : Args} :
    Carries env cfg u (plan action args) (Broker.confirmAction cfg action args)
      fun _ => Handling cfg u := by
  have hsend : ∀ {rest content}, Carries env cfg u rest (send content) fun _ => Handling cfg u :=
    carries_last howns send_plain
  have hcommand : ∀ {name args}, plain (.command name args) = false →
      Carries env cfg u [.command name args] (sendCommand name args) fun _ => Handling cfg u :=
    fun ho => .bind (sidecarCommand_carries howns ho) fun _ => hsend
  unfold Broker.confirmAction
  split
  · refine .bind (ftCall_carries howns rfl) fun ft => .ite (fun _ => ?_) fun _ => hsend
    refine .bind (sidecarCommand_carries howns (by decide)) fun sidecar => .ite (fun _ => hsend) ?_
    exact fun _ => .bind (carries_plain howns (ftCall_plain (by decide))) fun _ => hsend
  · exact hcommand (by decide)
  · exact hcommand rfl
  · exact .bind (sidecarCommand_carries howns rfl) fun _ => hsend
  · refine .bind (sidecarCommand_carries howns (by decide)) fun sidecar => ?_
    refine .bind (Q := fun _ => Ready cfg u []) ?_ fun reload => ?_
    · exact .ite (fun _ => ftCall_carries howns rfl)
        fun _ => .pure fun _ h => ⟨h.1, h.2.fewer (List.nil_sublist _)⟩
    · refine .bind (Q := fun _ => Ready cfg u []) ?_ fun _ => hsend
      exact .ite (fun _ => carries_plain howns (sidecarCommand_plain (by decide)))
        fun _ => .pure fun _ h => h
  · refine .ite (fun hdirect => ?_) fun _ => .pure fun _ h => h.handling
    rw [(plan_direct hdirect).1]
    exact hcommand (plan_direct hdirect).2

/-- The steps of a recovery: each order is the next of the plan, and the others are plain. -/
theorem recover_carries (howns : Owns cfg u) {args : Args} :
    Carries env cfg u (plan "x_recover_confirmed" args) (StablePanel.recover cfg)
      fun _ => Handling cfg u := by
  have hdone : ∀ {rest} {r : Bool × String},
      Carries env cfg u rest (Pure.pure r : Working (Bool × String)) fun _ => Handling cfg u :=
    .pure fun _ h => h.handling
  refine .bind (sidecarCommand_carries howns (by decide)) fun ws =>
    .ite (fun _ => ?_) fun _ => hdone
  refine .bind (carries_plain howns (sidecarCommand_plain (by decide))) fun reconciled => ?_
  refine .ite (fun _ => ?_) fun _ => hdone
  refine .bind (sidecarCommand_carries howns (by decide)) fun clear => .ite (fun _ => ?_) ?_
  · refine .bind (ftCall_carries howns rfl) fun ft => .ite (fun _ => ?_) fun _ => hdone
    refine .bind (sidecarCommand_carries howns (by decide)) fun entries => .ite (fun _ => hdone) ?_
    exact fun _ => .bind (carries_plain howns (ftCall_plain (by decide))) fun _ => hdone
  · exact fun _ => hdone

theorem confirmAction_carries (howns : Owns cfg u) (panel : Panel) {action : String} {args : Args} :
    Carries env cfg u (plan action args) (panel.confirmAction cfg action args)
      fun _ => Handling cfg u := by
  have hsend : ∀ {rest content}, Carries env cfg u rest (send content) fun _ => Handling cfg u :=
    carries_last howns send_plain
  cases panel with
  | bot => exact broker_confirmAction_carries howns
  | stable =>
    change Carries env cfg u (plan action args) (StablePanel.confirmAction cfg action args)
      fun _ => Handling cfg u
    unfold StablePanel.confirmAction
    split
    · exact .bind (recover_carries howns) fun _ =>
        (keeps_handling howns send_plain).weaken fun _ h => h
    · refine .bind (ftCall_carries howns rfl) fun ft => .ite (fun _ => ?_) fun _ => hsend
      refine .bind (sidecarCommand_carries howns (by decide)) fun sc => .ite (fun _ => hsend) ?_
      exact fun _ => .bind (carries_plain howns (ftCall_plain (by decide))) fun _ => hsend
    · exact broker_confirmAction_carries howns

/-- A button that confirms carries out what it was made for. -/
theorem confirmed_keeps (howns : Owns cfg u) (panel : Panel) {token : String}
    (hu : ∃ user chat id, u = .callback user chat id ("confirm|" ++ token)) :
    Prog.Keeps (exec env) (Handling cfg u) (confirmed (panel.confirmAction cfg) token) := by
  have hconsume : Prog.Triple (exec env) (Handling cfg u) (Prog.perform (.consume token))
      (fun r w => Handling cfg u w ∧ ∀ action args, r.1 = some (action, args) →
        Pressed u (plan action args) w.log) (fun _ => Handling cfg u) (Handling cfg u) := by
    refine .perform (fun _ h => h) ?_ ?_
    · intro w r w' h heq
      obtain ⟨hr, rfl⟩ := Prod.mk.inj heq
      refine ⟨h.consume, fun action args hgrant => ?_⟩
      have hanswer : (w.store.step (.consume (env.time w.env).1 token)).1 =
          .consumed (some (action, args)) r.2 := by
        rw [← hgrant, ← Except.ok.inj hr]
        rfl
      refine ⟨w.log, [], (env.time w.env).1, token, action, args, r.2, ?_, hu, by simp, .refl _⟩
      exact congrArg (fun answer => w.log ++ [Event.call _ answer]) hanswer
    · intro w e w' h heq
      cases (Prod.mk.inj heq).1
  refine Prog.Triple.bind hconsume ?_
  rintro ⟨_ | ⟨action, args⟩, reason⟩
  · exact (keeps_handling howns send_plain).weaken fun _ h => h.1
  · exact (confirmAction_carries howns panel).weaken fun _ h => ⟨h.1, h.2 action args rfl⟩

end confirm

section handle
variable {σ : Type} {env : Env σ} {cfg : Config} {u : Update}

/-- The acts that leave no trace in the log. -/
theorem keeps_silent {γ : Type} {op : Act γ}
    (hop : ∀ w, (exec env γ op w).2 = w.note none (env.answer γ op w.env).2) :
    Prog.Keeps (exec env) (Handling cfg u) (Prog.perform op) :=
  .perform fun w h => by
    rw [hop]
    exact h.silent

/-- Only the owner gets past the check. -/
theorem gate_keeps {m other : Working Unit}
    (hm : Owns cfg u → Prog.Keeps (exec env) (Handling cfg u) m)
    (hother : Prog.Keeps (exec env) (Handling cfg u) other) :
    Prog.Keeps (exec env) (Handling cfg u) (do
      if ← .ofExcept (isOwner cfg u.user u.chat) then m else other) := by
  refine Prog.Triple.bind (Q := fun owner w => Handling cfg u w ∧ (owner = true → Owns cfg u)) ?_
    fun owner => ?_
  · refine .ofExcept (fun owner howner w h => ⟨h, fun htrue => ?_⟩) fun _ _ _ h => h
    exact owns_of_isOwner (htrue ▸ howner)
  · exact .assume_eq fun howns => .ite (fun htrue => hm (howns htrue)) fun _ => hother

theorem handleMessage_keeps {route : String → Option ℤ → Working Unit} {text : String}
    (hroute : ∀ action id, (route action id).All (PlainAct cfg)) :
    Prog.Keeps (exec env) (Handling cfg u) (handleMessage cfg route u text) := by
  refine gate_keeps (fun howns => keeps_handling howns ?_) (keeps_silent fun _ => rfl)
  split
  · exact command_plain
  · split
    · exact hroute _ _
    · exact command_plain

theorem after?_eq_some {head data rest : String} (h : after? head data = some rest) :
    data = head ++ rest := by
  unfold after? at h
  split at h
  · next hprefix =>
    cases h
    obtain ⟨t, ht⟩ := List.isPrefixOf_iff_prefix.mp hprefix
    apply String.toList_injective
    simp [← ht]
  · cases h

theorem handleCallback_keeps (panel : Panel) {route : String → Option ℤ → Working Unit}
    {user chat messageId : Option ℤ} {data : String}
    (hroute : ∀ action id, (route action id).All (PlainAct cfg))
    (hu : u = .callback user chat messageId data) :
    Prog.Keeps (exec env) (Handling cfg u)
      (handleCallback cfg route (panel.confirmAction cfg) u messageId data) := by
  refine .bind (.attempt (keeps_silent fun _ => rfl)) fun _ => ?_
  refine gate_keeps (fun howns => ?_) (keeps_silent fun _ => rfl)
  split
  · exact keeps_handling howns (hroute _ _)
  · exact keeps_handling howns picked_plain
  · exact keeps_handling howns picked_plain
  · exact keeps_handling howns canceled_plain
  · next token _ _ _ _ htoken =>
    exact confirmed_keeps howns panel
      ⟨user, chat, messageId, hu.trans (by rw [after?_eq_some htoken])⟩
  · exact .pure

theorem stable_handleMessage_keeps {text : String} :
    Prog.Keeps (exec env) (Handling cfg u) (StablePanel.handleMessage cfg u text) := by
  have hbroker : Prog.Keeps (exec env) (Handling cfg u)
      (Broker.handleMessage cfg (StablePanel.route cfg) u text) :=
    handleMessage_keeps fun _ _ => stable_route_plain
  unfold StablePanel.handleMessage
  split
  · exact gate_keeps (fun howns => keeps_handling howns send_plain) hbroker
  · split
    · exact hbroker
    · exact gate_keeps (fun howns => keeps_handling howns stable_route_plain) hbroker

theorem handle_keeps (panel : Panel) :
    Prog.Keeps (exec env) (Handling cfg u) (panel.handle cfg u) := by
  cases panel with
  | bot =>
    cases u with
    | message user chat text => exact handleMessage_keeps fun _ _ => route_plain
    | callback user chat messageId data =>
      exact handleCallback_keeps .bot (fun _ _ => route_plain) rfl
  | stable =>
    cases u with
    | message user chat text => exact stable_handleMessage_keeps
    | callback user chat messageId data =>
      exact handleCallback_keeps .stable (fun _ _ => stable_route_plain) rfl

end handle

section runs
variable {σ : Type} {env : Env σ} {cfg : Config} {w : World σ}

/-- What holds between the turns. -/
def SoundIfFresh (cfg : Config) (w : World σ) : Prop := Fresh w.log → Consistent cfg w

theorem SoundIfFresh.start (s : σ) : SoundIfFresh cfg (World.start cfg s) := by
  intro _
  exact ⟨.empty _, .nil⟩

theorem SoundIfFresh.restarted (h : SoundIfFresh cfg w) : SoundIfFresh cfg (w.restarted cfg) := by
  intro hfresh
  have hcons := h hfresh
  exact ⟨Sound.lost hcons.sound, hcons.lawful⟩

theorem SoundIfFresh.begun (h : SoundIfFresh cfg w) (u : Update) :
    Handling cfg u { w with log := w.log ++ [.update u] } := by
  constructor
  · intro hfresh
    have hcons := h (Fresh.earlier hfresh)
    constructor
    · have hcalls : calls (w.log ++ [.update u]) = calls w.log := by simp [calls, Event.call?]
      exact hcalls ▸ hcons.sound
    · exact hcons.lawful.concat trivial
  · exact History.latest_mark rfl

theorem SoundIfFresh.turn (h : SoundIfFresh cfg w) (t : Turn) :
    SoundIfFresh cfg (w.turn env cfg t) := by
  cases t with
  | restart => exact h.restarted
  | handle panel u budget =>
    have hkeeps : Prog.Keeps (exec env) (Handling cfg u) (panel.handle cfg u) := handle_keeps panel
    have hrun := hkeeps.run budget (h.begun u)
    rcases heq : Prog.run (exec env) budget (panel.handle cfg u)
      { w with log := w.log ++ [.update u] } with ⟨outcome, w'⟩
    rw [heq] at hrun
    simp only [World.turn, heq]
    cases outcome with
    | done a => exact hrun.consistent
    | raised e => exact hrun.consistent
    | crashed => exact SoundIfFresh.restarted hrun.consistent

theorem SoundIfFresh.run (h : SoundIfFresh cfg w) (turns : List Turn) :
    SoundIfFresh cfg (w.run env cfg turns) := by
  induction turns generalizing w with
  | nil => exact h
  | cons t turns ih => exact ih (h.turn t)

/-- What stands behind an order that is not plain: the button was pressed in the update that is
being handled, it was made for the action while the owner was served and it works no more; the
orders since the press are the plan of the action, as far as it went. -/
structure Confirms (cfg : Config) (before since : List Event) (u : Update) (now : ℚ)
    (token action : String) (args : Args) (o : Order) : Prop where
  pressed : ∃ user chat id, u = .callback user chat id ("confirm|" ++ token)
  alone : ∀ e ∈ since, e.update? = none
  planned : (orders since ++ [o]).Sublist (plan action args)
  granted : CallbackStore.Granted cfg.ttl (calls before) now token action args
  proper : Proper cfg action args
  asked : ∃ earlier issuedAt given asker,
    earlier ++ [.call (.issue issuedAt token action given) (.issued token)] <+: before ∧
      History.latest Event.update? earlier = some asker ∧ Owns cfg asker

theorem mem_calls {log : List Event} {c : CallbackCall ℚ Args} {a : CallbackAnswer Args} :
    (c, a) ∈ calls log ↔ .call c a ∈ log := by
  rw [calls, List.mem_filterMap]
  constructor
  · rintro ⟨e, he, hcall⟩
    cases e with
    | call c' a' =>
      cases hcall
      exact he
    | update u => cases hcall
    | order o => cases hcall
  · exact fun h => ⟨_, h, rfl⟩

/-- Whatever the updates and the answers, wherever the process dies: an order leaves a panel only
for the owner, and unless it is plain only by a confirmation that was made for it. -/
theorem orders_confirmed (s : σ) (turns : List Turn)
    (hfresh : Fresh ((World.start cfg s).run env cfg turns).log) {past : List Event} {o : Order}
    (h : past ++ [.order o] <+: ((World.start cfg s).run env cfg turns).log) :
    ∃ u, History.latest Event.update? past = some u ∧ Owns cfg u ∧
      (plain o = true ∨ ∃ before since now token action args why,
        past = before ++ .call (.consume now token) (.consumed (some (action, args)) why) :: since ∧
          Confirms cfg before since u now token action args o) := by
  have hrun : SoundIfFresh cfg ((World.start cfg s).run env cfg turns) :=
    (SoundIfFresh.start s).run turns
  have hlawful := (hrun hfresh).lawful
  obtain ⟨u, hu, howns, hplain | hpressed⟩ := hlawful past _ h
  · exact ⟨u, hu, howns, .inl hplain⟩
  · obtain ⟨before, since, now, token, action, args, why, rfl, hpress, halone, hplan⟩ := hpressed
    refine ⟨u, hu, howns, .inr ⟨before, since, now, token, action, args, why, rfl, ?_⟩⟩
    have hpress' : before ++ [.call (.consume now token) (.consumed (some (action, args)) why)] <+:
        ((World.start cfg s).run env cfg turns).log :=
      List.IsPrefix.trans ⟨since ++ [.order o], by simp⟩ h
    have hgranted : CallbackStore.Granted cfg.ttl (calls before) now token action args :=
      hlawful before _ hpress'
    obtain ⟨issuedAt, given, hmem, hargs, -⟩ := hgranted.issued
    obtain ⟨earlier, hearlier⟩ := History.exists_past (mem_calls.mp hmem)
    obtain ⟨asker, hasker, hasks, hproper⟩ := hlawful earlier _
      (hearlier.trans ((List.prefix_append _ _).trans hpress'))
    rw [← hargs] at hproper
    exact ⟨hpress, halone, hplan, hgranted, hproper,
      earlier, issuedAt, given, asker, hearlier, hasker, hasks⟩

end runs

namespace Scripted

def config : Config where
  owner := "7"
  ttl := 120
  ftPass := "secret"
  pairs := PairControl.Scripted.config
  strip := id
  lower := id
  upper := id
  split text := [text]
  float _ := none
  int _ := none
  registry _ := none
  reason _ := "refused"
  normalize := id

/-- The tokens are written down, and nothing fails. -/
def env : Env (List String) where
  time s := (0, s)
  token s := (s.headD "", s.tail)
  answer
    | _, .issue _ _, s => (.ok "", s)
    | _, .consume _, s => (.ok (none, ""), s)
    | _, .cancel _, s => (.ok (false, ""), s)
    | _, .enqueue _ _, s => (.ok (), s)
    | _, .result, s => (.ok (some { ok := true, result := "" }), s)
    | _, .freqtrade _ _, s => (.ok "", s)
    | _, .send _ _ _, s => (.ok (), s)
    | _, .editMessage _ _ _, s => (.ok (), s)
    | _, .answerCallbackQuery, s => (.ok (), s)
    | _, .audit _, s => (.ok (), s)
    | _, .activePair, s => (.ok { pair := none, symbol := none }, s)
    | _, .page _ _, s => (.ok "", s)

def opened : Update := .message (some 7) (some 7) "/start"
def pressed : Update := .callback (some 7) (some 7) none "confirm|t"

/-- The owner resumes the entries, and the process dies after the sidecar has its order. -/
def turns : List Turn := [.handle .bot opened 9, .handle .bot pressed 4]

def past : List Event :=
  [.update opened, .call (.issue 0 "t" "resume_entries" none) (.issued "t"), .update pressed,
    .call (.consume 0 "t") (.consumed (some ("resume_entries", [])) "ok"),
    .order (.freqtrade "POST" "/start")]

end Scripted

theorem orders_confirmed_resumed :
    ∃ u, History.latest Event.update? Scripted.past = some u ∧ Owns Scripted.config u ∧
      (plain (.command "entries" [("enabled", .flag true)]) = true ∨
        ∃ before since now token action args why,
          Scripted.past =
            before ++ .call (.consume now token) (.consumed (some (action, args)) why) :: since ∧
          Confirms Scripted.config before since u now token action args
            (.command "entries" [("enabled", .flag true)])) := by
  have hlog : ((World.start Scripted.config ["t"]).run Scripted.env Scripted.config
      Scripted.turns).log = Scripted.past ++
        [.order (.command "entries" [("enabled", .flag true)])] := by
    decide +kernel
  have hfresh : Fresh ((World.start Scripted.config ["t"]).run Scripted.env Scripted.config
      Scripted.turns).log := by
    rw [hlog]
    decide +kernel
  exact orders_confirmed ["t"] Scripted.turns hfresh ⟨[], by rw [List.append_nil, hlog]⟩

end SpotSidecar.Telegram.Broker.Owner
