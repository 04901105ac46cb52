import SpotSidecar.Collections.History
import SpotSidecar.Interaction.Triple
import SpotSidecar.Json.Value
import SpotSidecar.PairControl.Policy
import SpotSidecar.Telegram.Callbacks

/-! The two control panels of the owner: what a message or a button makes the broker do. -/
namespace SpotSidecar.Telegram.Broker
open Interaction
open PairControl (PairConfig)

/-- A value among the arguments of an action. -/
inductive ArgValue where
  | text (s : String)
  | flag (b : Bool)
  | number (x : ℚ)
  | count (n : ℤ)
  | absent
  deriving DecidableEq, Repr

/-- The text of a value; no other value is ever read as a text. -/
def ArgValue.asText : ArgValue → String
  | .text s => s
  | _ => ""

/-- The number of a value; only a page is ever read as one. -/
def ArgValue.asInt : ArgValue → ℤ
  | .count n => n
  | _ => 0

abbrev Args := List (String × ArgValue)

/-- What is read of the result file of a command. -/
structure CommandAnswer where
  ok : Bool
  result : String
  deriving DecidableEq, Repr

structure FtAnswer where
  ok : Bool
  /-- the `data` or the `error` -/
  detail : String
  deriving DecidableEq, Repr

/-- The `pairs` of the registry with the rows that have no pair, and its hash. -/
structure Registry where
  pairs : Option (List (Option String))
  registryHash : Option String
  deriving DecidableEq, Repr

structure ActivePair where
  pair : Option String
  symbol : Option String
  deriving DecidableEq, Repr

/-- The inline keyboards whose buttons only lead on. -/
inductive Menu where
  | none
  | home
  | dashboard
  | trading
  | system
  | emergency
  | help
  deriving DecidableEq, Repr

structure Button where
  text : String
  callbackData : String
  deriving DecidableEq, Repr

/-- A member of a text that is a dump of answers. -/
inductive Shown where
  | sidecar (a : CommandAnswer)
  | freqtrade (a : FtAnswer)
  | text (s : String)
  | null
  deriving DecidableEq, Repr

inductive Content where
  | text (s : String)
  | dump (members : List (String × Shown))
  | answer (a : CommandAnswer)
  /-- `help_text` -/
  | help
  deriving DecidableEq, Repr

/-- An update of Telegram. An id may be missing. -/
inductive Update where
  | message (user chat : Option ℤ) (text : String)
  | callback (user chat : Option ℤ) (messageId : Option ℤ) (data : String)
  deriving DecidableEq, Repr

/-- `str` of `.get("id")` -/
def Update.user : Update → String
  | .message user _ _ | .callback user _ _ _ => (user.map toString).getD "None"

/-- `str` of `.get("id", "")` -/
def Update.chat : Update → String
  | .message _ chat _ | .callback _ chat _ _ => (chat.map toString).getD ""

/-- What the process reads from its environment, with the functions of Python it applies to
texts. -/
structure Config where
  owner : String
  ttl : ℚ
  ftPass : String
  pairs : PairConfig
  strip : String → String
  lower : String → String
  upper : String → String
  split : String → List String
  float : String → Option (Double ℚ)
  int : String → Option ℤ
  /-- `json.loads` of the result of `pairs` -/
  registry : String → Option Registry
  /-- `str` of an error of `canonical_pair` -/
  reason : PairControl.PairExc → String
  /-- `normalize_button_text` -/
  normalize : String → String

/-- The texts that are put together from files and answers. -/
inductive Page where
  | flow
  | lastSignal
  | tailAudit
  | deploy
  | audit
  | settings
  | backtest
  | status
  | balance
  | openTrades
  | history
  | current
  | lastRow
  | recent
  | pnl24
  | pair
  | cmc
  | cg
  | health
  | logs
  | protection
  | system
  deriving DecidableEq, Repr

inductive Act : Type → Type 1 where
  | issue (action : String) (args : Option Args) : Act String
  | consume (token : String) : Act (Option (String × Args) × String)
  | cancel (token : String) : Act (Bool × String)
  /-- A signed command is put into the inbox. -/
  | enqueue (name : String) (args : Args) : Act Unit
  /-- The result of the last command, if it comes in time. -/
  | result : Act (Option CommandAnswer)
  | freqtrade (method endpoint : String) : Act String
  | send (content : Content) (menu : Menu) (buttons : List (List Button)) : Act Unit
  | editMessage (id : ℤ) (content : Content) (menu : Menu) : Act Unit
  | answerCallbackQuery : Act Unit
  | audit (event : String) : Act Unit
  | activePair : Act ActivePair
  | page (p : Page) (answers : List Shown) : Act String

abbrev Working := Prog Exc Act

def send (content : Content) (menu : Menu := .none) (buttons : List (List Button) := []) :
    Working Unit :=
  .perform (.send content menu buttons)

/-- The menu is edited in place, or sent anew. -/
def editOrSend (content : Content) (messageId : Option ℤ) (menu : Menu) : Working Unit :=
  match messageId with
  | none => send content menu
  | some id => do
    match ← (Prog.perform (.editMessage id content menu) : Working Unit).attempt with
    | .ok () => return ()
    | .error _ => send content menu

/-- `sidecar_command` with `wait` -/
def sidecarCommand (name : String) (args : Args := []) : Working CommandAnswer := do
  .perform (.enqueue name args)
  match ← (.perform .result : Working (Option CommandAnswer)) with
  | some answer => return answer
  | none => return {
      ok := false
      result := "command outcome is uncertain; inspect status/reconcile before any retry" }

def ftCall (cfg : Config) (method endpoint : String) : Working FtAnswer :=
  if cfg.ftPass = "" then
    return { ok := false, detail := "Freqtrade API password not configured" }
  else do
    match ← (Prog.perform (.freqtrade method endpoint) : Working String).attempt with
    | .ok data => return { ok := true, detail := data }
    | .error e => return { ok := false, detail := e.text }

/-- `confirm_button`: the token of the button. -/
def confirmButton (action : String) (args : Option Args) : Working String := do
  let token ← .perform (.issue action args)
  .perform (.audit "telegram_confirmation_issued")
  return token

def askConfirm (label action : String) (args : Option Args := none)
    (text : String := "Confirm action.") : Working Unit := do
  let token ← confirmButton action args
  send (.text text) .none [[{ text := label, callbackData := "confirm|" ++ token }],
    [{ text := "Cancel", callbackData := "cancel|" ++ token }]]

/-- `hmac.compare_digest` of two texts -/
def compareDigest (a b : String) : Except Exc Bool :=
  if (a ++ b).toList.all fun c => c.toNat < 128 then .ok (a = b)
  else .error {
    kind := .type
    text := "comparing strings with non-ASCII characters is not supported" }

/-- `is_owner` with a chat -/
def isOwner (cfg : Config) (userId chatId : String) : Except Exc Bool := do
  if cfg.owner = "" then return false
  let user ← compareDigest userId cfg.owner
  if user then compareDigest chatId cfg.owner else return false

def normalizePairInput (cfg : Config) (text : String) : Option String × String :=
  match PairControl.canonicalPair cfg.pairs text with
  | .ok pair => (some pair, "ok")
  | .error e => (none, cfg.reason e)

/-- `_sidecar_json_result("pairs")` -/
def sidecarJsonResult (cfg : Config) : Working (Option Registry × String) := do
  let response ← sidecarCommand "pairs"
  if response.ok then
    match cfg.registry response.result with
    | some registry => return (some registry, "")
    | none => return (none, "sidecar returned malformed pair-registry data")
  else return (none, response.result)

/-- The button of a row of the registry, if the row has a pair. -/
def pairButton (registry : Registry) (active : Option String) (row : Option String) :
    Working (List (List Button)) :=
  match row with
  | none => return []
  | some "" => return []
  | some pair => do
    let token ← .perform (.issue "select_pair" (some [("pair", .text pair),
      ("registry_hash", (registry.registryHash.map ArgValue.text).getD .absent)]))
    return [[{
      text := (if some pair = active then "✓ " else "") ++ pair
      callbackData := "select|" ++ token }]]

/-- A button to another page of the pairs, if there is such a page. -/
def pageButton (there : Bool) (label : String) (page : ℤ) : Working (List Button) :=
  if there then do
    let token ← .perform (.issue "pairs_page" (some [("page", .count page)]))
    return [{ text := label, callbackData := "page|" ++ token }]
  else return []

/-- `_show_pairs` -/
def showPairs (cfg : Config) (page : ℤ) : Working Unit := do
  let (registry, error) ← sidecarJsonResult cfg
  match registry with
  | none => send (.text ("BTC pair menu unavailable: " ++ error))
  | some registry =>
    match registry.pairs with
    | none | some [] =>
      send (.text "BTC pair menu unavailable: registry contains no eligible pairs.")
    | some rows => do
      let pages : ℤ := max 1 ((rows.length + 7 : ℤ) / 8)
      let page := max 0 (min page (pages - 1))
      let active ← .perform .activePair
      let buttons ← Prog.each (pairButton registry active.pair)
        ((rows.drop (page.toNat * 8)).take 8)
      let back ← pageButton (0 < page) "‹ Previous" (page - 1)
      let next ← pageButton (page + 1 < pages) "Next ›" (page + 1)
      let navigation := back ++ next
      send (.text ("Eligible Binance BTC-base Spot pairs — page " ++ toString (page + 1) ++ "/" ++
          toString pages ++ ". Selection never resumes entries automatically."))
        .none (buttons.flatten ++ if navigation = [] then [] else [navigation])

/-- A text that is read and then sent as it is. -/
def sendPage (p : Page) : Working Unit := do
  let text ← .perform (.page p [])
  send (.text text)

/-- A command without arguments whose answer is sent. -/
def sendCommand (name : String) (args : Args := []) : Working Unit := do
  let answer ← sidecarCommand name args
  send (.answer answer)

/-- `_self_audit`: the checks of the files and of a request to Freqtrade. -/
def selfAudit (cfg : Config) : Working Unit := do
  let freqtrade ← ftCall cfg "GET" "/ping"
  let text ← .perform (.page .audit [.freqtrade freqtrade])
  .perform (.audit "telegram_self_audit")
  send (.text text)

/-- `route` -/
def route (cfg : Config) (action : String) (messageId : Option ℤ) : Working Unit :=
  match action with
  | "home" => editOrSend (.text "Bitcoin Spot bot owner controls") messageId .home
  | "menu_dashboard" =>
    editOrSend (.text "Dashboard - read-only bot and account status.") messageId .dashboard
  | "menu_trading" => editOrSend (.text "Trading and protection controls.") messageId .trading
  | "menu_system" =>
    editOrSend (.text "System, validation and deployment controls.") messageId .system
  | "menu_emergency" =>
    editOrSend (.text "Emergency controls - confirmations remain mandatory.") messageId .emergency
  | "help" => editOrSend .help messageId .help
  | "entries_on" => askConfirm "CONFIRM resume" "resume_entries" none
      "Resume Freqtrade signal generation and sidecar entries?"
  | "entries_off" => do
    let sidecar ← sidecarCommand "entries" [("enabled", .flag false)]
    let freqtrade ← ftCall cfg "POST" "/pause"
    send (.dump [("sidecar", .sidecar sidecar), ("freqtrade", .freqtrade freqtrade)])
  | "mode_fixed" => askMode "FIXED_OCO"
  | "mode_trailing" => askMode "TRAILING_ONLY"
  | "mode_oco_trailing" => askMode "OCO_TRAILING"
  | "status" => sendCommand "status"
  | "balance" => sendCommand "balance"
  | "profit" => sendCommand "profit"
  | "pair" => sendCommand "pair"
  | "pairs" => showPairs cfg 0
  | "swap_done" => askConfirm "CONFIRM manual swap completed" "complete_pair_switch" none
      ("Confirm only after any required Binance-side quote-asset swap is complete. The sidecar " ++
        "will recheck flat state, funding, filters and protection capability before applying " ++
        "the pair.")
  | "verify_pair" => sendCommand "verify_pair_switch"
  | "flow" => sendPage .flow
  | "last_signal" => sendPage .lastSignal
  | "logs" => do
    let tail ← .perform (.page .tailAudit [])
    let logs ← ftCall cfg "GET" "/logs?limit=20"
    send (.dump [("", .text tail), ("", .freqtrade logs)])
  | "reconcile" => sendCommand "reconcile"
  | "restart_stream" => askConfirm "CONFIRM restart" "restart_stream"
  | "deploy" => sendPage .deploy
  | "audit" => selfAudit cfg
  | "settings" => sendPage .settings
  | "backtest" => sendPage .backtest
  | "emergency_help" =>
    send (.text "Use /emergency <current BTC symbol>, for example /emergency BTCUSDT.")
  | "trailing_help" =>
    send (.text "Use /tighttrail BTCUSDT 20. Binance filters clamp the final delta.")
  | "be_help" =>
    send (.text "Use /breakeven BTCUSDT. The replacement stop includes configured fees/slippage.")
  | "profit_help" => send (.text "Use /lockprofit BTCUSDT 0.2 to request a stop above entry.")
  | _ => send .help
where
  askMode (mode : String) : Working Unit :=
    askConfirm "CONFIRM mode" "set_mode" (some [("mode", .text mode)])
      ("Use " ++ mode ++ " for future entries?")

/-- The actions that are commands of the same name. -/
def direct : List String :=
  ["convert", "break_even", "lock_profit", "tight_trailing", "manual_entry", "emergency_exit",
    "set_size", "set_max", "auto_protection"]

/-- `_confirm_action` -/
def confirmAction (cfg : Config) (action : String) (args : Args) : Working Unit :=
  match action with
  | "resume_entries" => do
    let ft ← ftCall cfg "POST" "/start"
    if ft.ok then
      let sidecar ← sidecarCommand "entries" [("enabled", .flag true)]
      if sidecar.ok then
        send (.dump [("sidecar", .sidecar sidecar), ("freqtrade", .freqtrade ft),
          ("freqtrade_rollback", .null)])
      else
        let rollback ← ftCall cfg "POST" "/pause"
        send (.dump [("sidecar", .sidecar sidecar), ("freqtrade", .freqtrade ft),
          ("freqtrade_rollback", .freqtrade rollback)])
    else
      send (.dump [("sidecar", .sidecar {
          ok := false, result := "Freqtrade start failed; sidecar remains paused" }),
        ("freqtrade", .freqtrade ft), ("freqtrade_rollback", .null)])
  | "restart_stream" => sendCommand "restart_stream"
  | "set_mode" => sendCommand "mode" args
  | "switch_pair" => do
    let sidecar ← sidecarCommand "switch_pair" args
    send (.dump [("sidecar", .sidecar sidecar),
      ("next_action", .text (if sidecar.ok then
        "Complete any required quote-asset swap on Binance, then use /swapdone. No pair " ++
          "configuration has changed yet."
        else "Pair selection was refused; inspect the sidecar result.")),
      ("entries", .text "remain OFF")])
  | "complete_pair_switch" => do
    let sidecar ← sidecarCommand "complete_pair_switch"
    let reload ← reloadConfig sidecar.ok
    let verification ← verify reload.ok
    send (.dump [("sidecar", .sidecar sidecar), ("freqtrade_reload", .freqtrade reload),
      ("pair_verification", .sidecar verification),
      ("next_action", .text ("If verification is still pending, wait for a fresh strategy " ++
        "heartbeat and use /verifypair. Resume separately with /start.")),
      ("entries", .text "remain OFF until explicit resume")])
  | action => if action ∈ direct then sendCommand action args else return ()
where
  reloadConfig (completed : Bool) : Working FtAnswer :=
    if completed then ftCall cfg "POST" "/reload_config"
    else return { ok := false, detail := "sidecar refused manual-swap completion" }
  verify (reloaded : Bool) : Working CommandAnswer :=
    if reloaded then sidecarCommand "verify_pair_switch"
    else return { ok := false, result := "Freqtrade reload was not confirmed" }

/-- The words of messages that lead where a button leads. -/
def routed : List (String × String) :=
  [("/start", "entries_on"), ("/stop", "entries_off"), ("/pause", "entries_off"),
    ("/status", "status"), ("/balance", "balance"), ("/profit", "profit"), ("/pair", "pair"),
    ("/flow", "flow"), ("/swapdone", "swap_done"), ("/verifypair", "verify_pair"),
    ("/logs", "logs"), ("/deploy", "deploy"), ("/audit", "audit"), ("/lastsignal", "last_signal"),
    ("/backtest", "backtest"), ("/settings", "settings"), ("/reconcile", "reconcile"),
    ("/restartws", "restart_stream"), ("/fixed_oco", "mode_fixed"),
    ("/trailing_only", "mode_trailing"), ("/oco_trailing", "mode_oco_trailing")]

def modes : List String := ["FIXED_OCO", "TRAILING_ONLY", "OCO_TRAILING"]

/-- `replace("/", "")` -/
def withoutSlashes (s : String) : String := String.ofList (s.toList.filter (· ≠ '/'))

/-- A switch to a pair is proposed, if the text names a pair. -/
def askSwitch (cfg : Config) (value : String) (more : Args) (text : String) : Working Unit :=
  match normalizePairInput cfg value with
  | (none, why) => send (.text ("Pair rejected: " ++ why))
  | (some pair, _) => askConfirm "CONFIRM pair switch" "switch_pair"
      (some (("pair", .text pair) :: more)) ("Switch active Spot pair to " ++ pair ++ text)

/-- The messages of an owner that are not routed: the first word and the others. -/
def command (cfg : Config) (cmd : String) (rest : List String) : Working Unit :=
  match cmd, rest with
  | "/menu", _ | "/owner", _ => send (.text "Bitcoin Spot bot owner controls") .home
  | "/pairs", [page] => pairsPage (cfg.int page)
  | "/pairs", _ => showPairs cfg 0
  | "/switchpair", [pair] => askSwitch cfg pair []
      "? Requires verified flat account; entries stay off."
  | "/convert", [symbol, mode] =>
    if cfg.upper mode ∈ modes then
      askConfirm "CONFIRM conversion" "convert"
        (some [("symbol", .text (cfg.upper symbol)), ("mode", .text (cfg.upper mode))])
    else send (.text "Invalid protection mode.")
  | "/breakeven", [symbol] =>
    askConfirm "CONFIRM break-even" "break_even" (some [("symbol", .text (cfg.upper symbol))])
  | "/lockprofit", [symbol] => lockProfit symbol (some (.finite (1 / 5)))
  | "/lockprofit", [symbol, pct] => lockProfit symbol (cfg.float pct)
  | "/tighttrail", [symbol] => tightTrail symbol (some 20)
  | "/tighttrail", [symbol, bips] => tightTrail symbol (cfg.int bips)
  | "/autoprotection", [value] =>
    if cfg.lower value ∈ ["on", "off"] then
      askConfirm "CONFIRM automatic protection" "auto_protection"
        (some [("enabled", .flag (cfg.lower value = "on"))])
    else send .help
  | "/buy", [symbol] =>
    askConfirm "CONFIRM manual 1 BTC buy" "manual_entry"
      (some [("symbol", .text (cfg.upper (withoutSlashes symbol)))])
      "Submit one manual TestNet entry through the normal protected sidecar path?"
  | "/sell", [symbol] =>
    askConfirm "CONFIRM manual protected exit" "emergency_exit"
      (some [("symbol", .text (cfg.upper (withoutSlashes symbol)))])
      "Cancel current protection and sell the bot-owned BTC position now?"
  | "/emergency", [symbol] =>
    askConfirm "CONFIRM emergency exit" "emergency_exit"
      (some [("symbol", .text (cfg.upper symbol))])
  | "/setsize", [value] => setSize (cfg.float value)
  | "/setmax", [value] => setMax (cfg.int value)
  | _, _ => send .help
where
  pairsPage (page : Option ℤ) : Working Unit :=
    match page with
    | some page => showPairs cfg (page - 1)
    | none => send (.text "Pair-menu page must be a positive integer.")
  setSize (value : Option (Double ℚ)) : Working Unit :=
    match value with
    | none => send (.text "Invalid quote amount.")
    | some (.finite value) =>
      if 0 < value then
        askConfirm "CONFIRM trade size" "set_size" (some [("quote_amount", .number value)])
      else send (.text "Quote amount must be positive and finite.")
    | some _ => send (.text "Quote amount must be positive and finite.")
  setMax (value : Option ℤ) : Working Unit :=
    match value with
    | none => send (.text "Invalid position count.")
    | some value => askConfirm "CONFIRM max positions" "set_max" (some [("count", .count value)])
  lockProfit (symbol : String) (pct : Option (Double ℚ)) : Working Unit :=
    match pct with
    | none => send (.text "Invalid profit percentage.")
    | some (.finite pct) =>
      if 0 < pct ∧ pct ≤ 100 then
        askConfirm "CONFIRM profit lock" "lock_profit"
          (some [("symbol", .text (cfg.upper symbol)), ("profit_pct", .number pct)])
      else send (.text "Profit percentage must be within (0,100].")
    | some _ => send (.text "Profit percentage must be within (0,100].")
  tightTrail (symbol : String) (bips : Option ℤ) : Working Unit :=
    match bips with
    | none => send (.text "Invalid trailing delta.")
    | some bips => askConfirm "CONFIRM tight trail" "tight_trailing"
        (some [("symbol", .text (cfg.upper symbol)), ("delta_bips", .count bips)])

section open_recursion
variable (cfg : Config) (route : String → Option ℤ → Working Unit)
  (confirmAction : String → Args → Working Unit)

/-- `handle_message`, with the `route` of the panel that runs. -/
def handleMessage (u : Update) (text : String) : Working Unit := do
  if ← .ofExcept (isOwner cfg u.user u.chat) then
    match cfg.split (cfg.strip text) with
    | [] => command cfg "" []
    | word :: rest =>
      match routed.lookup (cfg.lower word) with
      | some action => route action none
      | none => command cfg (cfg.lower word) rest
  else .perform (.audit "telegram_unauthorized")

/-- What a button of the list of pairs does. -/
def picked (token : String) : Working Unit := do
  let (item, reason) ← .perform (.consume token)
  match item with
  | none => send (.text ("Pair action rejected: " ++ reason))
  | some ("pairs_page", args) => showPairs cfg ((args.lookup "page").getD (.count 0)).asInt
  | some ("select_pair", args) =>
    askSwitch cfg ((args.lookup "pair").getD (.text "")).asText
      [("registry_hash", (args.lookup "registry_hash").getD .absent)]
      ("? The sidecar will refresh Binance metadata, verify clean durable/exchange state and " ++
        "disarm entries. It will then wait for /swapdone; it will not change the pair or resume " ++
        "entries automatically.")
  | some _ => send (.text "Pair action rejected: unexpected callback action.")

/-- What follows `head` in `data`. -/
def after? (head data : String) : Option String :=
  if head.toList.isPrefixOf data.toList then
    some (String.ofList (data.toList.drop head.toList.length))
  else none

def canceled (token : String) : Working Unit := do
  let (ok, reason) ← .perform (.cancel token)
  send (.text (if ok then "Action canceled." else "Cancellation rejected: " ++ reason))

def confirmed (token : String) : Working Unit := do
  let (item, reason) ← .perform (.consume token)
  match item with
  | none => send (.text ("Confirmation rejected: " ++ reason))
  | some (action, args) => confirmAction action args

/-- `handle_callback`, with the functions of the panel that runs. -/
def handleCallback (u : Update) (messageId : Option ℤ) (data : String) : Working Unit := do
  let _ ← (Prog.perform .answerCallbackQuery : Working Unit).attempt
  if ← .ofExcept (isOwner cfg u.user u.chat) then
    match after? "do|" data, after? "select|" data, after? "page|" data, after? "cancel|" data,
        after? "confirm|" data with
    | some action, _, _, _, _ => route action (messageId.filter (0 < ·))
    | none, some token, _, _, _ => picked cfg token
    | none, none, some token, _, _ => picked cfg token
    | none, none, none, some token, _ => canceled token
    | none, none, none, none, some token => confirmed confirmAction token
    | none, none, none, none, none => return ()
  else .perform (.audit "telegram_callback_unauthorized")

end open_recursion
end SpotSidecar.Telegram.Broker
