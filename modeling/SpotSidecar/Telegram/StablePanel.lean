import SpotSidecar.Telegram.Broker

/-! The panel of the TestNet: it answers more buttons than the broker, and puts its own functions in
the place of the ones the broker calls. -/
namespace SpotSidecar.Telegram.Broker
open Interaction

namespace StablePanel

/-- `BUTTON_ACTIONS` -/
def buttonActions : List (String × String) :=
  [("📊 Status", "status"), ("💰 Balance", "balance"), ("📋 Open Trades", "x_open"),
    ("📜 History", "x_history"), ("📡 Current Signal", "x_current"),
    ("🕘 Last Signal", "last_signal"), ("🗂 Recent Signals", "x_recent"),
    ("💵 P&L 24h", "x_pnl24"), ("₿ BTC Pair", "pair"), ("🔄 Choose Pair", "pairs"),
    ("🌊 Money Flow", "flow"), ("🩺 Health", "x_health"), ("📊 CoinMarketCap", "x_cmc"),
    ("🦎 CoinGecko", "x_cg"), ("🟢 Buy 1 BTC", "x_manual_buy"), ("🔴 Sell 1 BTC", "x_manual_sell"),
    ("▶️ Resume Entries", "entries_on"), ("⏸ Pause Entries", "x_pause"),
    ("🔁 Reconcile", "x_reconcile"), ("🛡 Protection", "x_protection"), ("⚙️ System", "x_system"),
    ("🧯 Recover Stream", "x_recover"), ("🚨 Emergency", "menu_emergency"), ("📄 Logs", "logs"),
    ("ℹ️ Help", "help")]

/-- `LEGACY_TEXT_ACTIONS` -/
def legacyTextActions : List (String × String) :=
  [("status", "status"), ("balance", "balance"), ("open trades", "x_open"),
    ("history", "x_history"), ("current signal", "x_current"), ("last signal", "last_signal"),
    ("recent signals", "x_recent"), ("p and l 24h", "x_pnl24"), ("pnl 24h", "x_pnl24"),
    ("profit", "x_pnl24"), ("btc pair", "pair"), ("choose pair", "pairs"), ("money flow", "flow"),
    ("health", "x_health"), ("coinmarketcap", "x_cmc"), ("coin gecko", "x_cg"),
    ("coingecko", "x_cg"), ("buy 1 btc", "x_manual_buy"), ("sell 1 btc", "x_manual_sell"),
    ("resume entries", "entries_on"), ("pause entries", "x_pause"), ("reconcile", "x_reconcile"),
    ("protection", "x_protection"), ("system", "x_system"), ("recover stream", "x_recover"),
    ("emergency", "menu_emergency"), ("logs", "logs"), ("help", "help")]

def resolveButtonAction (cfg : Config) (text : String) : Option String :=
  buttonActions.lookup (cfg.strip text) <|> legacyTextActions.lookup (cfg.normalize text)

/-- What a text asks of the sidecar and of Freqtrade before it is put together. -/
def asked (cfg : Config) : Page → Working (List Shown)
  | .status => command "status"
  | .balance => command "balance"
  | .pair => command "pair"
  | .current => do
    let active ← .perform .activePair
    request ("/pair_candles?pair=" ++ active.pair.getD "" ++ "&timeframe=1m&limit=2")
  | .health => request "/health"
  | .logs => request "/logs?limit=8"
  | _ => return []
where
  command (name : String) : Working (List Shown) := do
    let answer ← sidecarCommand name
    return [.sidecar answer]
  request (endpoint : String) : Working (List Shown) := do
    let answer ← ftCall cfg "GET" endpoint
    return [.freqtrade answer]

/-- `send_builder` -/
def sendBuilder (cfg : Config) (p : Page) : Working Unit := do
  let text ← Prog.attempt do
    let answers ← asked cfg p
    .perform (.page p answers)
  match text with
  | .ok text => send (.text text)
  | .error e => send (.text ("Request failed safely.\n\n" ++ e.text))

/-- A confirmation of an order for the active pair. -/
def askActive (label action text : String) : Working Unit := do
  let active ← .perform .activePair
  askConfirm label action (some [("symbol", .text (active.symbol.getD ""))]) text

def route (cfg : Config) (action : String) (messageId : Option ℤ) : Working Unit :=
  match action with
  | "home" | "menu_dashboard" => send (.text
      "₿ Bitcoin TestNet Control Panel\n\nFixed controls stay below the chat.")
  | "status" => sendBuilder cfg .status
  | "balance" => sendBuilder cfg .balance
  | "x_open" => sendBuilder cfg .openTrades
  | "x_history" => sendBuilder cfg .history
  | "x_current" => sendBuilder cfg .current
  | "last_signal" => sendBuilder cfg .lastRow
  | "x_recent" => sendBuilder cfg .recent
  | "x_pnl24" | "profit" => sendBuilder cfg .pnl24
  | "pair" => sendBuilder cfg .pair
  | "pairs" => showPairs cfg 0
  | "flow" => sendBuilder cfg .flow
  | "x_cmc" => sendBuilder cfg .cmc
  | "x_cg" => sendBuilder cfg .cg
  | "x_health" => sendBuilder cfg .health
  | "logs" => sendBuilder cfg .logs
  | "x_protection" => sendBuilder cfg .protection
  | "x_system" => sendBuilder cfg .system
  | "help" => send .help
  | "x_manual_buy" => askActive "CONFIRM manual 1 BTC buy" "manual_entry"
      ("Place one 1 BTC Binance Spot TestNet BUY through the existing sidecar entry path and " ++
        "OTOCO protection? This does not create or alter an IctSmcStrategy signal.")
  | "x_manual_sell" => askActive "CONFIRM manual 1 BTC sell" "emergency_exit"
      ("Cancel the bot-owned active-pair protection and sell the current bot-owned TestNet BTC " ++
        "position through the verified emergency exit path?")
  | "x_pause" => do
    let sc ← sidecarCommand "entries" [("enabled", .flag false)]
    let ft ← ftCall cfg "POST" "/pause"
    send (.dump [("Sidecar entries", .text (if sc.ok then "OFF" else "ERROR")),
      ("Freqtrade", .text (if ft.ok then "PAUSED" else "ERROR"))])
  | "x_reconcile" => do
    let r ← sidecarCommand "reconcile"
    send (.dump [("RECONCILIATION", .text (if r.ok then "PASS" else "FAILED")), ("", .sidecar r)])
  | "x_recover" => askConfirm "CONFIRM recovery" "x_recover_confirmed" none
      ("Restart Binance TestNet user stream, reconcile authenticated state, clear the reconnect " ++
        "risk pause only after reconciliation, then resume Freqtrade and sidecar entries?")
  | action => Broker.route cfg action messageId

/-- Each step is taken only after the one before it has succeeded. -/
def recover (cfg : Config) : Working (Bool × String) := do
  let ws ← sidecarCommand "restart_stream"
  if ws.ok then
    let reconciled ← sidecarCommand "reconcile"
    if reconciled.ok then
      let clear ← sidecarCommand "clear_risk_pause"
      if clear.ok then
        let ft ← ftCall cfg "POST" "/start"
        if ft.ok then
          let entries ← sidecarCommand "entries" [("enabled", .flag true)]
          if entries.ok then
            return (true, "User stream reconciled.\nRisk pause cleared.\nFreqtrade running.\n" ++
              "Sidecar entries armed.")
          else
            let _ ← ftCall cfg "POST" "/pause"
            return (false, "Sidecar refused entry arming; Freqtrade was paused again: " ++
              entries.result)
        else return (false, "Freqtrade start failed: " ++ ft.detail)
      else return (false, "Risk pause clear failed: " ++ clear.result)
    else return (false, "Reconciliation failed: " ++ reconciled.result)
  else return (false, "User stream restart failed: " ++ ws.result)

def confirmAction (cfg : Config) (action : String) (args : Args) : Working Unit :=
  match action with
  | "x_recover_confirmed" => do
    let (ok, text) ← recover cfg
    send (.text ((if ok then "🧯 RECOVERY PASS\n\n" else "🧯 RECOVERY FAILED\n\n") ++ text))
  | "resume_entries" => do
    let ft ← ftCall cfg "POST" "/start"
    if ft.ok then
      let sc ← sidecarCommand "entries" [("enabled", .flag true)]
      if sc.ok then
        send (.text
          ("▶️ RESUME PASS\n\nFreqtrade running.\nSidecar entries armed.\nOnly genuine " ++
          "IctSmcStrategy signals can create TestNet orders."))
      else
        let _ ← ftCall cfg "POST" "/pause"
        send (.text
          ("▶️ RESUME FAILED\n\nSidecar refused arming. Freqtrade was paused again.\n\n" ++
          sc.result))
    else send (.text "▶️ RESUME FAILED\n\nFreqtrade did not start.")
  | action => Broker.confirmAction cfg action args

def handleMessage (cfg : Config) (u : Update) (text : String) : Working Unit := do
  if cfg.lower (cfg.strip text) ∈ ["/menu", "/owner"] then
    if ← .ofExcept (isOwner cfg u.user u.chat) then
      send (.text "₿ Bitcoin TestNet Control Panel\n\nFixed controls stay below the chat.")
    else Broker.handleMessage cfg (route cfg) u text
  else
    match resolveButtonAction cfg (cfg.strip text) with
    | none => Broker.handleMessage cfg (route cfg) u text
    | some action =>
      if ← .ofExcept (isOwner cfg u.user u.chat) then route cfg action none
      else Broker.handleMessage cfg (route cfg) u text

end StablePanel

/-- The module that the broker runs. -/
inductive Panel where
  | bot
  | stable
  deriving DecidableEq, Repr

namespace Panel

def confirmAction (cfg : Config) : Panel → String → Args → Working Unit
  | bot => Broker.confirmAction cfg
  | stable => StablePanel.confirmAction cfg

/-- An update is handled by the functions of the panel. -/
def handle (cfg : Config) : Panel → Update → Working Unit
  | bot, u => match u with
    | .message _ _ text => Broker.handleMessage cfg (Broker.route cfg) u text
    | .callback _ _ messageId data =>
      Broker.handleCallback cfg (Broker.route cfg) (Broker.confirmAction cfg) u messageId data
  | stable, u => match u with
    | .message _ _ text => StablePanel.handleMessage cfg u text
    | .callback _ _ messageId data =>
      Broker.handleCallback cfg (StablePanel.route cfg) (StablePanel.confirmAction cfg) u
        messageId data

end Panel
end SpotSidecar.Telegram.Broker
