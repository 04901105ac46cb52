import Mathlib.Data.List.DropRight
import SpotSidecar.Collections.Dict
import SpotSidecar.Text.Records

/-! The readers of environment files in the deployment scripts: one that prints the value of a key,
one that emits all pairs and one that exports them. -/
namespace SpotSidecar.EnvFile

/-- The keys of the shipped templates. -/
def approvedKeys : List String :=
  ["ACTIVE_PAIR", "ACTIVE_PAIR_STATUS_PATH", "AUDIT_LOG_BACKUPS", "AUDIT_LOG_MAX_BYTES",
   "AUTO_BREAK_EVEN_TRIGGER_PCT", "AUTO_CONFIRM", "AUTO_PROTECTION_ENABLED",
   "AUTO_TIGHT_TRAIL_BIPS", "BINANCE_API_KEY", "BINANCE_API_SECRET", "BINANCE_HTTP_TIMEOUT_SECONDS",
   "BINANCE_RECV_WINDOW_MS", "BINANCE_REST_BASE", "BINANCE_SPOT_EXECUTION_PUBLIC_BASE",
   "BINANCE_TIME_SYNC_MAX_RTT_MS", "BOT_DIRECTORY", "BOT_ENVIRONMENT", "BOT_GID", "BOT_INSTANCE_ID",
   "BOT_MODE", "BOT_PRODUCT", "BOT_UID", "BREAK_EVEN_SLIPPAGE_PCT", "BTC_PAIR_REGISTRY_TTL_SECONDS",
   "BTC_QUOTE_ALLOWLIST", "CALLBACK_TTL_SECONDS", "COINGECKO_API_KEY", "COINGECKO_CONTEXT_ENABLED",
   "COINGECKO_MAX_MONTHLY_ATTEMPTS", "COINGECKO_MAX_REQUESTS_PER_MINUTE", "COINMARKETCAP_API_KEY",
   "COINMARKETCAP_CONTEXT_ENABLED", "COINMARKETCAP_MAX_MONTHLY_ATTEMPTS",
   "COINMARKETCAP_MAX_REQUESTS_PER_MINUTE", "COMMAND_HMAC_KEY", "COMMAND_MAX_AGE_SECONDS",
   "COMMAND_RESULT_MAX_AGE_SECONDS", "COMMAND_RESULT_MAX_FILES", "CONTAINER_STATUS_PATH",
   "DEPLOY_STATUS_PATH", "DEPLOYMENT_PROFILE", "EXECUTION_DATABASE_PATH", "EXECUTION_MODE",
   "EXECUTION_PNL_LEDGER_PATH", "EXTERNAL_MARKET_HTTP_TIMEOUT_SECONDS",
   "EXTERNAL_MARKET_REFRESH_SECONDS", "EXTERNAL_MARKET_STALE_AFTER_SECONDS",
   "EXTERNAL_CONFLUENCE_MAX_PRICE_DEVIATION_BPS", "EXTERNAL_CONFLUENCE_MIN_24H_CHANGE_PCT",
   "EXTERNAL_CONFLUENCE_MIN_PROVIDERS", "FEE_PCT_PER_SIDE", "FIXED_STOP_PCT",
   "FLOW_MIN_SPOT_IMBALANCE", "FLOW_MIN_TAKER_BUY_RATIO", "FREQTRADE_API_JWT_SECRET",
   "FREQTRADE_API_PASSWORD", "FREQTRADE_API_USERNAME", "FREQTRADE_API_WS_TOKEN", "FT_LOG_PATH",
   "HTTP_TIMEOUT_SECONDS", "LIMIT_FILL_BUFFER_BIPS", "LIVE_EVIDENCE_PUBLIC_KEY",
   "LIVE_EVIDENCE_RECHECK_SECONDS", "LIVE_MAX_DRAWDOWN_ACCOUNT", "LIVE_MIN_BACKTEST_FEE",
   "LIVE_MIN_BACKTEST_TRADES", "LIVE_MIN_PROFIT_FACTOR", "LIVE_MIN_PROFIT_TOTAL",
   "LIVE_TRADING_ENABLED", "LOG_LEVEL", "MAX_CANDLE_AGE_SECONDS", "MAX_ENTRY_OPEN_SECONDS",
   "MAX_FLOW_AGE_SECONDS", "MAX_SIGNAL_AGE_SECONDS", "MAX_STOPOUTS_GLOBAL_DAY",
   "MAX_STOPOUTS_PER_PAIR_DAY", "MONEYFLOW_DEPTH_BAND_BPS", "MONEYFLOW_DEPTH_LIMIT",
   "MONEYFLOW_HEALTH_PATH", "MONEYFLOW_REFRESH_SECONDS", "MONEYFLOW_SPOT_STREAM_STALE_SECONDS",
   "MONEYFLOW_STATUS_PATH", "MONEYFLOW_TRADE_LIMIT", "OFFHOST_BACKUP_STATUS_PATH",
   "MONITOR_ALLOWED_IPS", "MONITOR_AUDIT_LOG", "MONITOR_BIND_HOST", "MONITOR_ENABLE_DOCS",
   "MONITOR_ENABLED", "MONITOR_MONEYFLOW_MAX_AGE_SECONDS", "MONITOR_PORT",
   "MONITOR_RATE_LIMIT_PER_MINUTE", "MONITOR_SHARED_ROOT", "MONITOR_TOKEN", "MONITOR_URL",
   "PAIR_COOLDOWN_SECONDS", "PROTECTION_MODE", "PUBLIC_HTTP_MAX_ATTEMPTS", "RELEASE_TAG",
   "REQUIRE_EXTERNAL_CONFLUENCE", "REQUIRE_FLOW_CONTEXT", "SHARED_HOST_PATH", "SIDECAR_HEALTH_PATH",
   "SIDECAR_RELEASE_HASH", "SIGNAL_ARCHIVE_MAX_FILES", "SIGNAL_DATABASE_PATH", "SIGNAL_HMAC_KEY",
   "SPOT_FILTER_MAX_AGE_SECONDS", "SQLITE_BACKUP_INTERVAL_SECONDS", "SQLITE_BACKUP_RETAIN",
   "TAKE_PROFIT_PCT", "TELEGRAM_BOT_TOKEN", "TELEGRAM_HEALTH_PATH", "TELEGRAM_MONITOR_BOT_TOKEN",
   "TELEGRAM_MONITOR_CHAT_ID", "TELEGRAM_OWNER_CHAT_ID", "TELEGRAM_REPORTS_ENABLED",
   "TELEGRAM_PANEL_MODULE", "TRADE_SIZE_BASE", "TRADE_SIZE_QUOTE", "TRAILING_DELTA_BIPS",
   "USER_STREAM_HEALTH_PATH", "VALIDATION_STATUS_PATH"]

def nul : Char := Char.ofNat 0

def isQuote (c : Char) : Bool := c = Char.ofNat 34 || c = Char.ofNat 39

def keyHead (c : Char) : Bool := 'A' ≤ c && c ≤ 'Z'

/-- `^[A-Z][A-Z0-9_]*$` -/
def keyName : List Char → Bool
  | [] => false
  | c :: cs => keyHead c && cs.all fun c => keyHead c || ('0' ≤ c && c ≤ '9') || c = '_'

/-- `^[A-Za-z_][A-Za-z0-9_]*$` -/
def wantName : List Char → Bool
  | [] => false
  | c :: cs => (c.isAlpha || c = '_') && cs.all fun c => c.isAlphanum || c = '_'

/-- `env_file_key_allowed` -/
def keyAllowed (key : List Char) : Except String Unit :=
  if String.ofList key ∈ approvedKeys then .ok ()
  else .error ("environment key is not shipped in an approved template: " ++ String.ofList key)

/-- `_env_file_unquote` -/
def unquote (v : List Char) : Except String (List Char) :=
  if (v.head?.any isQuote || v.getLast?.any isQuote) &&
      !(2 ≤ v.length && v.head? = v.getLast?) then
    .error "environment value has unmatched quotes"
  else if 2 ≤ v.length && v.head? = some (Char.ofNat 34) && v.getLast? = some (Char.ofNat 34) then
    .ok v.tail.dropLast
  else if 2 ≤ v.length && v.head? = some (Char.ofNat 39) && v.getLast? = some (Char.ofNat 39) then
    .ok v.tail.dropLast
  else .ok v

/-- The checks of a key that the readers share; `badName` is what they say of an invalid one. -/
def checkKey (file badName : String) (seen : List (List Char)) (key : List Char) :
    Except String Unit := do
  if keyName key = false then throw badName
  keyAllowed key
  if seen.contains key then throw (file ++ " contains duplicate key: " ++ String.ofList key)

/-- The lines that `read` delivers: zero bytes are dropped, and a last line may lack its end. -/
def readLines (content : List Char) : List (List Char) :=
  Records.split (Char.ofNat 10) (content.filter (· ≠ nul))

/-- A line that is blank or a comment. -/
def skipped (line : List Char) : Bool := line = [] || line.head? = some '#'

def valueOf (line : List Char) : List Char := (Records.cut '=' line).2

/-- `[[:space:]]` in the locale of the scripts. -/
abbrev Spaces := Char → Bool

/-- Without a carriage return at its end and without the spaces it starts with. -/
def stripLine (space : Spaces) (line : List Char) : List Char :=
  (if line.getLast? = some (Char.ofNat 13) then line.dropLast else line).dropWhile space

def keyOf (space : Spaces) (line : List Char) : List Char :=
  (Records.cut '=' line).1.rdropWhile space

variable (space : Spaces) (file : String)

/-- The loop of `env_file_get`. -/
def getLoop (want : List Char) (seen : List (List Char)) (result : Option (List Char)) :
    List (List Char) → Except String (Option (List Char))
  | [] => .ok result
  | line :: lines =>
    let line := stripLine space line
    if skipped line then getLoop want seen result lines
    else if '=' ∉ line then getLoop want seen result lines
    else
      let key := keyOf space line
      match checkKey file (file ++ " has an invalid key name: " ++ String.ofList key) seen key with
      | .error e => .error e
      | .ok () =>
        if key ≠ want then getLoop want (key :: seen) result lines
        else match unquote (valueOf line) with
          | .error e => .error e
          | .ok value => getLoop want (key :: seen) (some value) lines

/-- `env_file_get`; the value is absent where nothing is printed and the status is 1. -/
def envFileGet (content want : List Char) : Except String (Option (List Char)) := do
  if wantName want = false then
    throw ("invalid environment key requested: " ++ String.ofList want)
  keyAllowed want
  getLoop space file want [] none (readLines content)

/-- The loop that `env_file_pairs` and `env_file_load` have in common; `emit` is what they do with a
pair. What they have done before a line that they refuse stays done. -/
def scan {ω : Type} (emit : List Char → List Char → ω → ω) (lineno : ℕ) (seen : List (List Char))
    (out : ω) : List (List Char) → Except String Unit × ω
  | [] => (.ok (), out)
  | line :: lines =>
    let line := stripLine space line
    if skipped line then scan emit (lineno + 1) seen out lines
    else if '=' ∉ line then (.error s!"{file} line {lineno + 1} is not KEY=VALUE", out)
    else
      let key := keyOf space line
      match checkKey file s!"{file} line {lineno + 1} has an invalid key name" seen key with
      | .error e => (.error e, out)
      | .ok () => match unquote (valueOf line) with
        | .error e => (.error e, out)
        | .ok value => scan emit (lineno + 1) (key :: seen) (emit key value out) lines

/-- `printf '%s=%s\0'` -/
def emitPair (key value out : List Char) : List Char := out ++ (key ++ '=' :: value) ++ [nul]

/-- `env_file_pairs`, with the text it prints -/
def envFilePairs (content : List Char) : Except String Unit × List Char :=
  scan space file emitPair 0 [] [] (readLines content)

abbrev Environ := Dict (List Char) (List Char)

def assign (env : Environ) (pair : List Char × List Char) : Environ :=
  AList.insert pair.1 pair.2 env

/-- `env_file_load`, with the environment it leaves -/
def envFileLoad (content : List Char) (env : Environ) : Except String Unit × Environ :=
  scan space file (fun key value env => assign env (key, value)) 0 [] env (readLines content)

/-- The environment that the emitted records make as the arguments of `env -i`. -/
def environOf (out : List Char) : Environ :=
  ((Records.split nul out).map (Records.cut '=')).foldl assign ∅

end SpotSidecar.EnvFile
