import SpotSidecar.Bus.RoundTrip
import SpotSidecar.Json.Characters
import SpotSidecar.PairControl.Policy

/-! The registry of the markets of Bitcoin: what it takes from the exchange, the file in which it
keeps it, and what it accepts when it reads the file. -/
namespace SpotSidecar.PairControl.Registry
open Json (Text Members isStr)
open Bus (say pyStr pyFloat equalsInt isPySpace)

/-! ### Texts -/

/-- `str.upper` of a character. -/
structure Upper where
  char : Char → List Char
  plain : ∀ c, isCode c = true ∨ c = '/' ∨ isPySpace c = true → char c = [c]

/-- `str.upper` -/
def Upper.text (upper : Upper) (cs : List Char) : List Char := cs.flatMap upper.char

/-- `str.strip` -/
def strip (cs : List Char) : List Char := (cs.dropWhile isPySpace).rdropWhile isPySpace

/-- `cs.strip().upper()` -/
def Upper.clean (upper : Upper) (cs : List Char) : List Char := upper.text (strip cs)

theorem isCode_range {c : Char} (h : isCode c = true) :
    (65 ≤ c.toNat ∧ c.toNat ≤ 90) ∨ (48 ≤ c.toNat ∧ c.toNat ≤ 57) := by
  have hupper : c.isUpper = decide (c.val ≥ 'A'.val ∧ c.val ≤ 'Z'.val) := rfl
  simp only [isCode, hupper, Char.isDigit, Bool.or_eq_true, Bool.and_eq_true, decide_eq_true_eq,
    ge_iff_le, UInt32.le_iff_toNat_le] at h
  exact h

theorem not_space_of_plain {c : Char} (h : isCode c = true ∨ c = '/') : isPySpace c = false := by
  rcases h with hcode | rfl
  · have hrange := isCode_range hcode
    simp only [isPySpace, Bool.or_eq_false_iff, Bool.and_eq_false_iff, decide_eq_false_iff_not]
    omega
  · rfl

theorem strip_of_no_space {cs : List Char} (h : ∀ c ∈ cs, isPySpace c = false) : strip cs = cs := by
  have hfront : cs.dropWhile isPySpace = cs := by
    cases cs with
    | nil => rfl
    | cons c cs => exact List.dropWhile_cons_of_neg (by simp [h c])
  rw [strip, hfront, List.rdropWhile_eq_self_iff]
  intro hne
  simp [h _ (List.getLast_mem hne)]

theorem Upper.text_plain (upper : Upper) {cs : List Char}
    (h : ∀ c ∈ cs, isCode c = true ∨ c = '/') : upper.text cs = cs := by
  induction cs with
  | nil => rfl
  | cons c cs ih =>
    have hc : upper.char c = [c] := by
      apply upper.plain
      rcases h c List.mem_cons_self with hcode | hslash
      · exact .inl hcode
      · exact .inr (.inl hslash)
    have hrest := ih fun d hd => h d (List.mem_cons_of_mem c hd)
    rw [Upper.text, List.flatMap_cons, hc, ← Upper.text, hrest]
    rfl

/-- The rules of the policy for names. -/
def Upper.rules (upper : Upper) : TextRules where
  clean := upper.clean
  clean_plain := by
    intro cs h
    rw [Upper.clean, strip_of_no_space fun c hc => not_space_of_plain (h c hc)]
    exact upper.text_plain h

/-- Where the capitals of a text are letters and digits it has no spaces to strip. -/
theorem Upper.clean_of_text (upper : Upper) {cs plain : List Char} (h : upper.text cs = plain)
    (hplain : ∀ c ∈ plain, isCode c = true) : upper.clean cs = plain := by
  have hspace : ∀ c ∈ cs, isPySpace c = false := by
    intro c hc
    by_contra hspace
    have hchar : upper.char c = [c] := by
      apply upper.plain
      simp_all
    have hmem : c ∈ plain := by
      rw [← h, Upper.text, List.mem_flatMap]
      exact ⟨c, hc, by simp [hchar]⟩
    exact hspace (not_space_of_plain (.inl (hplain c hmem)))
  rw [Upper.clean, strip_of_no_space hspace, h]

/-! ### The registry -/

structure Config (F : Type) where
  py : Bus.Python F
  upper : Upper
  pairs : PairConfig
  rules : pairs.text = upper.rules
  /-- What is shown of a value that is no string is no name of a filter. -/
  shown : ∀ v, py.shown v ∉ [say "PRICE_FILTER", say "LOT_SIZE"]
  /-- `hashlib.sha256(text.encode()).hexdigest()` -/
  digest : List Char → Text
  ttlSeconds : ℤ

/-- `PairRegistryError` -/
def registryError (text : String) : PairExc := .other "PairRegistryError" text

def typeError (text : String) : PairExc := .other "TypeError" text

section model
variable {F : Type} (cfg : Config F)

/-- `self.ttl_seconds` -/
def Config.ttl : ℤ := max 60 (min cfg.ttlSeconds 3600)

/-- `str(members.get(key, ''))` -/
def Config.textAt (members : Members F) (key : String) : Text :=
  pyStr cfg.py ((members.lookup (say key)).getD (.str []))

/-- `str(members.get(key, '')).upper()`, where it has no lone surrogate. -/
def Config.upperAt (members : Members F) (key : String) : Option (List Char) :=
  (cfg.textAt members key).chars.map cfg.upper.text

/-- `bool(v)` -/
def Config.truthy : Json F → Bool
  | .null => false
  | .bool b => b
  | .int n => n ≠ 0
  | .float (.finite x) => cfg.py.floats.value x ≠ 0
  | .float _ => true
  | .str s => s ≠ []
  | .arr vs => !vs.isEmpty
  | .obj ms => !ms.isEmpty

/-- The values that a loop goes over. -/
def iterate : Json F → Except PairExc (List (Json F))
  | .arr vs => .ok vs
  | .obj ms => .ok (ms.map fun m => .str m.1)
  | .str s => .ok ((Text.points s).map fun p =>
      .str ((Text.unitsOfPoint p).map Json.CodeUnit.ofNat))
  | _ => .error (typeError "object is not iterable")

/-- Whether some `str(v).upper()` is `name`. -/
def Config.names (name : String) (vs : List (Json F)) : Bool :=
  vs.any fun v => (pyStr cfg.py v).chars.map cfg.upper.text = some name.toList

def isTrue : Json F → Bool
  | .bool b => b
  | _ => false

/-- The symbol of a pair. -/
def symbolChars (pair : String) : List Char := pair.toList.filter (· ≠ '/')

def quoteChars (pair : String) : List Char := (pair.toList.dropWhile (· ≠ '/')).drop 1

abbrev orRaise (c : Prop) [Decidable c] (e : PairExc) : Except PairExc Unit := Checks.require c e

/-- `permissions`: where there are any, one is for Spot. -/
def Config.checkPermissions (symbol : String) (metadata : Members F) : Except PairExc Unit := do
  let value := (metadata.lookup (say "permissions")).getD .null
  let permissions ← if cfg.truthy value then iterate value else .ok []
  orRaise (permissions = [] ∨ cfg.names "SPOT" permissions)
    (.policy s!"{symbol} is not enabled for Spot")

/-- `permissionSets`: where there are any, one of the lists has Spot. -/
def Config.checkPermissionSets (symbol : String) (metadata : Members F) : Except PairExc Unit :=
  let value := (metadata.lookup (say "permissionSets")).getD .null
  let allowed : Bool := match value with
    | .arr groups => groups.any fun
      | .arr group => cfg.names "SPOT" group
      | _ => false
    | _ => false
  orRaise (cfg.truthy value = false ∨ allowed)
    (.policy s!"{symbol} permission sets do not enable Spot")

/-- The `filterType` of the rows of `filters` that are objects. -/
def filterTypes (filters : List (Json F)) : List (Json F) :=
  filters.filterMap fun
    | .obj item => some ((item.lookup (say "filterType")).getD .null)
    | _ => none

/-- `filters` -/
def Config.checkFilters (metadata : Members F) : Except PairExc (List (Json F)) :=
  match metadata.lookup (say "filters") with
  | some (.arr filters) => do
    let types := (filterTypes filters).map (pyStr cfg.py)
    orRaise (types.any (· = say "PRICE_FILTER")) (.policy "exchangeInfo is missing PRICE_FILTER")
    orRaise (types.any (· = say "LOT_SIZE")) (.policy "exchangeInfo is missing LOT_SIZE")
    .ok filters
  | _ => .error (.policy "exchangeInfo filters are missing")

/-- `validate_exchange_symbol` with `require_order_lists=False`; it returns the filters. -/
def Config.validateExchangeSymbol (pair : String) (metadata : Members F) :
    Except PairExc (List (Json F)) := do
  let pair ← canonicalPair cfg.pairs pair
  let symbol := String.ofList (symbolChars pair)
  orRaise (cfg.upperAt metadata "symbol" = some symbol.toList)
    (.policy "exchangeInfo symbol does not match the requested pair")
  orRaise (cfg.upperAt metadata "status" = some "TRADING".toList)
    (.policy s!"{symbol} is not TRADING")
  orRaise (cfg.upperAt metadata "baseAsset" = some "BTC".toList) (.policy "base asset must be BTC")
  orRaise (cfg.upperAt metadata "quoteAsset" = some (quoteChars pair))
    (.policy "quote asset does not match the requested pair")
  cfg.checkPermissions symbol metadata
  cfg.checkPermissionSets symbol metadata
  orRaise ((metadata.lookup (say "isSpotTradingAllowed")).any isTrue)
    (.policy s!"{symbol} Spot trading is disabled")
  cfg.checkFilters metadata

/-- A market of the registry; its base is Bitcoin. -/
structure Row (F : Type) where
  pair : Text
  symbol : Text
  quote : Text
  capabilities : Members F
  filterTypes : List (Json F)

/-- Texts in the order of `sorted`. -/
def TextLe (s t : Text) : Prop := Text.points s ≤ Text.points t

instance : DecidableRel TextLe := fun s t =>
  inferInstanceAs (Decidable (Text.points s ≤ Text.points t))

/-- `sorted` of the set of the types that are named. -/
def Config.sortedTypes (filters : List (Json F)) : List Text :=
  (((filterTypes filters).filter cfg.truthy).map (pyStr cfg.py)).eraseDups.insertionSort TextLe

def capabilitiesOf (oco oto trailing : Bool) : Members F :=
  [(say "spot", .bool true), (say "oco", .bool oco), (say "oto", .bool oto),
    (say "trailing_stop", .bool trailing), (say "fixed_oco", .bool (oto && oco)),
    (say "oco_trailing", .bool (oto && oco && trailing)),
    (say "trailing_only", .bool (oto && trailing))]

/-- `_row` -/
def Config.row (metadata : Members F) : Except PairExc (Row F) :=
  match (cfg.textAt metadata "quoteAsset").chars with
  | none => .error (.policy "pair must use the form BTC/QUOTE")
  | some quoteAsset => do
    let quote := cfg.upper.clean quoteAsset
    let pair ← canonicalPair cfg.pairs (String.ofList ("BTC/".toList ++ quote))
    let filters ← cfg.validateExchangeSymbol pair metadata
    let types := cfg.sortedTypes filters
    let trailing := (metadata.lookup (say "allowTrailingStop")).any isTrue &&
      types.any (· = say "TRAILING_DELTA")
    .ok {
      pair := Text.ofString pair
      symbol := Text.ofChars ((cfg.upperAt metadata "symbol").getD [])
      quote := Text.ofChars quote
      capabilities := capabilitiesOf ((metadata.lookup (say "ocoAllowed")).any isTrue)
        ((metadata.lookup (say "otoAllowed")).any isTrue) trailing
      filterTypes := types.map .str }

/-! ### Snapshots -/

/-- What the hash of the registry binds of a row. -/
def Row.bound (row : Row F) : Json F :=
  .obj [(say "pair", .str row.pair), (say "symbol", .str row.symbol), (say "quote", .str row.quote),
    (say "capabilities", .obj row.capabilities), (say "filter_types", .arr row.filterTypes)]

/-- `_registry_hash` -/
def Config.registryHash (rows : List (Row F)) : Text :=
  cfg.digest (Json.dumps cfg.py.floats.toFloatFormat (.arr (rows.map Row.bound)))

structure Snapshot (F : Type) where
  generatedAt : Text
  generatedAtEpoch : Double F
  source : Text
  registryHash : Text
  pairs : List (Row F)

def Row.json (row : Row F) : Json F :=
  .obj [(say "pair", .str row.pair), (say "symbol", .str row.symbol),
    (say "base", .str (say "BTC")), (say "quote", .str row.quote),
    (say "capabilities", .obj row.capabilities),
    (say "filter_types", .arr row.filterTypes)]

/-- The dictionary of a snapshot. -/
def Snapshot.json (s : Snapshot F) : Json F :=
  .obj [(say "schema_version", .int 1), (say "generated_at", .str s.generatedAt),
    (say "generated_at_epoch", .float s.generatedAtEpoch), (say "source", .str s.source),
    (say "registry_hash", .str s.registryHash), (say "pairs", .arr (s.pairs.map Row.json))]

/-- The rows are sorted by quote, then by symbol. -/
def Row.key (row : Row F) : Text × Text := (row.quote, row.symbol)

def KeyLe (a b : Text × Text) : Prop :=
  Text.points a.1 < Text.points b.1 ∨
    (Text.points a.1 = Text.points b.1 ∧ Text.points a.2 ≤ Text.points b.2)

instance : DecidableRel KeyLe := fun a b =>
  inferInstanceAs (Decidable (Text.points a.1 < Text.points b.1 ∨
    (Text.points a.1 = Text.points b.1 ∧ Text.points a.2 ≤ Text.points b.2)))

def RowLe (a b : Row F) : Prop := KeyLe a.key b.key

instance : DecidableRel (RowLe (F := F)) := fun a b =>
  inferInstanceAs (Decidable (KeyLe a.key b.key))

/-- `canonical_pair(str(item.get('pair', '')))` -/
def Config.pairAt (item : Members F) : Except PairExc String :=
  match (cfg.textAt item "pair").chars with
  | none => .error (.policy "pair must use the form BTC/QUOTE")
  | some cs => canonicalPair cfg.pairs (String.ofList cs)

/-- The filter types of a stored row. Lists and dictionaries have no hash. -/
def storedFilters : Option (Json F) → Except PairExc (List (Json F))
  | some (.arr types) => do
    orRaise (types.all Json.isScalar) (typeError "unhashable type")
    orRaise (types.any (isStr (say "PRICE_FILTER")) ∧ types.any (isStr (say "LOT_SIZE")))
      (registryError "pair registry filters are incomplete")
    .ok types
  | _ => .error (registryError "pair registry filters are incomplete")

/-- A row of a stored snapshot, after rows of the pairs `seen`. -/
def Config.storedRow (seen : List String) (v : Json F) : Except PairExc (String × Row F) :=
  match v with
  | .obj item => do
    let pair ← cfg.pairAt item
    orRaise
      (pair ∉ seen ∧ (item.lookup (say "symbol")).any (isStr (Text.ofChars (symbolChars pair))))
      (registryError "pair registry identity is inconsistent")
    orRaise ((item.lookup (say "base")).any (isStr (say "BTC")) ∧
      (item.lookup (say "quote")).any (isStr (Text.ofChars (quoteChars pair))))
      (registryError "pair registry assets are inconsistent")
    match item.lookup (say "capabilities") with
    | some (.obj capabilities) =>
      orRaise ((capabilities.lookup (say "spot")).any isTrue)
        (registryError "pair registry capabilities are malformed")
      let filters ← storedFilters (item.lookup (say "filter_types"))
      .ok (pair, {
        pair := Text.ofString pair
        symbol := Text.ofChars (symbolChars pair)
        quote := Text.ofChars (quoteChars pair)
        capabilities
        filterTypes := filters })
    | _ => .error (registryError "pair registry capabilities are malformed")
  | _ => .error (registryError "pair registry row is malformed")

def Config.storedRows (seen : List String) : List (Json F) → Except PairExc (List (Row F))
  | [] => .ok []
  | v :: vs => do
    let (pair, row) ← cfg.storedRow seen v
    let rows ← storedRows (pair :: seen) vs
    .ok (row :: rows)

/-- `float(value['generated_at_epoch'])` -/
def Config.storedEpoch (v : Option (Json F)) : Except PairExc (Double F) :=
  match v.bind (pyFloat cfg.py), v with
  | some x, _ => .ok x
  | none, some (.int _) => .error (.other "OverflowError" "int too large to convert to float")
  | none, _ => .error (registryError "pair registry timestamp is invalid")

/-- `_validate_snapshot` -/
def Config.validateSnapshot (v : Json F) : Except PairExc (Snapshot F) :=
  match v with
  | .obj value => do
    orRaise (equalsInt cfg.py ((value.lookup (say "schema_version")).getD .null) 1)
      (registryError "pair registry schema is invalid")
    let generated ← cfg.storedEpoch (value.lookup (say "generated_at_epoch"))
    match value.lookup (say "pairs") with
    | some (.arr (v :: vs)) =>
      let rows ← cfg.storedRows [] (v :: vs)
      let clean := rows.insertionSort RowLe
      let hash := cfg.registryHash clean
      orRaise ((value.lookup (say "registry_hash")).any (isStr hash))
        (registryError "pair registry hash is invalid")
      .ok {
        generatedAt := cfg.textAt value "generated_at"
        generatedAtEpoch := generated
        source := cfg.textAt value "source"
        registryHash := hash
        pairs := clean }
    | _ => .error (registryError "pair registry contains no eligible BTC markets")
  | _ => .error (registryError "pair registry schema is invalid")

/-- `-30 <= now - generated <= ttl` -/
def Config.fresh (now : F) : Double F → Bool
  | .finite x =>
    match cfg.py.floats.sub now x with
    | .finite age => -30 ≤ cfg.py.floats.value age ∧ cfg.py.floats.value age ≤ cfg.ttl
    | _ => false
  | _ => false

/-- An error that `_cached` passes over. -/
def passedOver : PairExc → Bool
  | .policy _ => true
  | .state _ => false
  | .other name _ => name = "PairRegistryError"

/-- The loop of `_cached`; a candidate that is `None` is passed over. -/
def Config.cachedOf (now : F) : List (Json F) → Except PairExc (Option (Snapshot F))
  | [] => .ok none
  | .null :: rest => cachedOf now rest
  | v :: rest =>
    match cfg.validateSnapshot v with
    | .ok s => if cfg.fresh now s.generatedAtEpoch then .ok (some s) else cachedOf now rest
    | .error e => if passedOver e then cachedOf now rest else .error e

/-- The rows of an answer of the exchange. -/
def Config.listed : List (Json F) → Except PairExc (List (Row F))
  | [] => .ok []
  | .obj metadata :: rest =>
    if cfg.upperAt metadata "baseAsset" = some "BTC".toList then
      match cfg.row metadata with
      | .ok row => (listed rest).map (row :: ·)
      | .error (.policy _) => listed rest
      | .error e => .error e
    else listed rest
  | _ :: rest => listed rest

/-- `payload['symbols']` -/
def symbolsIn : Json F → Except PairExc (List (Json F))
  | .obj members =>
    match members.lookup (say "symbols") with
    | some (.arr symbols) => .ok symbols
    | _ => .error (registryError "Binance exchangeInfo symbols are malformed")
  | _ => .error (registryError "Binance exchangeInfo symbols are malformed")

/-- What `refresh` makes of an answer. -/
def Config.rowsOf (payload : Json F) : Except PairExc (List (Row F)) := do
  let symbols ← symbolsIn payload
  let rows ← cfg.listed symbols
  orRaise (rows ≠ []) (registryError "Binance returned no eligible BTC-base Spot markets")
  .ok (rows.insertionSort RowLe)

def Config.snapshotOf (iso : Text) (now : F) (rows : List (Row F)) : Snapshot F where
  generatedAt := iso
  generatedAtEpoch := .finite now
  source := say "binance_exchangeInfo"
  registryHash := cfg.registryHash rows
  pairs := rows

end model

end SpotSidecar.PairControl.Registry
