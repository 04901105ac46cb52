import SpotSidecar.Json.Distinct
import SpotSidecar.Json.Pretty
import SpotSidecar.PairControl.Registry

/-! What the registry accepts, what it makes of the answer of the exchange, and that it reads back
what it has stored. -/
namespace SpotSidecar.PairControl.Registry
open Json (Text Members isStr)
open Bus (say pyStr pyFloat equalsInt isPySpace)

/-! ### Rows -/

section rows
variable {F : Type} {cfg : Config F}

/-- The name of the pair with a quote. -/
def pairOf (quote : List Char) : String := String.ofList ('B' :: 'T' :: 'C' :: '/' :: quote)

theorem not_slash_of_isQuote {quote : List Char} (h : isQuote quote = true) :
    ∀ c ∈ quote, c ≠ '/' := by
  rintro c hc rfl
  have hcode := isCode_of_isQuote h '/' hc
  revert hcode
  decide

theorem symbolChars_pairOf {quote : List Char} (h : isQuote quote = true) :
    symbolChars (pairOf quote) = 'B' :: 'T' :: 'C' :: quote := by
  have hquote : quote.filter (· ≠ '/') = quote := by
    rw [List.filter_eq_self]
    intro c hc
    simpa using not_slash_of_isQuote h c hc
  simp only [symbolChars, pairOf, String.toList_ofList]
  rw [List.filter_cons_of_pos (by decide), List.filter_cons_of_pos (by decide),
    List.filter_cons_of_pos (by decide), List.filter_cons_of_neg (by decide), hquote]

theorem quoteChars_pairOf (quote : List Char) : quoteChars (pairOf quote) = quote := by
  simp only [quoteChars, pairOf, String.toList_ofList]
  rw [List.dropWhile_cons_of_pos (by decide), List.dropWhile_cons_of_pos (by decide),
    List.dropWhile_cons_of_pos (by decide), List.dropWhile_cons_of_neg (by decide)]
  rfl

theorem ofString_inj {s t : String} (h : Text.ofString s = Text.ofString t) : s = t := by
  have hchars := congrArg Text.chars h
  rw [Json.Text.chars_ofString, Json.Text.chars_ofString] at hchars
  exact String.toList_inj.mp (Option.some.inj hchars)

/-- A row as it may stand in the registry. -/
structure Row.Good (cfg : Config F) (quote : List Char) (row : Row F) : Prop where
  accepts : Accepts cfg.pairs quote
  pair : row.pair = Text.ofString (pairOf quote)
  symbol : row.symbol = Text.ofChars ('B' :: 'T' :: 'C' :: quote)
  quote : row.quote = Text.ofChars quote
  spot : row.capabilities.lookup (say "spot") = some (.bool true)
  scalar : row.filterTypes.all Json.isScalar = true
  priceFilter : row.filterTypes.any (isStr (say "PRICE_FILTER")) = true
  lotSize : row.filterTypes.any (isStr (say "LOT_SIZE")) = true

/-- The exchange lists the market for Spot, and trades it. -/
structure Tradable (cfg : Config F) (metadata : Members F) (quote : List Char) : Prop where
  symbol : cfg.upperAt metadata "symbol" = some ('B' :: 'T' :: 'C' :: quote)
  status : cfg.upperAt metadata "status" = some "TRADING".toList
  base : cfg.upperAt metadata "baseAsset" = some "BTC".toList
  quoteAsset : cfg.upperAt metadata "quoteAsset" = some quote
  permitted : cfg.checkPermissions (String.ofList ('B' :: 'T' :: 'C' :: quote)) metadata = .ok ()
  permittedSets :
    cfg.checkPermissionSets (String.ofList ('B' :: 'T' :: 'C' :: quote)) metadata = .ok ()
  spotTrading : (metadata.lookup (say "isSpotTradingAllowed")).any isTrue = true

theorem canonicalPair_pairOf {quote : List Char} (h : Accepts cfg.pairs quote) :
    canonicalPair cfg.pairs (pairOf quote) = .ok (pairOf quote) :=
  canonicalPair_of_accepts h

theorem validateExchangeSymbol_eq_ok {quote : List Char} {metadata : Members F}
    {filters : List (Json F)} (haccepts : Accepts cfg.pairs quote)
    (h : cfg.validateExchangeSymbol (pairOf quote) metadata = .ok filters) :
    Tradable cfg metadata quote ∧ cfg.checkFilters metadata = .ok filters := by
  unfold Config.validateExchangeSymbol at h
  obtain ⟨pair, hpair, h⟩ := except_bind_eq_ok.mp h
  rw [canonicalPair_pairOf haccepts] at hpair
  cases hpair
  simp only [Checks.require_bind_eq_ok, symbolChars_pairOf haccepts.1, quoteChars_pairOf,
    String.toList_ofList] at h
  obtain ⟨hsymbol, hstatus, hbase, hquote, h⟩ := h
  obtain ⟨_, hpermitted, h⟩ := except_bind_eq_ok.mp h
  obtain ⟨_, hsets, h⟩ := except_bind_eq_ok.mp h
  obtain ⟨hspot, hfilters⟩ := Checks.require_bind_eq_ok.mp h
  exact ⟨⟨hsymbol, hstatus, hbase, hquote, hpermitted, hsets, hspot⟩, hfilters⟩

theorem mem_sortedTypes {filters : List (Json F)} {name : Text}
    (hname : name ∈ [say "PRICE_FILTER", say "LOT_SIZE"])
    (h : name ∈ (filterTypes filters).map (pyStr cfg.py)) : name ∈ cfg.sortedTypes filters := by
  obtain ⟨v, hv, rfl⟩ := List.mem_map.mp h
  have htruthy : cfg.truthy v = true := by
    cases v with
    | str s =>
      have hne : s ≠ [] := by
        rintro rfl
        have hnil : ([] : Text) ∈ [say "PRICE_FILTER", say "LOT_SIZE"] := hname
        revert hnil
        decide
      simp [Config.truthy, hne]
    | _ => exact absurd hname (cfg.shown _)
  rw [Config.sortedTypes, (List.perm_insertionSort TextLe _).mem_iff, List.mem_eraseDups]
  exact List.mem_map_of_mem (List.mem_filter.mpr ⟨hv, htruthy⟩)

theorem any_isStr {types : List Text} {name : Text} (h : name ∈ types) :
    (types.map (Json.str (F := F))).any (isStr name) = true := by
  rw [List.any_eq_true]
  exact ⟨.str name, List.mem_map_of_mem h, by simp [isStr]⟩

theorem distinct_capabilitiesOf {oco oto trailing : Bool} :
    Json.Distinct (.obj (capabilitiesOf (F := F) oco oto trailing)) := by
  rw [Json.distinct_obj]
  constructor
  · have hkeys : (capabilitiesOf (F := F) oco oto trailing).map Prod.fst =
        ["spot", "oco", "oto", "trailing_stop", "fixed_oco", "oco_trailing", "trailing_only"].map
          say := rfl
    rw [hkeys]
    decide
  · intro m hm
    simp only [capabilitiesOf, List.mem_cons, List.not_mem_nil, or_false] at hm
    rcases hm with rfl | rfl | rfl | rfl | rfl | rfl | rfl <;> trivial

/-- What `_row` makes of an entry of the exchange. -/
theorem row_eq_ok {metadata : Members F} {row : Row F} (h : cfg.row metadata = .ok row) :
    (∃ quote, row.Good cfg quote ∧ Tradable cfg metadata quote) ∧
      Json.Distinct (.obj row.capabilities) := by
  unfold Config.row at h
  split at h
  · cases h
  · next quoteAsset hchars =>
    obtain ⟨pair, hpair, h⟩ := except_bind_eq_ok.mp h
    obtain ⟨quote, haccepts, rfl⟩ := canonicalPair_eq_ok hpair
    obtain ⟨filters, hvalid, h⟩ := except_bind_eq_ok.mp h
    cases h
    obtain ⟨htradable, hfilters⟩ := validateExchangeSymbol_eq_ok haccepts hvalid
    have hquote : cfg.upper.clean quoteAsset = quote := by
      apply cfg.upper.clean_of_text _ (isCode_of_isQuote haccepts.1)
      have hasset := htradable.quoteAsset
      rw [Config.upperAt, hchars] at hasset
      exact Option.some.inj hasset
    have htypes : say "PRICE_FILTER" ∈ (filterTypes filters).map (pyStr cfg.py) ∧
        say "LOT_SIZE" ∈ (filterTypes filters).map (pyStr cfg.py) := by
      unfold Config.checkFilters at hfilters
      split at hfilters
      · obtain ⟨hprice, hrest⟩ := Checks.require_bind_eq_ok.mp hfilters
        obtain ⟨hlot, hrest⟩ := Checks.require_bind_eq_ok.mp hrest
        cases hrest
        exact ⟨by simpa using hprice, by simpa using hlot⟩
      · cases hfilters
    refine ⟨⟨quote, ⟨haccepts, rfl, ?_, ?_, ?_, ?_, ?_, ?_⟩, htradable⟩, distinct_capabilitiesOf⟩
    · rw [htradable.symbol]
      rfl
    · rw [hquote]
    · rfl
    · simp [Json.isScalar]
    · exact any_isStr (mem_sortedTypes (by simp) htypes.1)
    · exact any_isStr (mem_sortedTypes (by simp) htypes.2)

end rows

/-! ### What is stored is read back -/

section stored
variable {F : Type} {cfg : Config F} {row : Row F} {quote : List Char} {seen : List String}
  {v : Json F}

/-- Rows with the same entries; a dictionary may have been sorted. -/
structure Row.Alike (a b : Row F) : Prop where
  pair : a.pair = b.pair
  symbol : a.symbol = b.symbol
  quote : a.quote = b.quote
  capabilities : Json.Same (.obj a.capabilities) (.obj b.capabilities)
  filterTypes : a.filterTypes = b.filterTypes

theorem same_arr {vs : List (Json F)} {w : Json F} (h : Json.Same (.arr vs) w) :
    ∃ ws, w = .arr ws ∧ List.Forall₂ Json.Same vs ws := by
  cases w with
  | arr ws =>
    refine ⟨ws, rfl, ?_⟩
    have hitems : vs.map Json.ordered = ws.map Json.ordered := by
      have horder : Json.ordered (.arr vs) = Json.ordered (.arr ws) := h
      simpa [Json.ordered, Json.orderedItems_eq] using horder
    rw [← List.forall₂_eq_eq_eq, List.forall₂_map_left_iff, List.forall₂_map_right_iff] at hitems
    exact hitems
  | _ => cases h

theorem same_arr_scalar {vs : List (Json F)} {w : Json F} (h : Json.Same (.arr vs) w)
    (hscalar : vs.all Json.isScalar = true) : w = .arr vs := by
  obtain ⟨ws, rfl, hitems⟩ := same_arr h
  congr 1
  clear h
  induction hitems with
  | nil => rfl
  | cons hsame _ ih =>
    rw [List.all_cons, Bool.and_eq_true] at hscalar
    rw [hsame.eq_of_scalar hscalar.1, ih hscalar.2]

/-- The entries of a stored row. -/
structure Entries (row : Row F) (item flags : Members F) : Prop where
  pair : item.lookup (say "pair") = some (.str row.pair)
  symbol : item.lookup (say "symbol") = some (.str row.symbol)
  base : item.lookup (say "base") = some (.str (say "BTC"))
  quote : item.lookup (say "quote") = some (.str row.quote)
  capabilities : item.lookup (say "capabilities") = some (.obj flags)
  filterTypes : item.lookup (say "filter_types") = some (.arr row.filterTypes)
  same : Json.Same (.obj row.capabilities) (.obj flags)
  distinct : Json.Distinct (.obj flags)

theorem entries_of_same (hscalar : row.filterTypes.all Json.isScalar = true)
    (h : Json.Same row.json v) (hv : Json.Distinct v) :
    ∃ item flags, v = .obj item ∧ Entries row item flags := by
  obtain ⟨item, rfl⟩ := h.exists_obj
  obtain ⟨hkeys, hvalues⟩ := Json.distinct_obj.mp hv
  obtain ⟨w, hw, hsame⟩ := h.mem (k := say "capabilities") (v := .obj row.capabilities) (by simp)
  obtain ⟨flags, rfl⟩ := hsame.exists_obj
  obtain ⟨types, htypes, htypesame⟩ := h.mem (k := say "filter_types")
    (v := .arr row.filterTypes) (by simp)
  obtain rfl := same_arr_scalar htypesame hscalar
  refine ⟨item, flags, rfl, ⟨?_, ?_, ?_, ?_, ?_, ?_, hsame, hvalues _ hw⟩⟩
  · exact h.lookup_scalar hkeys (by simp) rfl
  · exact h.lookup_scalar hkeys (by simp) rfl
  · exact h.lookup_scalar hkeys (by simp) rfl
  · exact h.lookup_scalar hkeys (by simp) rfl
  · exact Json.lookup_of_mem hkeys hw
  · exact Json.lookup_of_mem hkeys htypes

theorem any_isStr_self {s : Text} : (some (Json.str (F := F) s)).any (isStr s) = true := by
  simp [isStr]

/-- What becomes of a row that was stored, after rows of the pairs `seen`. -/
theorem storedRow_same (seen : List String) (hgood : row.Good cfg quote) (h : Json.Same row.json v)
    (hv : Json.Distinct v) :
    (pairOf quote ∈ seen → cfg.storedRow seen v =
      .error (registryError "pair registry identity is inconsistent")) ∧
    (pairOf quote ∉ seen → ∃ row', cfg.storedRow seen v = .ok (pairOf quote, row') ∧
      row'.Alike row ∧ Json.Distinct (.obj row'.capabilities)) := by
  obtain ⟨item, flags, rfl, hentries⟩ := entries_of_same hgood.scalar h hv
  have htext : cfg.textAt item "pair" = Text.ofString (pairOf quote) := by
    rw [Config.textAt, hentries.pair, hgood.pair]
    rfl
  have hpair : cfg.pairAt item = .ok (pairOf quote) := by
    rw [Config.pairAt, htext, Json.Text.chars_ofString]
    dsimp only
    rw [String.ofList_toList]
    exact canonicalPair_pairOf hgood.accepts
  have hsymbol : Text.ofChars (symbolChars (pairOf quote)) = row.symbol := by
    rw [symbolChars_pairOf hgood.accepts.1, hgood.symbol]
  have hquote : Text.ofChars (quoteChars (pairOf quote)) = row.quote := by
    rw [quoteChars_pairOf, hgood.quote]
  constructor
  · intro hseen
    unfold Config.storedRow
    dsimp only
    rw [hpair]
    have hrefused : ¬(pairOf quote ∉ seen ∧
        (item.lookup (say "symbol")).any (isStr (Text.ofChars (symbolChars (pairOf quote))))) :=
      fun hboth => hboth.1 hseen
    simp only [bind, Except.bind, Checks.require, if_neg hrefused]
  · intro hseen
    have hspot : (flags.lookup (say "spot")).any isTrue = true := by
      have hmem := Json.mem_of_lookup hgood.spot
      rw [hentries.same.lookup_scalar (Json.distinct_obj.mp hentries.distinct).1 hmem rfl]
      rfl
    have hfilters : storedFilters (item.lookup (say "filter_types")) = .ok row.filterTypes := by
      rw [hentries.filterTypes, storedFilters]
      simp only [Checks.require_bind_eq_ok]
      exact ⟨hgood.scalar, ⟨hgood.priceFilter, hgood.lotSize⟩, trivial⟩
    refine ⟨⟨row.pair, row.symbol, row.quote, flags, row.filterTypes⟩, ?_,
      ⟨rfl, rfl, rfl, hentries.same.symm, rfl⟩, hentries.distinct⟩
    unfold Config.storedRow
    dsimp only
    rw [hpair, except_bind_eq_ok]
    refine ⟨pairOf quote, rfl, ?_⟩
    rw [Checks.require_bind_eq_ok, Checks.require_bind_eq_ok, hsymbol, hquote, hentries.symbol,
      hentries.base, hentries.quote, hentries.capabilities]
    refine ⟨⟨hseen, any_isStr_self⟩, ⟨any_isStr_self, any_isStr_self⟩, ?_⟩
    dsimp only
    rw [Checks.require_bind_eq_ok, except_bind_eq_ok]
    refine ⟨hspot, row.filterTypes, hfilters, ?_⟩
    rw [← hgood.pair]

/-- No pair comes twice, or again after those that were seen. -/
def Unseen (seen : List String) (quotes : List (List Char)) : Prop :=
  (quotes.map pairOf).Nodup ∧ ∀ quote ∈ quotes, pairOf quote ∉ seen

theorem unseen_cons {quotes : List (List Char)} :
    Unseen seen (quote :: quotes) ↔ pairOf quote ∉ seen ∧ Unseen (pairOf quote :: seen) quotes := by
  simp only [Unseen, List.map_cons, List.nodup_cons, List.mem_map, List.mem_cons, not_or]
  constructor
  · rintro ⟨⟨hnot, hnodup⟩, hseen⟩
    refine ⟨hseen quote (.inl rfl), hnodup, fun other hother => ⟨fun hsame => ?_, ?_⟩⟩
    · exact hnot ⟨other, hother, hsame⟩
    · exact hseen other (.inr hother)
  · rintro ⟨hfirst, hnodup, hrest⟩
    refine ⟨⟨?_, hnodup⟩, ?_⟩
    · rintro ⟨other, hother, hsame⟩
      exact (hrest other hother).1 hsame
    · rintro other (rfl | hother)
      · exact hfirst
      · exact (hrest other hother).2

/-- The rows that come back, one for each that was stored. -/
def Back (rows' rows : List (Row F)) : Prop :=
  List.Forall₂ (fun row' row => row'.Alike row ∧ Json.Distinct (.obj row'.capabilities)) rows' rows

theorem storedRows_same (seen : List String) {quotes : List (List Char)} {rows : List (Row F)}
    {vs : List (Json F)} (hgood : List.Forall₂ (fun quote row => row.Good cfg quote) quotes rows)
    (h : List.Forall₂ (fun row v => Json.Same (Row.json row) v) rows vs)
    (hv : ∀ v ∈ vs, Json.Distinct v) :
    (Unseen seen quotes → ∃ rows', cfg.storedRows seen vs = .ok rows' ∧ Back rows' rows) ∧
    (¬Unseen seen quotes → cfg.storedRows seen vs =
      .error (registryError "pair registry identity is inconsistent")) := by
  induction hgood generalizing seen vs with
  | nil =>
    cases h
    constructor
    · intro _
      exact ⟨[], rfl, .nil⟩
    · intro hseen
      exact absurd ⟨List.nodup_nil, by simp⟩ hseen
  | @cons quote row quotes rows hrow _ ih =>
    cases h with
    | @cons _ v _ vs hsame hrest =>
      obtain ⟨hrefused, hstored⟩ :=
        storedRow_same seen hrow hsame (hv v List.mem_cons_self)
      obtain ⟨hgo, hstop⟩ := ih (pairOf quote :: seen) hrest
        fun w hw => hv w (List.mem_cons_of_mem v hw)
      rw [unseen_cons]
      constructor
      · rintro ⟨hfirst, hunseen⟩
        obtain ⟨row', hrow', hback⟩ := hstored hfirst
        obtain ⟨rows', hrows', hbacks⟩ := hgo hunseen
        refine ⟨row' :: rows', ?_, .cons hback hbacks⟩
        rw [Config.storedRows, hrow']
        simp only [bind, Except.bind, hrows']
      · intro hseen
        rw [Config.storedRows]
        by_cases hfirst : pairOf quote ∈ seen
        · rw [hrefused hfirst]
          rfl
        · obtain ⟨row', hrow', -⟩ := hstored hfirst
          have hrows := hstop fun hunseen => hseen ⟨hfirst, hunseen⟩
          rw [hrow']
          simp only [bind, Except.bind, hrows]

/-! A snapshot. -/

theorem Row.Alike.bound {a b : Row F} (h : a.Alike b) : Json.Same a.bound b.bound := by
  have hcapabilities : Json.ordered (.obj a.capabilities) = Json.ordered (.obj b.capabilities) :=
    h.capabilities
  unfold Json.Same Row.bound
  rw [Json.ordered, Json.ordered]
  simp only [Json.orderedMembers, hcapabilities, h.pair, h.symbol, h.quote, h.filterTypes]

theorem Row.Alike.json {a b : Row F} (h : a.Alike b) : Json.Same a.json b.json := by
  have hcapabilities : Json.ordered (.obj a.capabilities) = Json.ordered (.obj b.capabilities) :=
    h.capabilities
  unfold Json.Same Row.json
  rw [Json.ordered, Json.ordered]
  simp only [Json.orderedMembers, hcapabilities, h.pair, h.symbol, h.quote, h.filterTypes]

/-- Values made of rows that are alike. -/
theorem Back.same {rows' rows : List (Row F)} {f : Row F → Json F} (h : Back rows' rows)
    (hf : ∀ a b : Row F, a.Alike b → Json.Same (f a) (f b)) :
    Json.Same (.arr (rows'.map f)) (.arr (rows.map f)) := by
  have hitems : (rows'.map f).map Json.ordered = (rows.map f).map Json.ordered := by
    induction h with
    | nil => rfl
    | cons hrow _ ih =>
      rw [List.map_cons, List.map_cons, List.map_cons, List.map_cons, ih]
      exact congrArg (· :: _) (hf _ _ hrow.1)
  unfold Json.Same
  rw [Json.ordered, Json.ordered, Json.orderedItems_eq, Json.orderedItems_eq, hitems]

theorem Back.keys {rows' rows : List (Row F)} (h : Back rows' rows) :
    rows'.map Row.key = rows.map Row.key := by
  induction h with
  | nil => rfl
  | cons hrow _ ih => simp [ih, Row.key, hrow.1.quote, hrow.1.symbol]

theorem Back.order {rows' rows : List (Row F)} (h : Back rows' rows)
    (hsorted : rows.Pairwise RowLe) : rows'.Pairwise RowLe := by
  have hkeys : (rows.map Row.key).Pairwise KeyLe := List.pairwise_map.mpr hsorted
  rw [← h.keys] at hkeys
  exact (List.pairwise_map (f := Row.key)).mp hkeys

theorem Back.hash {rows' rows : List (Row F)} (h : Back rows' rows) :
    cfg.registryHash rows' = cfg.registryHash rows := by
  have hsame := h.same fun a b hab => hab.bound
  rw [Config.registryHash, hsame.dumps, ← Config.registryHash]

/-- The entries of a stored snapshot. -/
structure Snapshot.Entries (s : Snapshot F) (value : Members F) (vs : List (Json F)) : Prop where
  schema : value.lookup (say "schema_version") = some (.int 1)
  generatedAt : value.lookup (say "generated_at") = some (.str s.generatedAt)
  epoch : value.lookup (say "generated_at_epoch") = some (.float s.generatedAtEpoch)
  source : value.lookup (say "source") = some (.str s.source)
  hash : value.lookup (say "registry_hash") = some (.str s.registryHash)
  pairs : value.lookup (say "pairs") = some (.arr vs)
  rows : List.Forall₂ (fun row v => Json.Same (Row.json row) v) s.pairs vs
  distinct : ∀ v ∈ vs, Json.Distinct v

theorem Snapshot.entries_of_same {s : Snapshot F} (h : Json.Same s.json v)
    (hv : Json.Distinct v) : ∃ value vs, v = .obj value ∧ s.Entries value vs := by
  obtain ⟨value, rfl⟩ := h.exists_obj
  obtain ⟨hkeys, hvalues⟩ := Json.distinct_obj.mp hv
  obtain ⟨w, hw, hsame⟩ := h.mem (k := say "pairs") (v := .arr (s.pairs.map Row.json)) (by simp)
  obtain ⟨vs, rfl, hrows⟩ := same_arr hsame
  have hitems := (Json.distinctItems_iff vs).mp (hvalues _ hw)
  refine ⟨value, vs, rfl, ⟨?_, ?_, ?_, ?_, ?_, ?_, ?_, hitems⟩⟩
  · exact h.lookup_scalar hkeys (by simp) rfl
  · exact h.lookup_scalar hkeys (by simp) rfl
  · exact h.lookup_scalar hkeys (by simp) rfl
  · exact h.lookup_scalar hkeys (by simp) rfl
  · exact h.lookup_scalar hkeys (by simp) rfl
  · exact Json.lookup_of_mem hkeys hw
  · exact List.forall₂_map_left_iff.mp hrows

/-- A snapshot comes back as the registry had it. -/
structure Snapshot.Alike (a b : Snapshot F) : Prop where
  generatedAt : a.generatedAt = b.generatedAt
  generatedAtEpoch : a.generatedAtEpoch = b.generatedAtEpoch
  source : a.source = b.source
  registryHash : a.registryHash = b.registryHash
  pairs : Back a.pairs b.pairs

/-- A snapshot that was stored is accepted, where no pair comes twice, and else refused. -/
theorem validateSnapshot_same {s : Snapshot F} {quotes : List (List Char)}
    (hgood : List.Forall₂ (fun quote row => row.Good cfg quote) quotes s.pairs)
    (hne : s.pairs ≠ []) (hsorted : s.pairs.Pairwise RowLe)
    (hhash : s.registryHash = cfg.registryHash s.pairs) (h : Json.Same s.json v)
    (hv : Json.Distinct v) :
    (Unseen [] quotes → ∃ s', cfg.validateSnapshot v = .ok s' ∧ s'.Alike s) ∧
    (¬Unseen [] quotes → cfg.validateSnapshot v =
      .error (registryError "pair registry identity is inconsistent")) := by
  obtain ⟨value, vs, rfl, hentries⟩ := Snapshot.entries_of_same h hv
  obtain ⟨hgo, hstop⟩ := storedRows_same [] hgood hentries.rows hentries.distinct
  have hschema : equalsInt cfg.py ((value.lookup (say "schema_version")).getD .null) 1 = true := by
    rw [hentries.schema]
    rfl
  have hepoch : cfg.storedEpoch (value.lookup (say "generated_at_epoch")) =
      .ok s.generatedAtEpoch := by
    rw [hentries.epoch]
    rfl
  have hpairs : ∃ w ws, vs = w :: ws := by
    cases vs with
    | nil =>
      have hnil := hentries.rows
      cases hrows : s.pairs with
      | nil => exact absurd hrows hne
      | cons row rows =>
        rw [hrows] at hnil
        cases hnil
    | cons w ws => exact ⟨w, ws, rfl⟩
  obtain ⟨w, ws, rfl⟩ := hpairs
  constructor
  · intro hunseen
    obtain ⟨rows', hrows', hback⟩ := hgo hunseen
    have hclean : rows'.insertionSort RowLe = rows' := (hback.order hsorted).insertionSort_eq
    refine ⟨⟨s.generatedAt, s.generatedAtEpoch, s.source, s.registryHash, rows'⟩, ?_,
      ⟨rfl, rfl, rfl, rfl, hback⟩⟩
    unfold Config.validateSnapshot
    dsimp only
    rw [Checks.require_bind_eq_ok]
    refine ⟨hschema, ?_⟩
    rw [hepoch, hentries.pairs, except_bind_eq_ok]
    refine ⟨s.generatedAtEpoch, rfl, ?_⟩
    dsimp only
    rw [hrows', except_bind_eq_ok]
    refine ⟨rows', rfl, ?_⟩
    rw [Checks.require_bind_eq_ok, hclean, hback.hash, ← hhash, hentries.hash]
    refine ⟨any_isStr_self, ?_⟩
    rw [Config.textAt, Config.textAt, hentries.generatedAt, hentries.source]
    rfl
  · intro hseen
    unfold Config.validateSnapshot
    dsimp only
    rw [hepoch, hentries.pairs]
    simp only [Checks.require, if_pos hschema, bind, Except.bind, hstop hseen]

end stored

/-! ### What the exchange lists -/

section listed
variable {F : Type} {cfg : Config F} {rows : List (Row F)}

instance : Std.Total KeyLe := by
  constructor
  intro a b
  rcases lt_trichotomy (Text.points a.1) (Text.points b.1) with hlt | heq | hgt
  · exact .inl (.inl hlt)
  · rcases le_total (Text.points a.2) (Text.points b.2) with hle | hge
    · exact .inl (.inr ⟨heq, hle⟩)
    · exact .inr (.inr ⟨heq.symm, hge⟩)
  · exact .inr (.inl hgt)

instance : IsTrans (Text × Text) KeyLe := by
  constructor
  rintro a b c (hab | ⟨hab, hab'⟩) (hbc | ⟨hbc, hbc'⟩)
  · exact .inl (hab.trans hbc)
  · exact .inl (hbc ▸ hab)
  · exact .inl (hab ▸ hbc)
  · exact .inr ⟨hab.trans hbc, hab'.trans hbc'⟩

instance : Std.Total (RowLe (F := F)) := ⟨fun a b => Std.Total.total a.key b.key⟩

instance : IsTrans (Row F) RowLe := ⟨fun a b c => IsTrans.trans a.key b.key c.key⟩

theorem listed_eq_ok {vs : List (Json F)} (h : cfg.listed vs = .ok rows) :
    ∀ row ∈ rows, ∃ metadata, .obj metadata ∈ vs ∧ cfg.row metadata = .ok row := by
  induction vs generalizing rows with
  | nil =>
    cases h
    simp
  | cons v vs ih =>
    have hlater : ∀ {rows}, cfg.listed vs = .ok rows →
        ∀ row ∈ rows, ∃ metadata, .obj metadata ∈ v :: vs ∧ cfg.row metadata = .ok row := by
      intro rows hrows row hrow
      obtain ⟨metadata, hmem, hok⟩ := ih hrows row hrow
      exact ⟨metadata, List.mem_cons_of_mem v hmem, hok⟩
    cases v with
    | obj metadata =>
      rw [Config.listed] at h
      split at h
      · split at h
        · next row hok =>
          cases hrest : cfg.listed vs with
          | error e =>
            rw [hrest] at h
            cases h
          | ok rest =>
            rw [hrest] at h
            cases h
            intro other hother
            obtain rfl | hother := List.mem_cons.mp hother
            · exact ⟨metadata, List.mem_cons_self, hok⟩
            · exact hlater hrest other hother
        · exact hlater h
        · cases h
      · exact hlater h
    | _ => exact hlater h

/-- The row of an entry of the answer. -/
def ListedIn (cfg : Config F) (payload : Json F) (row : Row F) : Prop :=
  ∃ symbols metadata, symbolsIn payload = .ok symbols ∧ .obj metadata ∈ symbols ∧
    cfg.row metadata = .ok row

/-- What `refresh` takes from an answer. -/
theorem rowsOf_eq_ok {payload : Json F} (h : cfg.rowsOf payload = .ok rows) :
    rows ≠ [] ∧ rows.Pairwise RowLe ∧ ∀ row ∈ rows, ListedIn cfg payload row := by
  obtain ⟨symbols, hsymbols, h⟩ := except_bind_eq_ok.mp h
  obtain ⟨found, hfound, h⟩ := except_bind_eq_ok.mp h
  obtain ⟨hne, h⟩ := Checks.require_bind_eq_ok.mp h
  cases h
  have hperm := List.perm_insertionSort RowLe found
  refine ⟨?_, List.pairwise_insertionSort RowLe found, ?_⟩
  · intro hnil
    rw [hnil] at hperm
    exact hne hperm.nil_eq.symm
  · intro row hrow
    obtain ⟨metadata, hmem, hok⟩ := listed_eq_ok hfound row (hperm.mem_iff.mp hrow)
    exact ⟨symbols, metadata, hsymbols, hmem, hok⟩

theorem exists_forall₂ {α β : Type} {P : α → β → Prop} {bs : List β} (h : ∀ b ∈ bs, ∃ a, P a b) :
    ∃ as, List.Forall₂ P as bs := by
  induction bs with
  | nil => exact ⟨[], .nil⟩
  | cons b bs ih =>
    obtain ⟨a, ha⟩ := h b List.mem_cons_self
    obtain ⟨as, has⟩ := ih fun c hc => h c (List.mem_cons_of_mem b hc)
    exact ⟨a :: as, .cons ha has⟩

/-- What holds of every snapshot that the registry gives. -/
structure WellFormed (cfg : Config F) (s : Snapshot F) : Prop where
  nonempty : s.pairs ≠ []
  good : ∀ row ∈ s.pairs, ∃ quote, row.Good cfg quote
  sorted : s.pairs.Pairwise RowLe
  hash : s.registryHash = cfg.registryHash s.pairs

theorem wellFormed_snapshotOf {payload : Json F} {iso : Text} {now : F}
    (h : cfg.rowsOf payload = .ok rows) : WellFormed cfg (cfg.snapshotOf iso now rows) := by
  obtain ⟨hne, hsorted, hrows⟩ := rowsOf_eq_ok h
  refine ⟨hne, ?_, hsorted, rfl⟩
  intro row hrow
  obtain ⟨_, _, -, -, hok⟩ := hrows row hrow
  obtain ⟨⟨quote, hgood, -⟩, -⟩ := row_eq_ok hok
  exact ⟨quote, hgood⟩

theorem unseen_iff {quotes : List (List Char)}
    (h : List.Forall₂ (fun quote row => Row.Good cfg quote row) quotes rows) :
    Unseen [] quotes ↔ (rows.map Row.pair).Nodup := by
  have hpairs : rows.map Row.pair = (quotes.map pairOf).map Text.ofString := by
    induction h with
    | nil => rfl
    | cons hrow _ ih => simp [ih, hrow.pair]
  rw [hpairs, List.nodup_map_iff fun s t => ofString_inj]
  simp [Unseen]

/-! What is stored has no key twice. -/

theorem distinct_of_scalar {vs : List (Json F)} (h : vs.all Json.isScalar = true) :
    Json.Distinct (.arr vs) := by
  rw [Json.Distinct, Json.distinctItems_iff]
  intro v hv
  have hv := List.all_eq_true.mp h v hv
  cases v <;> trivial

theorem distinct_rowJson {row : Row F} (h : Json.Distinct (.obj row.capabilities))
    (hscalar : row.filterTypes.all Json.isScalar = true) : Json.Distinct row.json := by
  have htypes := distinct_of_scalar hscalar
  rw [Row.json, Json.distinct_obj]
  constructor
  · have hkeys : [say "pair", say "symbol", say "base", say "quote", say "capabilities",
        say "filter_types"].Nodup := by decide
    exact hkeys
  · intro m hm
    simp only [List.mem_cons, List.not_mem_nil, or_false] at hm
    rcases hm with rfl | rfl | rfl | rfl | rfl | rfl
    all_goals first | exact h | exact htypes | trivial

theorem Snapshot.distinct_json {s : Snapshot F}
    (h : ∀ row ∈ s.pairs, Json.Distinct (.obj row.capabilities) ∧
      row.filterTypes.all Json.isScalar = true) : Json.Distinct s.json := by
  have hpairs : Json.Distinct (.arr (s.pairs.map Row.json)) := by
    rw [Json.Distinct, Json.distinctItems_iff]
    intro v hv
    obtain ⟨row, hrow, rfl⟩ := List.mem_map.mp hv
    exact distinct_rowJson (h row hrow).1 (h row hrow).2
  rw [Snapshot.json, Json.distinct_obj]
  constructor
  · have hkeys : [say "schema_version", say "generated_at", say "generated_at_epoch", say "source",
        say "registry_hash", say "pairs"].Nodup := by decide
    exact hkeys
  · intro m hm
    simp only [List.mem_cons, List.not_mem_nil, or_false] at hm
    rcases hm with rfl | rfl | rfl | rfl | rfl | rfl
    all_goals first | exact hpairs | trivial

end listed

/-! ### What is accepted -/

section accepted
variable {F : Type} {cfg : Config F} {s : Snapshot F} {row : Row F} {seen : List String}
  {v : Json F}

theorem lookup_of_any_isTrue {flags : Members F} {key : Text}
    (h : (flags.lookup key).any isTrue = true) : flags.lookup key = some (.bool true) := by
  cases hlookup : flags.lookup key with
  | none =>
    rw [hlookup] at h
    cases h
  | some w =>
    rw [hlookup] at h
    cases w with
    | bool b =>
      cases b
      · cases h
      · rfl
    | _ => cases h

theorem pairAt_eq_ok {item : Members F} {pair : String} (h : cfg.pairAt item = .ok pair) :
    ∃ quote, Accepts cfg.pairs quote ∧ pair = pairOf quote := by
  unfold Config.pairAt at h
  split at h
  · cases h
  · exact canonicalPair_eq_ok h

theorem storedRow_eq_ok {pair : String} (h : cfg.storedRow seen v = .ok (pair, row)) :
    ∃ quote, pair = pairOf quote ∧ row.Good cfg quote ∧ pair ∉ seen := by
  unfold Config.storedRow at h
  split at h
  · next item =>
    obtain ⟨pair', hpair, h⟩ := except_bind_eq_ok.mp h
    obtain ⟨quote, haccepts, rfl⟩ := pairAt_eq_ok hpair
    obtain ⟨⟨hseen, -⟩, h⟩ := Checks.require_bind_eq_ok.mp h
    obtain ⟨-, h⟩ := Checks.require_bind_eq_ok.mp h
    split at h
    · next flags _ =>
      obtain ⟨hspot, h⟩ := Checks.require_bind_eq_ok.mp h
      obtain ⟨types, htypes, h⟩ := except_bind_eq_ok.mp h
      cases h
      have hfilters : types.all Json.isScalar = true ∧
          types.any (isStr (say "PRICE_FILTER")) = true ∧
          types.any (isStr (say "LOT_SIZE")) = true := by
        unfold storedFilters at htypes
        split at htypes
        · obtain ⟨hscalar, htypes⟩ := Checks.require_bind_eq_ok.mp htypes
          obtain ⟨⟨hprice, hlot⟩, htypes⟩ := Checks.require_bind_eq_ok.mp htypes
          cases htypes
          exact ⟨hscalar, hprice, hlot⟩
        · cases htypes
      refine ⟨quote, rfl, ⟨haccepts, rfl, ?_, ?_, lookup_of_any_isTrue hspot, hfilters.1,
        hfilters.2.1, hfilters.2.2⟩, hseen⟩
      · rw [symbolChars_pairOf haccepts.1]
      · rw [quoteChars_pairOf]
    · cases h
  · cases h

theorem exists_of_forall₂ {α β : Type} {P : α → β → Prop} {as : List α} {bs : List β}
    (h : List.Forall₂ P as bs) : ∀ b ∈ bs, ∃ a ∈ as, P a b := by
  induction h with
  | nil => simp
  | @cons a b as _ hab _ ih =>
    intro c hc
    obtain rfl | hc := List.mem_cons.mp hc
    · exact ⟨a, List.mem_cons_self, hab⟩
    · obtain ⟨a', ha', hac⟩ := ih c hc
      exact ⟨a', List.mem_cons_of_mem a ha', hac⟩

theorem storedRows_eq_ok {vs : List (Json F)} {rows : List (Row F)}
    (h : cfg.storedRows seen vs = .ok rows) : rows.length = vs.length ∧ ∃ quotes,
      List.Forall₂ (fun quote row => Row.Good cfg quote row) quotes rows ∧ Unseen seen quotes := by
  induction vs generalizing seen rows with
  | nil =>
    cases h
    exact ⟨rfl, [], .nil, List.nodup_nil, by simp⟩
  | cons v vs ih =>
    obtain ⟨⟨pair, row⟩, hrow, h⟩ := except_bind_eq_ok.mp h
    obtain ⟨rows', hrows, h⟩ := except_bind_eq_ok.mp h
    cases h
    obtain ⟨quote, rfl, hgood, hseen⟩ := storedRow_eq_ok hrow
    obtain ⟨hlength, quotes, hgoods, hunseen⟩ := ih hrows
    exact ⟨congrArg (· + 1) hlength, quote :: quotes, .cons hgood hgoods,
      unseen_cons.mpr ⟨hseen, hunseen⟩⟩

/-- Whatever is accepted is well formed, and has no pair twice. -/
theorem validateSnapshot_eq_ok (h : cfg.validateSnapshot v = .ok s) :
    WellFormed cfg s ∧ (s.pairs.map Row.pair).Nodup := by
  unfold Config.validateSnapshot at h
  split at h
  · next value =>
    obtain ⟨-, h⟩ := Checks.require_bind_eq_ok.mp h
    obtain ⟨epoch, -, h⟩ := except_bind_eq_ok.mp h
    split at h
    · next w ws _ =>
      obtain ⟨rows, hrows, h⟩ := except_bind_eq_ok.mp h
      obtain ⟨-, h⟩ := Checks.require_bind_eq_ok.mp h
      cases h
      obtain ⟨hlength, quotes, hgoods, hunseen⟩ := storedRows_eq_ok hrows
      have hperm := List.perm_insertionSort RowLe rows
      constructor
      · refine ⟨?_, ?_, List.pairwise_insertionSort RowLe rows, rfl⟩
        · intro hnil
          have hsame := hperm.length_eq
          rw [hlength, List.length_eq_zero_iff.mpr hnil] at hsame
          cases hsame
        · intro row hrow
          obtain ⟨quote, -, hgood⟩ := exists_of_forall₂ hgoods row (hperm.mem_iff.mp hrow)
          exact ⟨quote, hgood⟩
      · rw [(hperm.map Row.pair).nodup_iff]
        exact (unseen_iff hgoods).mp hunseen
    · cases h
  · cases h

theorem distinct_lookup {item : Members F} {key : Text} {w : Json F} (h : Json.Distinct (.obj item))
    (hlookup : item.lookup key = some w) : Json.Distinct w :=
  (Json.distinct_obj.mp h).2 _ (Json.mem_of_lookup hlookup)

theorem storedRow_distinct {pair : String} (hv : Json.Distinct v)
    (h : cfg.storedRow seen v = .ok (pair, row)) : Json.Distinct (.obj row.capabilities) := by
  unfold Config.storedRow at h
  split at h
  · obtain ⟨_, -, h⟩ := except_bind_eq_ok.mp h
    obtain ⟨-, h⟩ := Checks.require_bind_eq_ok.mp h
    obtain ⟨-, h⟩ := Checks.require_bind_eq_ok.mp h
    split at h
    · next hflags =>
      obtain ⟨-, h⟩ := Checks.require_bind_eq_ok.mp h
      obtain ⟨_, -, h⟩ := except_bind_eq_ok.mp h
      cases h
      exact distinct_lookup hv hflags
    · cases h
  · cases h

theorem storedRows_distinct {vs : List (Json F)} {rows : List (Row F)}
    (hvs : ∀ v ∈ vs, Json.Distinct v) (h : cfg.storedRows seen vs = .ok rows) :
    ∀ row ∈ rows, Json.Distinct (.obj row.capabilities) := by
  induction vs generalizing seen rows with
  | nil =>
    cases h
    simp
  | cons v vs ih =>
    obtain ⟨⟨pair, row⟩, hrow, h⟩ := except_bind_eq_ok.mp h
    obtain ⟨rows', hrows, h⟩ := except_bind_eq_ok.mp h
    cases h
    rw [List.forall_mem_cons] at hvs ⊢
    exact ⟨storedRow_distinct hvs.1 hrow, ih hvs.2 hrows⟩

/-- What is accepted of a value without a key twice has none in its capabilities. -/
theorem validateSnapshot_distinct (hv : Json.Distinct v) (h : cfg.validateSnapshot v = .ok s) :
    ∀ row ∈ s.pairs, Json.Distinct (.obj row.capabilities) := by
  unfold Config.validateSnapshot at h
  split at h
  · obtain ⟨-, h⟩ := Checks.require_bind_eq_ok.mp h
    obtain ⟨_, -, h⟩ := except_bind_eq_ok.mp h
    split at h
    · next hpairs =>
      obtain ⟨rows, hrows, h⟩ := except_bind_eq_ok.mp h
      obtain ⟨-, h⟩ := Checks.require_bind_eq_ok.mp h
      cases h
      have hitems := distinct_lookup hv hpairs
      rw [Json.Distinct, Json.distinctItems_iff] at hitems
      intro row hrow
      have hmem := (List.perm_insertionSort RowLe rows).mem_iff.mp hrow
      exact storedRows_distinct hitems hrows row hmem
    · cases h
  · cases h

end accepted

/-! ### The round trip -/

section back
variable {F : Type} {cfg : Config F} {rows : List (Row F)} {payload : Json F}

theorem distinct_snapshotOf (iso : Text) (now : F) (h : cfg.rowsOf payload = .ok rows) :
    Json.Distinct (cfg.snapshotOf iso now rows).json := by
  obtain ⟨-, -, hrows⟩ := rowsOf_eq_ok h
  apply Snapshot.distinct_json
  intro row hrow
  obtain ⟨_, _, -, -, hok⟩ := hrows row hrow
  obtain ⟨⟨quote, hgood, -⟩, hdistinct⟩ := row_eq_ok hok
  exact ⟨hdistinct, hgood.scalar⟩

/-- What becomes of a snapshot that `refresh` has made, wherever it comes from. -/
theorem validateSnapshot_made {iso : Text} {now : F} {v : Json F}
    (h : cfg.rowsOf payload = .ok rows)
    (hsame : Json.Same (cfg.snapshotOf iso now rows).json v) (hv : Json.Distinct v) :
    ((rows.map Row.pair).Nodup → ∃ s', cfg.validateSnapshot v = .ok s' ∧
      s'.Alike (cfg.snapshotOf iso now rows)) ∧
    (¬(rows.map Row.pair).Nodup → cfg.validateSnapshot v =
      .error (registryError "pair registry identity is inconsistent")) := by
  have hwell : WellFormed cfg (cfg.snapshotOf iso now rows) := wellFormed_snapshotOf h
  obtain ⟨quotes, hgoods⟩ := exists_forall₂ hwell.good
  have hmade := validateSnapshot_same hgoods hwell.nonempty hwell.sorted hwell.hash hsame hv
  rw [unseen_iff hgoods] at hmade
  exact hmade

/-- A snapshot that `refresh` has written to the file is read again, by any later process, with the
same rows, hash and times, exactly where no market was listed twice and its age is within the
bounds; else nothing is found. -/
theorem stored_back (hlaw : cfg.py.floats.toFloatFormat.Lawful)
    (h : cfg.rowsOf payload = .ok rows) (iso : Text) (now later : F) :
    ∃ v, Json.loads cfg.py.floats.toFloatFormat (Json.dumpsPretty cfg.py.floats.toFloatFormat
        (cfg.snapshotOf iso now rows).json) = some v ∧
      if (rows.map Row.pair).Nodup ∧ cfg.fresh later (.finite now) = true then
        ∃ s', cfg.cachedOf later [v] = .ok (some s') ∧ s'.Alike (cfg.snapshotOf iso now rows)
      else cfg.cachedOf later [v] = .ok none := by
  have hdistinct := distinct_snapshotOf iso now h
  refine ⟨_, Json.loads_dumpsPretty _ hlaw hdistinct, ?_⟩
  have hsame : Json.Same (cfg.snapshotOf iso now rows).json
      (Json.ordered (cfg.snapshotOf iso now rows).json) := (Json.same_ordered _).symm
  obtain ⟨haccepted, hrefused⟩ := validateSnapshot_made h hsame
    ((Json.distinct_ordered _).mpr hdistinct)
  obtain ⟨value, hvalue⟩ := hsame.exists_obj
  rw [hvalue] at haccepted hrefused ⊢
  rw [Config.cachedOf]
  · by_cases hnodup : (rows.map Row.pair).Nodup
    · obtain ⟨s', hs', halike⟩ := haccepted hnodup
      have hepoch : s'.generatedAtEpoch = .finite now := halike.generatedAtEpoch
      rw [hs']
      dsimp only
      rw [hepoch]
      by_cases hfresh : cfg.fresh later (.finite now) = true
      · rw [if_pos ⟨hnodup, hfresh⟩, if_pos hfresh]
        exact ⟨s', rfl, halike⟩
      · rw [if_neg fun hboth => hfresh hboth.2, if_neg hfresh]
        rfl
    · rw [hrefused hnodup, if_neg fun hboth => hnodup hboth.1]
      rfl
  · nofun

end back

section sample

theorem toUpper_plain {c : Char} (h : isCode c = true ∨ c = '/' ∨ isPySpace c = true) :
    [c.toUpper] = [c] := by
  have hlower : ¬(97 ≤ c.toNat ∧ c.toNat ≤ 122) := by
    rcases h with hcode | rfl | hspace
    · have hrange := isCode_range hcode
      omega
    · decide
    · simp only [isPySpace, Bool.or_eq_true, Bool.and_eq_true, decide_eq_true_eq] at hspace
      omega
  have hupper : c.toUpper = c := by
    unfold Char.toUpper
    rw [dif_neg]
    exact hlower
  rw [hupper]

/-- Capitals of the Latin letters. -/
def latin : Upper where
  char c := [c.toUpper]
  plain _ := toUpper_plain

def sampleConfig : Config ℤ where
  py := Bus.samplePython
  upper := latin
  pairs := {
    allowedQuotes := []
    registry := true
    text := latin.rules
    digests := { pairConfig := fun pair _ _ _ => pair, pairState := fun _ pair _ _ _ _ _ => pair } }
  rules := rfl
  shown _ := by
    show say "None" ∉ [say "PRICE_FILTER", say "LOT_SIZE"]
    decide
  digest := Text.ofChars
  ttlSeconds := 300

def filterRow (name : String) : Json ℤ := .obj [(say "filterType", .str (say name))]

def market (quote : String) : Json ℤ :=
  .obj [(say "symbol", .str (say ("BTC" ++ quote))), (say "status", .str (say "trading")),
    (say "baseAsset", .str (say "BTC")), (say "quoteAsset", .str (say quote)),
    (say "isSpotTradingAllowed", .bool true), (say "ocoAllowed", .bool true),
    (say "filters", .arr [filterRow "PRICE_FILTER", filterRow "LOT_SIZE"])]

/-- Two markets, and one that is no market of Bitcoin. -/
def samplePayload : Json ℤ :=
  .obj [(say "symbols",
    .arr [market "USDT", .obj [(say "baseAsset", .str (say "ETH"))], market "EUR"])]

theorem stored_back_sample : ∃ rows, sampleConfig.rowsOf samplePayload = .ok rows ∧
    rows.map Row.pair = [say "BTC/EUR", say "BTC/USDT"] ∧
    ∃ v s, Json.loads Bus.wholeFloats.toFloatFormat (Json.dumpsPretty Bus.wholeFloats.toFloatFormat
        (sampleConfig.snapshotOf (say "t") 1000 rows).json) = some v ∧
      sampleConfig.cachedOf 1300 [v] = .ok (some s) ∧
      s.Alike (sampleConfig.snapshotOf (say "t") 1000 rows) := by
  have hrows : ∃ rows, sampleConfig.rowsOf samplePayload = .ok rows ∧
      rows.map Row.pair = [say "BTC/EUR", say "BTC/USDT"] := ⟨_, rfl, rfl⟩
  obtain ⟨rows, hrows, hpairs⟩ := hrows
  have hnodup : (rows.map Row.pair).Nodup := by
    rw [hpairs]
    decide
  have hfresh : sampleConfig.fresh 1300 (.finite 1000) = true := by decide
  have hlaw : sampleConfig.py.floats.toFloatFormat.Lawful := Bus.wholeFloats_exact.toLawful
  obtain ⟨v, hloads, hback⟩ := stored_back hlaw hrows (say "t") 1000 1300
  rw [if_pos ⟨hnodup, hfresh⟩] at hback
  obtain ⟨s, hs, halike⟩ := hback
  exact ⟨rows, hrows, hpairs, v, s, hloads, hs, halike⟩

end sample

end SpotSidecar.PairControl.Registry
