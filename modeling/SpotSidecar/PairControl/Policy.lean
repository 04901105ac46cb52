import SpotSidecar.State.Values

/-! The pair policy: which names of a pair are accepted and what is derived from them. -/
namespace SpotSidecar.PairControl

/-- What the operations of the pair controller raise. -/
inductive PairExc where
  | policy (detail : String)
  | state (detail : String)
  | other (typeName : String) (detail : String)
  deriving DecidableEq, Repr

namespace PairExc

def typeName : PairExc → String
  | .policy _ => "PairPolicyError"
  | .state _ => "PairStateError"
  | .other name _ => name

def text : PairExc → String
  | .policy detail => detail
  | .state detail => detail
  | .other _ detail => detail

end PairExc

/-- `[A-Z0-9]` -/
def isCode (c : Char) : Bool := c.isUpper || c.isDigit

/-- `[A-Z0-9]{2,12}` -/
def isQuote (quote : List Char) : Bool :=
  2 ≤ quote.length && quote.length ≤ 12 && quote.all isCode

/-- `str.strip` followed by `str.upper`: text in capital letters, digits and slashes stays. -/
structure TextRules where
  clean : List Char → List Char
  clean_plain : ∀ text, (∀ c ∈ text, isCode c = true ∨ c = '/') → clean text = text

/-- The digests that bind a pair to its configuration and to its state. -/
structure Digests where
  pairConfig : (pair symbol stakeCurrency : String) → (pairWhitelist : List String) → String
  pairState : (schemaVersion : ℕ) → (pair symbol base quote : String) → (generation : ℕ) →
    (pairConfigHash : String) → String

/-- What the pair controller is constructed with. -/
structure PairConfig where
  allowedQuotes : List String
  registry : Bool
  text : TextRules
  digests : Digests

/-- `_quotes` with `allow_empty`. -/
def quotes (cfg : PairConfig) (values : List String) : Except PairExc (List (List Char)) :=
  let cleaned := ((values.map fun value => cfg.text.clean value.toList).filter (· ≠ [])).eraseDups
  if cleaned.all isQuote then
    .ok cleaned
  else
    .error (.policy "BTC quote allowlist must contain 2-12 character asset codes")

/-- `value.strip().upper()` with its separators as slashes, and with the one that is missing. -/
def normalized (cfg : PairConfig) (value : String) : List Char :=
  let raw := (cfg.text.clean value.toList).map fun c => if c = '-' || c = '_' then '/' else c
  if '/' ∉ raw && "BTC".toList.isPrefixOf raw && 5 ≤ raw.length && raw.length ≤ 15 &&
      raw.all isCode then
    "BTC/".toList ++ raw.drop 3
  else
    raw

/-- The quote of `BTC/QUOTE`. -/
def quoteOf? (raw : List Char) : Option (List Char) :=
  if "BTC/".toList.isPrefixOf raw && isQuote (raw.drop 4) then some (raw.drop 4) else none

def canonicalPair (cfg : PairConfig) (value : String) : Except PairExc String :=
  match quoteOf? (normalized cfg value) with
  | none => .error (.policy "pair must use the form BTC/QUOTE")
  | some quote => do
    let allowed ← quotes cfg cfg.allowedQuotes
    if allowed ≠ [] ∧ quote ∉ allowed then
      .error (.policy "pair quote is outside the configured BTC quote allowlist")
    else
      .ok (String.ofList (normalized cfg value))

def symbolForPair (cfg : PairConfig) (pair : String) : Except PairExc String := do
  let pair ← canonicalPair cfg pair
  return String.ofList (pair.toList.filter (· ≠ '/'))

def quoteForPair (cfg : PairConfig) (pair : String) : Except PairExc String := do
  let pair ← canonicalPair cfg pair
  return String.ofList ((pair.toList.dropWhile (· ≠ '/')).drop 1)

def pairConfigHash (cfg : PairConfig) (pair : String) : Except PairExc String := do
  let symbol ← symbolForPair cfg pair
  let quote ← quoteForPair cfg pair
  let pair ← canonicalPair cfg pair
  return cfg.digests.pairConfig pair symbol quote [pair]

section canonical
variable {cfg : PairConfig} {value pair : String}

theorem quoteOf?_eq_some {raw quote : List Char} (h : quoteOf? raw = some quote) :
    raw = 'B' :: 'T' :: 'C' :: '/' :: quote ∧ isQuote quote = true := by
  unfold quoteOf? at h
  split at h
  · next hraw =>
    rw [Bool.and_eq_true, List.isPrefixOf_iff_prefix] at hraw
    obtain ⟨⟨rest, rfl⟩, hquote⟩ := hraw
    cases h
    exact ⟨rfl, hquote⟩
  · cases h

theorem isCode_of_isQuote {quote : List Char} (h : isQuote quote = true) :
    ∀ c ∈ quote, isCode c = true := by
  simp only [isQuote, Bool.and_eq_true, List.all_eq_true] at h
  exact h.2

/-- A text that names a pair already is not changed by the normalization. -/
theorem normalized_canonical {quote : List Char} (h : isQuote quote = true) :
    normalized cfg (String.ofList ('B' :: 'T' :: 'C' :: '/' :: quote)) =
      'B' :: 'T' :: 'C' :: '/' :: quote := by
  have hcode := isCode_of_isQuote h
  have hplain : ∀ c ∈ 'B' :: 'T' :: 'C' :: '/' :: quote, isCode c = true ∨ c = '/' := by
    intro c hc
    simp only [List.mem_cons] at hc
    rcases hc with rfl | rfl | rfl | rfl | hc
    · exact .inl rfl
    · exact .inl rfl
    · exact .inl rfl
    · exact .inr rfl
    · exact .inl (hcode c hc)
  have hsep : ∀ c ∈ 'B' :: 'T' :: 'C' :: '/' :: quote,
      (if c = '-' || c = '_' then '/' else c) = c := by
    intro c hc
    have hne : c ≠ '-' ∧ c ≠ '_' := by
      constructor <;> rintro rfl <;> rcases hplain _ hc with h | h <;> revert h <;> decide
    simp [hne]
  unfold normalized
  simp only [String.toList_ofList, cfg.text.clean_plain _ hplain, List.map_congr_left hsep,
    List.map_id']
  rw [if_neg]
  simp

/-- The quote of an accepted name. -/
def Accepts (cfg : PairConfig) (quote : List Char) : Prop :=
  isQuote quote = true ∧ ∃ allowed, quotes cfg cfg.allowedQuotes = .ok allowed ∧
    (allowed = [] ∨ quote ∈ allowed)

theorem canonicalPair_eq_ok (h : canonicalPair cfg value = .ok pair) :
    ∃ quote, Accepts cfg quote ∧ pair = String.ofList ('B' :: 'T' :: 'C' :: '/' :: quote) := by
  unfold canonicalPair at h
  split at h
  · cases h
  · next quote hquote =>
    obtain ⟨hraw, his⟩ := quoteOf?_eq_some hquote
    obtain ⟨allowed, hallowed, hrest⟩ := except_bind_eq_ok.mp h
    split at hrest
    · cases hrest
    · next hin =>
      cases hrest
      refine ⟨quote, ⟨his, allowed, hallowed, ?_⟩, by rw [hraw]⟩
      by_cases hnil : allowed = []
      · exact .inl hnil
      · exact .inr (not_not.mp fun hmem => hin ⟨hnil, hmem⟩)

theorem canonicalPair_of_accepts {quote : List Char} (h : Accepts cfg quote) :
    canonicalPair cfg (String.ofList ('B' :: 'T' :: 'C' :: '/' :: quote)) =
      .ok (String.ofList ('B' :: 'T' :: 'C' :: '/' :: quote)) := by
  obtain ⟨his, allowed, hallowed, hin⟩ := h
  have hquote : quoteOf? ('B' :: 'T' :: 'C' :: '/' :: quote) = some quote := by
    simp [quoteOf?, his, List.isPrefixOf]
  have hout : ¬(allowed ≠ [] ∧ quote ∉ allowed) := by
    rintro ⟨hnil, hmem⟩
    exact hin.elim hnil hmem
  rw [canonicalPair, normalized_canonical his, hquote]
  dsimp only
  rw [hallowed]
  exact if_neg hout

/-- A canonical name is its own canonical name. -/
theorem canonicalPair_canonical (h : canonicalPair cfg value = .ok pair) :
    canonicalPair cfg pair = .ok pair := by
  obtain ⟨quote, haccepts, rfl⟩ := canonicalPair_eq_ok h
  exact canonicalPair_of_accepts haccepts

theorem symbolForPair_canonical (h : canonicalPair cfg value = .ok pair) :
    symbolForPair cfg pair = .ok (String.ofList (pair.toList.filter (· ≠ '/'))) := by
  rw [symbolForPair, canonicalPair_canonical h]
  rfl

theorem quoteForPair_canonical (h : canonicalPair cfg value = .ok pair) :
    quoteForPair cfg pair = .ok (String.ofList ((pair.toList.dropWhile (· ≠ '/')).drop 1)) := by
  rw [quoteForPair, canonicalPair_canonical h]
  rfl

theorem pairConfigHash_canonical (h : canonicalPair cfg value = .ok pair) :
    ∃ digest, pairConfigHash cfg pair = .ok digest := by
  rw [pairConfigHash, symbolForPair_canonical h, quoteForPair_canonical h,
    canonicalPair_canonical h]
  exact ⟨_, rfl⟩

end canonical
end SpotSidecar.PairControl
