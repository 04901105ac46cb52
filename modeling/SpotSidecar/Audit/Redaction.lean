import Mathlib.Data.List.Dedup
import SpotSidecar.Json.Value
import SpotSidecar.Text.Substitution

/-! What audits and reports show of a text or a record: no configured secret. -/
namespace SpotSidecar.Redaction
open Substitution (Pattern Fenced)
open Json (Text Members)

/-- `REDACTED` -/
def redacted : Text := Text.ofString "[REDACTED]"

/-- `"[REDACTED]"`, in its quotes. -/
def quoted : Text := Text.ofString "\"[REDACTED]\""

/-- `_configured_secrets`: the values of the environment that are long enough, the longest first. -/
def configuredSecrets (values : List Text) : List Text :=
  (values.dedup.filter fun value => 8 ≤ (Text.points value).length).mergeSort fun a b =>
    (Text.points b).length ≤ (Text.points a).length

/-- The expressions of the module, as what they find. -/
structure Patterns where
  sensitiveKey : Text → Bool
  telegramUrl : Pattern Json.CodeUnit
  bearer : Pattern Json.CodeUnit
  quotedKv : Pattern Json.CodeUnit
  inline : Pattern Json.CodeUnit

/-- `redact_text` of a text. -/
def redactText (patterns : Patterns) (secrets : List Text) (text : Text) : Text :=
  let text := secrets.foldl (fun text secret => Substitution.replace secret redacted text) text
  let text := patterns.telegramUrl.sub redacted text
  let text := patterns.bearer.sub redacted text
  let text := patterns.quotedKv.sub quoted text
  patterns.inline.sub redacted text

variable {F : Type}

/-! `redact` -/
mutual

def redact (patterns : Patterns) (secrets : List Text) : Json F → Json F
  | .obj members => .obj (redactMembers patterns secrets members)
  | .arr items => .arr (redactItems patterns secrets items)
  | .str s => .str (redactText patterns secrets s)
  | .null => .null
  | .bool b => .bool b
  | .int n => .int n
  | .float x => .float x

def redactItems (patterns : Patterns) (secrets : List Text) : List (Json F) → List (Json F)
  | [] => []
  | v :: vs => redact patterns secrets v :: redactItems patterns secrets vs

def redactMembers (patterns : Patterns) (secrets : List Text) : Members F → Members F
  | [] => []
  | (k, v) :: ms =>
    (k, if patterns.sensitiveKey k then .str redacted else redact patterns secrets v) ::
      redactMembers patterns secrets ms

end

/-! The texts of a value, without its keys, and the members of all its objects. -/
mutual

def texts : Json F → List Text
  | .obj members => textsOfMembers members
  | .arr items => textsOfItems items
  | .str s => [s]
  | .null | .bool _ | .int _ | .float _ => []

def textsOfItems : List (Json F) → List Text
  | [] => []
  | v :: vs => texts v ++ textsOfItems vs

def textsOfMembers : Members F → List Text
  | [] => []
  | (_, v) :: ms => texts v ++ textsOfMembers ms

end

mutual

def entries : Json F → Members F
  | .obj members => entriesOfMembers members
  | .arr items => entriesOfItems items
  | .str _ | .null | .bool _ | .int _ | .float _ => []

def entriesOfItems : List (Json F) → Members F
  | [] => []
  | v :: vs => entries v ++ entriesOfItems vs

def entriesOfMembers : Members F → Members F
  | [] => []
  | (k, v) :: ms => (k, v) :: (entries v ++ entriesOfMembers ms)

end

/-! ### What no replacement can spell -/

def opening : Json.CodeUnit := Json.CodeUnit.ofNat 91
def closing : Json.CodeUnit := Json.CodeUnit.ofNat 93
def quote : Json.CodeUnit := Json.CodeUnit.ofNat 34

/-- A secret without brackets and quotes that is no part of the word between the brackets. -/
structure Plain (secret : Text) : Prop where
  opening : opening ∉ secret
  closing : closing ∉ secret
  quote : quote ∉ secret
  word : ¬secret <:+: Text.ofString "REDACTED"

section Text
variable {secret : Text}

theorem redacted_eq :
    redacted = opening :: (Text.ofString "REDACTED" ++ [closing]) := by
  decide

theorem quoted_eq : quoted = quote :: (redacted ++ [quote]) := by
  decide

theorem Plain.fenced (h : Plain secret) : Fenced secret redacted :=
  ⟨_, _, _, redacted_eq, h.opening, h.closing, h.word⟩

theorem Plain.ne_nil (h : Plain secret) : secret ≠ [] := by
  rintro rfl
  exact h.word List.nil_infix

theorem Plain.not_infix_redacted (h : Plain secret) : ¬secret <:+: redacted := by
  intro hinfix
  have hrest : secret <:+: [] ∨ secret <:+: [] := by
    apply h.fenced.infix
    rw [List.append_nil, List.nil_append]
    exact hinfix
  exact h.ne_nil (hrest.elim List.infix_nil.mp List.infix_nil.mp)

theorem Plain.fenced_quoted (h : Plain secret) : Fenced secret quoted :=
  ⟨_, _, _, quoted_eq, h.quote, h.quote, h.not_infix_redacted⟩

/-- Replacing the secrets one after another removes each of them for good. -/
theorem Plain.foldl (h : Plain secret) (secrets : List Text) (text : Text)
    (hmem : secret ∈ secrets ∨ ¬secret <:+: text) :
    ¬secret <:+:
    secrets.foldl (fun text other => Substitution.replace other redacted text) text := by
  induction secrets generalizing text with
  | nil =>
    obtain hmem | hfree := hmem
    · cases hmem
    · exact hfree
  | cons other secrets ih =>
    apply ih
    obtain hmem | hfree := hmem
    · obtain rfl | hmem := List.mem_cons.mp hmem
      · exact .inr (Substitution.not_infix_replace h.ne_nil h.fenced)
      · exact .inl hmem
    · exact .inr fun hinfix => hfree (Substitution.infix_of_replace h.fenced hinfix)

theorem Plain.redactText (h : Plain secret) (patterns : Patterns) {secrets : List Text}
    (hmem : secret ∈ secrets) (text : Text) : ¬secret <:+: redactText patterns secrets text := by
  intro hinfix
  have hinline := patterns.inline.infix_of_sub h.fenced hinfix
  have hquoted := patterns.quotedKv.infix_of_sub h.fenced_quoted hinline
  have hbearer := patterns.bearer.infix_of_sub h.fenced hquoted
  have htelegram := patterns.telegramUrl.infix_of_sub h.fenced hbearer
  exact h.foldl secrets text (.inl hmem) htelegram

theorem mem_configuredSecrets {values : List Text} (hvalue : secret ∈ values)
    (hlong : 8 ≤ (Text.points secret).length) : secret ∈ configuredSecrets values := by
  unfold configuredSecrets
  rw [List.mem_mergeSort, List.mem_filter, List.mem_dedup]
  exact ⟨hvalue, decide_eq_true hlong⟩

end Text

/-! ### Whole records -/

section Record
variable {patterns : Patterns} {secrets : List Text} {P : Text → Prop}

/-! Each text of a redacted value is one that `redact_text` returned, or the word for one. -/
mutual

theorem texts_redact (htext : ∀ text, P (redactText patterns secrets text)) (hword : P redacted) :
    ∀ v : Json F, ∀ s ∈ texts (redact patterns secrets v), P s
  | .obj members => texts_redactMembers htext hword members
  | .arr items => texts_redactItems htext hword items
  | .str s => fun _ h => List.mem_singleton.mp h ▸ htext s
  | .null | .bool _ | .int _ | .float _ => fun _ h => absurd h List.not_mem_nil

theorem texts_redactItems (htext : ∀ text, P (redactText patterns secrets text))
    (hword : P redacted) :
    ∀ vs : List (Json F), ∀ s ∈ textsOfItems (redactItems patterns secrets vs), P s
  | [] => fun _ h => absurd h List.not_mem_nil
  | v :: vs => fun s h => (List.mem_append.mp h).elim (texts_redact htext hword v s)
    (texts_redactItems htext hword vs s)

theorem texts_redactMembers (htext : ∀ text, P (redactText patterns secrets text))
    (hword : P redacted) :
    ∀ ms : Members F, ∀ s ∈ textsOfMembers (redactMembers patterns secrets ms), P s
  | [] => fun _ h => absurd h List.not_mem_nil
  | (k, v) :: ms => by
    intro s h
    obtain hvalue | hrest := List.mem_append.mp h
    · split at hvalue
      · exact List.mem_singleton.mp hvalue ▸ hword
      · exact texts_redact htext hword v s hvalue
    · exact texts_redactMembers htext hword ms s hrest

end

/-! Under a key that tells of a secret stands nothing else. -/
mutual

theorem entries_redact :
    ∀ v : Json F, ∀ entry ∈ entries (redact patterns secrets v),
      patterns.sensitiveKey entry.1 = true → entry.2 = .str redacted
  | .obj members => entries_redactMembers members
  | .arr items => entries_redactItems items
  | .str _ | .null | .bool _ | .int _ | .float _ => fun _ h => absurd h List.not_mem_nil

theorem entries_redactItems :
    ∀ vs : List (Json F), ∀ entry ∈ entriesOfItems (redactItems patterns secrets vs),
      patterns.sensitiveKey entry.1 = true → entry.2 = .str redacted
  | [] => fun _ h => absurd h List.not_mem_nil
  | v :: vs => fun entry h => (List.mem_append.mp h).elim (entries_redact v entry)
    (entries_redactItems vs entry)

theorem entries_redactMembers :
    ∀ ms : Members F, ∀ entry ∈ entriesOfMembers (redactMembers patterns secrets ms),
      patterns.sensitiveKey entry.1 = true → entry.2 = .str redacted
  | [] => fun _ h => absurd h List.not_mem_nil
  | (k, v) :: ms => by
    intro entry h hsensitive
    obtain rfl | h := List.mem_cons.mp h
    · exact if_pos hsensitive
    · obtain hvalue | hrest := List.mem_append.mp h
      · split at hvalue
        · cases hvalue
        · exact entries_redact v entry hvalue hsensitive
      · exact entries_redactMembers ms entry hrest hsensitive

end

/-- Whatever the expressions find, and at any depth of a record: a configured secret of eight
letters or more is in no text that is shown, unless a replacement could spell it; and under a key
that tells of a secret stands the word for one and nothing else. -/
theorem redact_free {values : List Text} {secret : Text} (hvalue : secret ∈ values)
    (hlong : 8 ≤ (Text.points secret).length) (hplain : Plain secret) (v : Json F) :
    (∀ s ∈ texts (redact patterns (configuredSecrets values) v), ¬secret <:+: s) ∧
      ∀ entry ∈ entries (redact patterns (configuredSecrets values) v),
        patterns.sensitiveKey entry.1 = true → entry.2 = .str redacted := by
  have hmem := mem_configuredSecrets hvalue hlong
  exact ⟨texts_redact (fun text => hplain.redactText patterns hmem text)
    hplain.not_infix_redacted v, entries_redact v⟩

end Record

/-- Expressions on a text in which they find nothing. -/
def samplePatterns : Patterns where
  sensitiveKey := fun key => key = Text.ofString "token"
  telegramUrl := ⟨fun t => ([], t), fun _ => rfl⟩
  bearer := ⟨fun t => ([], t), fun _ => rfl⟩
  quotedKv := ⟨fun t => ([], t), fun _ => rfl⟩
  inline := ⟨fun t => ([], t), fun _ => rfl⟩

theorem redact_free_sample :
    let secret := Text.ofString "abcdefgh12"
    let shown := redact samplePatterns (configuredSecrets [[], secret]) (.obj [
      (Text.ofString "error", .str (Text.ofString "login abcdefgh12 failed")),
      (Text.ofString "token", .int 7)] : Json ℕ)
    texts shown = [Text.ofString "login [REDACTED] failed", redacted] ∧
      ((∀ s ∈ texts shown, ¬secret <:+: s) ∧
        ∀ entry ∈ entries shown, samplePatterns.sensitiveKey entry.1 = true →
          entry.2 = .str redacted) := by
  have hplain : Plain (Text.ofString "abcdefgh12") :=
    ⟨by decide, by decide, by decide, by decide⟩
  refine ⟨by decide +kernel, ?_⟩
  exact redact_free (List.mem_cons_of_mem _ (List.mem_singleton_self _)) (by decide) hplain _

end SpotSidecar.Redaction
