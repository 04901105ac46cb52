import SpotSidecar.Json.Characters
import SpotSidecar.Json.RoundTrip

/-! The text of a value that keeps its characters (`ensure_ascii=False`), where it has only such as
UTF-8 can encode. -/
namespace Json
variable {F : Type} {floats : FloatFormat F}

def rawEscaped (c : Char) : List Char :=
  if c.toNat < 32 ∨ c = quote ∨ c = backslash then escaped (CodeUnit.ofNat c.toNat) else [c]

def rawString (s : Text) : List Char := quoted ((s.chars.getD []).flatMap rawEscaped)

mutual

/-- Every string has characters: none has a lone surrogate. -/
def encodable : Json F → Bool
  | .null | .bool _ | .int _ | .float _ => true
  | .str s => s.chars.isSome
  | .arr vs => encodableItems vs
  | .obj ms => encodableMembers ms

def encodableItems : List (Json F) → Bool
  | [] => true
  | v :: vs => encodable v && encodableItems vs

def encodableMembers : Members F → Bool
  | [] => true
  | (k, v) :: ms => k.chars.isSome && (encodable v && encodableMembers ms)

end

mutual

def renderRaw (floats : FloatFormat F) : Json F → List Char
  | .null => literalNull
  | .bool b => if b then literalTrue else literalFalse
  | .int n => intToken n
  | .float x => doubleToken floats x
  | .str s => rawString s
  | .arr vs => '[' :: renderRawItems floats vs ++ [']']
  | .obj ms => '\x7b' :: renderRawMembers floats ms ++ ['\x7d']

def renderRawItems (floats : FloatFormat F) : List (Json F) → List Char
  | [] => []
  | [v] => renderRaw floats v
  | v :: w :: vs => renderRaw floats v ++ ',' :: renderRawItems floats (w :: vs)

def renderRawMembers (floats : FloatFormat F) : Members F → List Char
  | [] => []
  | [(k, v)] => rawString k ++ ':' :: renderRaw floats v
  | (k, v) :: m :: ms =>
    rawString k ++ ':' :: renderRaw floats v ++ ',' :: renderRawMembers floats (m :: ms)

end

/-- `json.dumps(v, sort_keys=True, separators=(',', ':'), ensure_ascii=False)`, as long as it can be
encoded. -/
def dumpsRaw (floats : FloatFormat F) (v : Json F) : Option (List Char) :=
  if encodable (ordered v) then some (renderRaw floats (ordered v)) else none

/-! ### It is one of the texts of the value -/

namespace Text

theorem map_charsOfPoints {ps : List ℕ} {cs : List Char} (h : charsOfPoints ps = some cs) :
    ps = cs.map Char.toNat := by
  induction ps generalizing cs with
  | nil =>
    cases h
    rfl
  | cons p ps ih =>
    rw [charsOfPoints] at h
    split at h
    · next hvalid =>
      obtain ⟨rest, hrest, rfl⟩ := Option.map_eq_some_iff.mp h
      have hpoint : (Char.ofNat p).toNat = p := by
        have hchar : Char.ofNat p = Char.ofNatAux p hvalid := dif_pos hvalid
        rw [hchar]
        rfl
      rw [List.map_cons, ← ih hrest, hpoint]
    · cases h

theorem points_flatMap (cs : List Char) : points (cs.flatMap ofChar) = cs.map Char.toNat := by
  induction cs with
  | nil => rfl
  | cons c cs ih => rw [List.flatMap_cons, points_ofChar, ih, List.map_cons]

/-- A string is made of its characters. -/
theorem eq_of_chars {s : Text} {cs : List Char} (h : chars s = some cs) :
    s = cs.flatMap ofChar := by
  apply points_inj
  rw [points_flatMap]
  exact map_charsOfPoints h

end Text

theorem ofChar_small {c : Char} (h : c.toNat < 128) : Text.ofChar c = [CodeUnit.ofNat c.toNat] := by
  have hsmall : c.toNat < 0x10000 := by omega
  rw [Text.ofChar, Text.unitsOfPoint, if_pos hsmall]
  rfl

theorem spells_escaped_cons {u : CodeUnit} {s : Text} {t : List Char} (h : Spells s t) :
    Spells (u :: s) (escaped u ++ t) := by
  rw [escaped]
  cases hshort : shortEscapes.lookup u with
  | some letter => exact .short (unitOfLetter_lookup hshort) h
  | none =>
    by_cases hascii : 32 ≤ u.val ∧ u.val ≤ 126
    · simp only [if_pos hascii]
      exact spells_ascii hshort hascii.1 hascii.2 h
    · obtain ⟨a, b, c, d, hdigits, hunit⟩ := exists_digits_lower u
      simp only [if_neg hascii, hdigits]
      exact .hex hunit h

theorem spells_raw (cs : List Char) : Spells (cs.flatMap Text.ofChar) (cs.flatMap rawEscaped) := by
  induction cs with
  | nil => exact .nil
  | cons c cs ih =>
    rw [List.flatMap_cons, List.flatMap_cons, rawEscaped]
    by_cases hescape : c.toNat < 32 ∨ c = quote ∨ c = backslash
    · have hsmall : c.toNat < 128 := by
        rcases hescape with hlow | rfl | rfl
        · omega
        · decide
        · decide
      rw [if_pos hescape, ofChar_small hsmall]
      exact spells_escaped_cons ih
    · rw [if_neg hescape]
      rw [not_or, not_or, not_lt] at hescape
      exact .raw hescape.1 hescape.2.1 hescape.2.2 ih

theorem spells_rawString {s : Text} (h : s.chars.isSome = true) :
    ∃ t, rawString s = quoted t ∧ Spells s t := by
  obtain ⟨cs, hcs⟩ := Option.isSome_iff_exists.mp h
  refine ⟨_, rfl, ?_⟩
  have hspells := spells_raw cs
  rw [← Text.eq_of_chars hcs] at hspells
  rw [hcs]
  exact hspells

mutual

theorem writes_renderRaw : ∀ v : Json F, encodable v = true → Writes floats v (renderRaw floats v)
  | .null, _ => .null
  | .bool Bool.true, _ => .true
  | .bool Bool.false, _ => .false
  | .int n, _ => .int n
  | .float x, _ => .float x
  | .str s, h => by
    obtain ⟨t, ht, hspells⟩ := spells_rawString h
    rw [renderRaw, ht]
    exact .str hspells
  | .arr vs, h => .arr (writesItems_renderRaw vs h)
  | .obj ms, h => .obj (writesMembers_renderRaw ms h)

theorem writesItems_renderRaw : ∀ vs : List (Json F), encodableItems vs = true →
    WritesItems floats vs (renderRawItems floats vs)
  | [], _ => .nil blank_nil
  | [v], h => by
    rw [encodableItems, Bool.and_eq_true] at h
    have hlast := WritesItems.last blank_nil (writes_renderRaw v h.1) blank_nil
    simpa [renderRawItems] using hlast
  | v :: w :: vs, h => by
    rw [encodableItems, Bool.and_eq_true] at h
    have hcons := WritesItems.cons blank_nil (writes_renderRaw v h.1) blank_nil
      (writesItems_renderRaw (w :: vs) h.2)
    simpa [renderRawItems] using hcons

theorem writesMembers_renderRaw : ∀ ms : Members F, encodableMembers ms = true →
    WritesMembers floats ms (renderRawMembers floats ms)
  | [], _ => .nil blank_nil
  | [(k, v)], h => by
    rw [encodableMembers, Bool.and_eq_true, Bool.and_eq_true] at h
    obtain ⟨t, ht, hspells⟩ := spells_rawString h.1
    have hlast := WritesMembers.last blank_nil hspells blank_nil blank_nil
      (writes_renderRaw v h.2.1) blank_nil
    simpa [renderRawMembers, ht] using hlast
  | (k, v) :: m :: ms, h => by
    rw [encodableMembers, Bool.and_eq_true, Bool.and_eq_true] at h
    obtain ⟨t, ht, hspells⟩ := spells_rawString h.1
    have hcons := WritesMembers.cons blank_nil hspells blank_nil blank_nil
      (writes_renderRaw v h.2.1) blank_nil (writesMembers_renderRaw (m :: ms) h.2.2)
    simpa [renderRawMembers, ht] using hcons

end

/-- Values with one text are equal as JSON. -/
theorem dumpsRaw_inj (hlaw : floats.Lawful) {v w : Json F} {text : List Char} (hv : Distinct v)
    (hw : Distinct w) (h : dumpsRaw floats v = some text) (h' : dumpsRaw floats w = some text) :
    Same v w := by
  have hread : ∀ {v : Json F}, Distinct v → dumpsRaw floats v = some text →
      loads floats text = some (ordered v) := by
    intro v hv h
    unfold dumpsRaw at h
    split at h
    · next hencodable =>
      cases h
      have hwrites : Writes floats (ordered v) (renderRaw floats (ordered v)) :=
        writes_renderRaw (ordered v) hencodable
      apply loads_document hlaw ((distinct_ordered v).mpr hv)
      exact ⟨[], _, [], blank_nil, hwrites, blank_nil, by simp⟩
    · cases h
  have hsame := hread hv h
  rw [hread hw h'] at hsame
  exact (Option.some.inj hsame).symm

theorem Same.dumpsRaw {v w : Json F} (h : Same v w) : dumpsRaw floats v = dumpsRaw floats w := by
  have hordered : ordered v = ordered w := h
  rw [Json.dumpsRaw, Json.dumpsRaw, hordered]

end Json
