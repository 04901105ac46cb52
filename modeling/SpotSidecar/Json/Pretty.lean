import SpotSidecar.Json.RoundTrip

/-! The text of a value over several lines, each indented by two spaces for every value around
it. -/
namespace Json
variable {F : Type} (floats : FloatFormat F)

def newline (depth : ℕ) : List Char := '\n' :: List.replicate (2 * depth) ' '

mutual

def pretty (depth : ℕ) : Json F → List Char
  | .null => literalNull
  | .bool b => if b then literalTrue else literalFalse
  | .int n => intToken n
  | .float x => doubleToken floats x
  | .str s => quoted (s.flatMap escaped)
  | .arr [] => ['[', ']']
  | .arr (v :: vs) =>
    '[' :: (newline (depth + 1) ++ pretty (depth + 1) v ++ prettyItems (depth + 1) vs ++
      newline depth) ++ [']']
  | .obj [] => ['\x7b', '\x7d']
  | .obj ((k, v) :: ms) =>
    '\x7b' :: (newline (depth + 1) ++ quoted (k.flatMap escaped) ++ ':' :: ' ' ::
      pretty (depth + 1) v ++ prettyMembers (depth + 1) ms ++ newline depth) ++ ['\x7d']

/-- The items after the first. -/
def prettyItems (depth : ℕ) : List (Json F) → List Char
  | [] => []
  | v :: vs => ',' :: (newline depth ++ pretty depth v ++ prettyItems depth vs)

/-- The members after the first. -/
def prettyMembers (depth : ℕ) : Members F → List Char
  | [] => []
  | (k, v) :: ms =>
    ',' :: (newline depth ++ quoted (k.flatMap escaped) ++ ':' :: ' ' :: pretty depth v ++
      prettyMembers depth ms)

end

/-- `json.dumps(v, indent=2, sort_keys=True)` -/
def dumpsPretty (v : Json F) : List Char := pretty floats 0 (ordered v)

theorem blank_newline (depth : ℕ) : Blank (newline depth) := by
  intro c hc
  rcases List.mem_cons.mp hc with rfl | hspace
  · rfl
  · rw [List.eq_of_mem_replicate hspace]
    rfl

theorem blank_space : Blank [' '] := by
  intro c hc
  rw [List.mem_singleton.mp hc]
  rfl

mutual

theorem writes_pretty (depth : ℕ) : ∀ v : Json F, Writes floats v (pretty floats depth v)
  | .null => .null
  | .bool Bool.true => .true
  | .bool Bool.false => .false
  | .int n => .int n
  | .float x => .float x
  | .str s => .str (spells_escaped s)
  | .arr [] => .arr (.nil blank_nil)
  | .arr (v :: vs) =>
    .arr (writesItems_pretty (depth + 1) (blank_newline depth) (writes_pretty (depth + 1) v) vs)
  | .obj [] => .obj (.nil blank_nil)
  | .obj ((_, v) :: ms) =>
    .obj (writesMembers_pretty (depth + 1) (blank_newline depth) (writes_pretty (depth + 1) v) ms)

theorem writesItems_pretty (depth : ℕ) {v : Json F} {t b : List Char} (hb : Blank b)
    (hv : Writes floats v t) : ∀ vs : List (Json F),
      WritesItems floats (v :: vs) (newline depth ++ t ++ prettyItems floats depth vs ++ b)
  | [] => by
    have h := WritesItems.last (blank_newline depth) hv hb
    simpa [prettyItems] using h
  | w :: vs => by
    have hrest := writesItems_pretty depth hb (writes_pretty depth w) vs
    have h := WritesItems.cons (blank_newline depth) hv blank_nil hrest
    simpa [prettyItems] using h

theorem writesMembers_pretty (depth : ℕ) {k : Text} {v : Json F} {t b : List Char} (hb : Blank b)
    (hv : Writes floats v t) : ∀ ms : Members F,
      WritesMembers floats ((k, v) :: ms) (newline depth ++ quoted (k.flatMap escaped) ++
        ':' :: ' ' :: t ++ prettyMembers floats depth ms ++ b)
  | [] => by
    have h :=
      WritesMembers.last (blank_newline depth) (spells_escaped k) blank_nil blank_space hv hb
    simpa [prettyMembers] using h
  | (k', w) :: ms => by
    have hrest := writesMembers_pretty (k := k') depth hb (writes_pretty depth w) ms
    have h := WritesMembers.cons (blank_newline depth) (spells_escaped k) blank_nil blank_space hv
      blank_nil hrest
    simpa [prettyMembers] using h

end

theorem document_pretty (v : Json F) : Document floats v (pretty floats 0 v) :=
  ⟨[], pretty floats 0 v, [], blank_nil, writes_pretty floats 0 v, blank_nil, by simp⟩

/-- What is written over several lines is read back. -/
theorem loads_dumpsPretty (hlaw : floats.Lawful) {v : Json F} (hdistinct : Distinct v) :
    loads floats (dumpsPretty floats v) = some (ordered v) :=
  loads_document hlaw ((distinct_ordered v).mpr hdistinct) (document_pretty floats (ordered v))

end Json
