import SpotSidecar.Json.Number
import SpotSidecar.Json.Strings

/-! The texts of a value: any spacing and any spelling of its strings, the members of its objects in
the order they have. `dumps` writes one text, with the members in key order. -/
namespace Json
variable {F : Type} (floats : FloatFormat F)

def isSpace (c : Char) : Bool := c = ' ' || c = '\t' || c = '\n' || c = '\r'

def Blank (cs : List Char) : Prop := ∀ c ∈ cs, isSpace c = true

def quoted (spelled : List Char) : List Char := quote :: spelled ++ [quote]

def literalTrue : List Char := ['t', 'r', 'u', 'e']

def literalFalse : List Char := ['f', 'a', 'l', 's', 'e']

def literalNull : List Char := ['n', 'u', 'l', 'l']

mutual

inductive Writes : Json F → List Char → Prop
  | null : Writes .null literalNull
  | true : Writes (.bool Bool.true) literalTrue
  | false : Writes (.bool Bool.false) literalFalse
  | int (n : ℤ) : Writes (.int n) (intToken n)
  | float (x : Double F) : Writes (.float x) (doubleToken floats x)
  | str {s : Text} {t : List Char} (h : Spells s t) : Writes (.str s) (quoted t)
  | arr {vs : List (Json F)} {t : List Char} (h : WritesItems vs t) :
      Writes (.arr vs) ('[' :: t ++ [']'])
  | obj {ms : Members F} {t : List Char} (h : WritesMembers ms t) :
      Writes (.obj ms) ('\x7b' :: t ++ ['\x7d'])

inductive WritesItems : List (Json F) → List Char → Prop
  | nil {a : List Char} (ha : Blank a) : WritesItems [] a
  | last {v : Json F} {a t b : List Char} (ha : Blank a) (hv : Writes v t) (hb : Blank b) :
      WritesItems [v] (a ++ t ++ b)
  | cons {v w : Json F} {vs : List (Json F)} {a t b ts : List Char} (ha : Blank a)
      (hv : Writes v t) (hb : Blank b) (hvs : WritesItems (w :: vs) ts) :
      WritesItems (v :: w :: vs) (a ++ t ++ b ++ ',' :: ts)

inductive WritesMembers : Members F → List Char → Prop
  | nil {a : List Char} (ha : Blank a) : WritesMembers [] a
  | last {k : Text} {v : Json F} {a kt b c t d : List Char} (ha : Blank a) (hk : Spells k kt)
      (hb : Blank b) (hc : Blank c) (hv : Writes v t) (hd : Blank d) :
      WritesMembers [(k, v)] (a ++ quoted kt ++ b ++ ':' :: (c ++ t ++ d))
  | cons {k : Text} {v : Json F} {m : Text × Json F} {ms : Members F} {a kt b c t d ts : List Char}
      (ha : Blank a) (hk : Spells k kt) (hb : Blank b) (hc : Blank c) (hv : Writes v t)
      (hd : Blank d) (hms : WritesMembers (m :: ms) ts) :
      WritesMembers ((k, v) :: m :: ms)
        (a ++ quoted kt ++ b ++ ':' :: (c ++ t ++ d) ++ ',' :: ts)

end

/-! The text without spaces. -/
mutual

def render : Json F → List Char
  | .null => literalNull
  | .bool b => if b then literalTrue else literalFalse
  | .int n => intToken n
  | .float x => doubleToken floats x
  | .str s => quoted (s.flatMap escaped)
  | .arr vs => '[' :: renderItems vs ++ [']']
  | .obj ms => '\x7b' :: renderMembers ms ++ ['\x7d']

def renderItems : List (Json F) → List Char
  | [] => []
  | [v] => render v
  | v :: w :: vs => render v ++ ',' :: renderItems (w :: vs)

def renderMembers : Members F → List Char
  | [] => []
  | [(k, v)] => quoted (k.flatMap escaped) ++ ':' :: render v
  | (k, v) :: m :: ms =>
    quoted (k.flatMap escaped) ++ ':' :: render v ++ ',' :: renderMembers (m :: ms)

end

/-- `json.dumps(v, sort_keys=True, separators=(',', ':'))` -/
def dumps (v : Json F) : List Char := render floats (ordered v)

theorem blank_nil : Blank [] := fun _ h => absurd h List.not_mem_nil

mutual

theorem writes_render : ∀ v : Json F, Writes floats v (render floats v)
  | .null => .null
  | .bool Bool.true => .true
  | .bool Bool.false => .false
  | .int n => .int n
  | .float x => .float x
  | .str s => .str (spells_escaped s)
  | .arr vs => .arr (writesItems_render vs)
  | .obj ms => .obj (writesMembers_render ms)

theorem writesItems_render : ∀ vs : List (Json F), WritesItems floats vs (renderItems floats vs)
  | [] => .nil blank_nil
  | [v] => by
    have h := WritesItems.last blank_nil (writes_render v) blank_nil
    simpa [renderItems] using h
  | v :: w :: vs => by
    have h := WritesItems.cons blank_nil (writes_render v) blank_nil (writesItems_render (w :: vs))
    simpa [renderItems] using h

theorem writesMembers_render : ∀ ms : Members F, WritesMembers floats ms (renderMembers floats ms)
  | [] => .nil blank_nil
  | [(k, v)] => by
    have h := WritesMembers.last blank_nil (spells_escaped k) blank_nil blank_nil (writes_render v)
      blank_nil
    simpa [renderMembers] using h
  | (k, v) :: m :: ms => by
    have h := WritesMembers.cons blank_nil (spells_escaped k) blank_nil blank_nil (writes_render v)
      blank_nil (writesMembers_render (m :: ms))
    simpa [renderMembers] using h

end

end Json
