import SpotSidecar.Json.Write

/-! `loads`: it reads back the value from every text of it. -/
namespace Json
variable {F : Type} (floats : FloatFormat F)

def skip (cs : List Char) : List Char := cs.dropWhile isSpace

/-- The words that are values. -/
def literal : List Char → Option (Json F × List Char)
  | 'n' :: 'u' :: 'l' :: 'l' :: cs => some (.null, cs)
  | 't' :: 'r' :: 'u' :: 'e' :: cs => some (.bool true, cs)
  | 'f' :: 'a' :: 'l' :: 's' :: 'e' :: cs => some (.bool false, cs)
  | 'N' :: 'a' :: 'N' :: cs => some (.float .nan, cs)
  | 'I' :: 'n' :: 'f' :: 'i' :: 'n' :: 'i' :: 't' :: 'y' :: cs =>
    some (.float (.infinity false), cs)
  | '-' :: 'I' :: 'n' :: 'f' :: 'i' :: 'n' :: 'i' :: 't' :: 'y' :: cs =>
    some (.float (.infinity true), cs)
  | _ => none

/-- A key that comes again takes the later value, at the place of the first. -/
def setMember (k : Text) (v : Json F) : Members F → Members F
  | [] => [(k, v)]
  | m :: ms => if m.1 = k then (k, v) :: ms else m :: setMember k v ms

def toDict (pairs : Members F) : Members F := pairs.foldl (fun d m => setMember m.1 m.2 d) []

/-! The reader; each call of it that reads a value, an item or a member has one unit of fuel less
than the one that asks for it. -/
mutual

def value : ℕ → List Char → Option (Json F × List Char)
  | 0, _ => none
  | _, [] => none
  | n + 1, c :: cs =>
    if c = quote then do
      let (s, rest) ← string cs
      some (.str s, rest)
    else if c = '[' then
      match skip cs with
      | ']' :: rest => some (.arr [], rest)
      | cs => do
        let (vs, rest) ← items n cs
        some (.arr vs, rest)
    else if c = '\x7b' then
      match skip cs with
      | '\x7d' :: rest => some (.obj [], rest)
      | cs => do
        let (ms, rest) ← members n cs
        some (.obj (toDict ms), rest)
    else
      match number floats (c :: cs) with
      | some r => some r
      | none => literal (c :: cs)

def items : ℕ → List Char → Option (List (Json F) × List Char)
  | 0, _ => none
  | n + 1, cs => do
    let (v, cs) ← value n cs
    match skip cs with
    | ',' :: cs =>
      let (vs, rest) ← items n (skip cs)
      some (v :: vs, rest)
    | ']' :: rest => some ([v], rest)
    | _ => none

def members : ℕ → List Char → Option (Members F × List Char)
  | 0, _ => none
  | _, [] => none
  | n + 1, c :: cs =>
    if c = quote then do
      let (k, cs) ← string cs
      match skip cs with
      | ':' :: cs =>
        let (v, cs) ← value n (skip cs)
        match skip cs with
        | ',' :: cs =>
          let (ms, rest) ← members n (skip cs)
          some ((k, v) :: ms, rest)
        | '\x7d' :: rest => some ([(k, v)], rest)
        | _ => none
      | _ => none
    else none

end

/-- `json.loads(text)`; none is an error. -/
def loads (text : List Char) : Option (Json F) :=
  match value floats (text.length + 1) (skip text) with
  | some (v, rest) => if skip rest = [] then some v else none
  | none => none

end Json
