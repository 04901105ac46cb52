import SpotSidecar.Json.Read

/-! `loads` gives back a value from each of its texts, so `dumps` gives different texts to values
that are not equal as JSON. -/
namespace Json
variable {F : Type} {floats : FloatFormat F}

section Spaces
variable {a cs rest : List Char} {c : Char}

theorem skip_blank (ha : Blank a) : skip (a ++ cs) = skip cs :=
  List.dropWhile_append_of_pos ha

theorem skip_cons (hc : isSpace c = false) : skip (c :: cs) = c :: cs := by
  rw [skip, List.dropWhile_cons, if_neg (by rw [hc]; exact Bool.false_ne_true)]

theorem numberChar_of_space (hc : isSpace c = true) : numberChar c = false := by
  have hall : ([' ', '\t', '\n', '\r'].all fun c => !numberChar c) = true := by decide
  have hmem : c ∈ [' ', '\t', '\n', '\r'] := by
    simpa [isSpace, or_assoc] using hc
  simpa using List.all_eq_true.mp hall c hmem

theorem delimited_cons (hc : numberChar c = false) : Delimited (c :: cs) := by
  intro d hd
  cases hd
  exact hc

theorem delimited_blank (ha : Blank a) (hrest : Delimited rest) : Delimited (a ++ rest) := by
  cases a with
  | nil => exact hrest
  | cons c cs => exact delimited_cons (numberChar_of_space (ha c List.mem_cons_self))

end Spaces

/-- A character that starts the text of a value. -/
def Starts (c : Char) : Prop := isSpace c = false ∧ c ≠ ']'

theorem starts_of_numberChar {c : Char} (h : numberChar c = true) : Starts c := by
  constructor
  · cases hspace : isSpace c with
    | false => rfl
    | true =>
      rw [numberChar_of_space hspace] at h
      cases h
  · rintro rfl
    exact absurd h (by decide)

theorem intToken_head (n : ℤ) : ∃ c cs, intToken n = c :: cs ∧ numberChar c = true := by
  cases htoken : intToken n with
  | nil =>
    have hinteger := integer_intToken n
    rw [htoken] at hinteger
    cases hinteger
  | cons c cs =>
    refine ⟨c, cs, rfl, ?_⟩
    apply numberChar_intToken (n := n)
    rw [htoken]
    exact List.mem_cons_self

theorem FloatFormat.Lawful.token_head (h : floats.Lawful) (x : F) :
    ∃ c cs, floats.token x = c :: cs ∧ numberChar c = true := by
  cases htoken : floats.token x with
  | nil =>
    have hfloat := h.isFloat x
    rw [htoken] at hfloat
    exact absurd hfloat (by decide)
  | cons c cs =>
    refine ⟨c, cs, rfl, h.chars x c ?_⟩
    rw [htoken]
    exact List.mem_cons_self

theorem Writes.head (hlaw : floats.Lawful) {v : Json F} {t : List Char} (h : Writes floats v t) :
    ∃ c cs, t = c :: cs ∧ Starts c := by
  cases h with
  | null | true | false | str | arr | obj => exact ⟨_, _, rfl, by decide, by decide⟩
  | int n =>
    obtain ⟨c, cs, htoken, hc⟩ := intToken_head n
    exact ⟨c, cs, htoken, starts_of_numberChar hc⟩
  | float x =>
    cases x with
    | nan => exact ⟨_, _, rfl, by decide, by decide⟩
    | infinity negative => cases negative <;> exact ⟨_, _, rfl, by decide, by decide⟩
    | finite x =>
      obtain ⟨c, cs, htoken, hc⟩ := hlaw.token_head x
      exact ⟨c, cs, htoken, starts_of_numberChar hc⟩

/-! What one call of the reader does. -/
section Calls
variable (floats) {n : ℕ} {c : Char} {cs cs' rest : List Char}

theorem value_string {s : Text} (h : string cs = some (s, rest)) :
    value floats (n + 1) (quote :: cs) = some (.str s, rest) := by
  rw [value, if_pos rfl, h]
  rfl

/-- A text that starts no string, array or object. -/
def Plain (c : Char) : Prop := c ≠ quote ∧ c ≠ '[' ∧ c ≠ '\x7b'

instance (c : Char) : Decidable (Plain c) :=
  inferInstanceAs (Decidable (c ≠ quote ∧ c ≠ '[' ∧ c ≠ '\x7b'))

theorem value_number {r : Json F × List Char} (hc : Plain c)
    (h : number floats (c :: cs) = some r) : value floats (n + 1) (c :: cs) = some r := by
  obtain ⟨hquote, hbracket, hbrace⟩ := hc
  rw [value, if_neg hquote, if_neg hbracket, if_neg hbrace, h]

theorem value_literal {r : Json F × List Char} (hc : Plain c)
    (hnumber : number floats (c :: cs) = none) (h : literal (c :: cs) = some r) :
    value floats (n + 1) (c :: cs) = some r := by
  obtain ⟨hquote, hbracket, hbrace⟩ := hc
  rw [value, if_neg hquote, if_neg hbracket, if_neg hbrace, hnumber]
  exact h

theorem value_arr_nil (hskip : skip cs = ']' :: rest) :
    value floats (n + 1) ('[' :: cs) = some (.arr [], rest) := by
  rw [value, if_neg (by decide), if_pos rfl, hskip]
  rfl

theorem value_arr {vs : List (Json F)} (hskip : skip cs = c :: cs') (hc : c ≠ ']')
    (h : items floats n (skip cs) = some (vs, rest)) :
    value floats (n + 1) ('[' :: cs) = some (.arr vs, rest) := by
  rw [value, if_neg (by decide), if_pos rfl]
  split
  · rename_i hend
    rw [hskip] at hend
    exact absurd (List.cons.inj hend).1 hc
  · rw [h]
    rfl

theorem value_obj_nil (hskip : skip cs = '\x7d' :: rest) :
    value floats (n + 1) ('\x7b' :: cs) = some (.obj [], rest) := by
  rw [value, if_neg (by decide), if_neg (by decide), if_pos rfl, hskip]
  rfl

theorem value_obj {ms : Members F} (hskip : skip cs = c :: cs') (hc : c ≠ '\x7d')
    (h : members floats n (skip cs) = some (ms, rest)) :
    value floats (n + 1) ('\x7b' :: cs) = some (.obj (toDict ms), rest) := by
  rw [value, if_neg (by decide), if_neg (by decide), if_pos rfl]
  split
  · rename_i hend
    rw [hskip] at hend
    exact absurd (List.cons.inj hend).1 hc
  · rw [h]
    rfl

theorem items_last {v : Json F} (hvalue : value floats n cs = some (v, cs'))
    (hskip : skip cs' = ']' :: rest) : items floats (n + 1) cs = some ([v], rest) := by
  rw [items, hvalue]
  simp only [Option.bind_eq_bind, Option.bind_some, hskip]

theorem items_cons {v : Json F} {vs : List (Json F)} {ds : List Char}
    (hvalue : value floats n cs = some (v, cs')) (hskip : skip cs' = ',' :: ds)
    (hitems : items floats n (skip ds) = some (vs, rest)) :
    items floats (n + 1) cs = some (v :: vs, rest) := by
  rw [items, hvalue]
  simp only [Option.bind_eq_bind, Option.bind_some, hskip, hitems]

theorem members_last {k : Text} {v : Json F} {ds es : List Char}
    (hkey : string cs = some (k, cs')) (hcolon : skip cs' = ':' :: ds)
    (hvalue : value floats n (skip ds) = some (v, es)) (hskip : skip es = '\x7d' :: rest) :
    members floats (n + 1) (quote :: cs) = some ([(k, v)], rest) := by
  rw [members, if_pos rfl, hkey]
  simp only [Option.bind_eq_bind, Option.bind_some, hcolon, hvalue, hskip]

theorem members_cons {k : Text} {v : Json F} {ms : Members F} {ds es fs : List Char}
    (hkey : string cs = some (k, cs')) (hcolon : skip cs' = ':' :: ds)
    (hvalue : value floats n (skip ds) = some (v, es)) (hskip : skip es = ',' :: fs)
    (hmembers : members floats n (skip fs) = some (ms, rest)) :
    members floats (n + 1) (quote :: cs) = some ((k, v) :: ms, rest) := by
  rw [members, if_pos rfl, hkey]
  simp only [Option.bind_eq_bind, Option.bind_some, hcolon, hvalue, hskip, hmembers]

end Calls

theorem setMember_new {k : Text} {v : Json F} {d : Members F} (h : k ∉ d.map Prod.fst) :
    setMember k v d = d ++ [(k, v)] := by
  induction d with
  | nil => rfl
  | cons m ms ih =>
    rw [List.map_cons, List.mem_cons, not_or] at h
    rw [setMember, if_neg (Ne.symm h.1), ih h.2]
    rfl

theorem toDict_distinct {ms : Members F} (h : (ms.map Prod.fst).Nodup) : toDict ms = ms := by
  have hall : ∀ d : Members F, ((d ++ ms).map Prod.fst).Nodup →
      ms.foldl (fun d m => setMember m.1 m.2 d) d = d ++ ms := by
    clear h
    induction ms with
    | nil =>
      intro d _
      simp
    | cons m ms ih =>
      intro d hd
      have hnew : m.1 ∉ d.map Prod.fst := by
        rw [List.map_append, List.nodup_append] at hd
        intro hmem
        exact hd.2.2 _ hmem _ (List.mem_map_of_mem List.mem_cons_self) rfl
      rw [List.foldl_cons, setMember_new hnew, ih, List.append_assoc]
      · rfl
      · simpa using hd
  exact hall [] h

/-- With fuel `n`, the reader gives back a value from its texts. -/
structure ReadsBack (floats : FloatFormat F) (n : ℕ) : Prop where
  value : ∀ v t rest, Writes floats v t → Distinct v → t.length < n → Delimited rest →
    value floats n (t ++ rest) = some (v, rest)
  items : ∀ v vs t rest, WritesItems floats (v :: vs) t → DistinctItems (v :: vs) →
    t.length + 1 < n → items floats n (skip (t ++ ']' :: rest)) = some (v :: vs, rest)
  members : ∀ m ms t rest, WritesMembers floats (m :: ms) t → DistinctMembers (m :: ms) →
    t.length + 1 < n → members floats n (skip (t ++ '\x7d' :: rest)) = some (m :: ms, rest)

theorem plain_of_numberChar {c : Char} (h : numberChar c = true) : Plain c := by
  refine ⟨?_, ?_, ?_⟩ <;>
  · rintro rfl
    exact absurd h (by decide)

theorem value_token {n : ℕ} {token rest : List Char} {v : Json F}
    (hhead : ∃ c cs, token = c :: cs ∧ numberChar c = true)
    (htoken : ∀ c ∈ token, numberChar c = true) (hrest : Delimited rest)
    (h : numberOf floats token = some v) :
    Json.value floats (n + 1) (token ++ rest) = some (v, rest) := by
  obtain ⟨c, cs, rfl, hc⟩ := hhead
  exact value_number floats (plain_of_numberChar hc) (number_token htoken hrest h)

/-- A text that no digit starts, and no number that is only a sign. -/
theorem number_none {c : Char} {cs : List Char} (hc : numberChar c = false) :
    number floats (c :: cs) = none := by
  have htake : (c :: cs).takeWhile numberChar = [] := by simp [hc]
  rw [number, htake]
  rfl

theorem number_sign {c : Char} {cs : List Char} (hc : numberChar c = false) :
    number floats ('-' :: c :: cs) = none := by
  have hsign : numberChar '-' = true := by decide
  have htake : ('-' :: c :: cs).takeWhile numberChar = ['-'] := by simp [hc, hsign]
  have hinteger : isInteger ['-'] = false := by decide
  have hfloat : isFloat ['-'] = false := by decide
  rw [number, htake, numberOf, hinteger, hfloat]
  rfl

/-! Where the first value or key of a list of them starts. -/
section Fronts
variable (hlaw : floats.Lawful)
include hlaw

theorem Writes.skip {v : Json F} {a t cs : List Char} (ha : Blank a) (hv : Writes floats v t) :
    skip (a ++ (t ++ cs)) = t ++ cs := by
  obtain ⟨c, ds, rfl, hc⟩ := hv.head hlaw
  rw [skip_blank ha, List.cons_append, skip_cons hc.1]

theorem WritesItems.front {v : Json F} {vs : List (Json F)} {t : List Char}
    (h : WritesItems floats (v :: vs) t) (cs : List Char) :
    ∃ c ds, Json.skip (t ++ cs) = c :: ds ∧ c ≠ ']' := by
  have hfront : ∀ a t cs, Blank a → Writes floats v t →
      ∃ c ds, Json.skip (a ++ (t ++ cs)) = c :: ds ∧ c ≠ ']' := by
    intro a t cs ha hv
    obtain ⟨c, ds, rfl, hc⟩ := hv.head hlaw
    exact ⟨c, ds ++ cs, Writes.skip hlaw ha hv, hc.2⟩
  cases h with
  | last ha hv hb =>
    simp only [List.append_assoc]
    exact hfront _ _ _ ha hv
  | cons ha hv hb hvs =>
    simp only [List.append_assoc]
    exact hfront _ _ _ ha hv

end Fronts

theorem skip_quoted {a kt cs : List Char} (ha : Blank a) :
    skip (a ++ (quoted kt ++ cs)) = quote :: (kt ++ quote :: cs) := by
  rw [skip_blank ha, quoted, List.cons_append, List.cons_append, skip_cons (by decide),
    List.append_assoc, List.singleton_append]

theorem WritesMembers.front {m : Text × Json F} {ms : Members F} {t : List Char}
    (h : WritesMembers floats (m :: ms) t) (cs : List Char) :
    ∃ ds, skip (t ++ cs) = quote :: ds := by
  cases h with
  | last ha hk hb hc hv hd =>
    simp only [List.append_assoc]
    exact ⟨_, skip_quoted ha⟩
  | cons ha hk hb hc hv hd hms =>
    simp only [List.append_assoc]
    exact ⟨_, skip_quoted ha⟩

/-! One more unit of fuel, for each kind of call. -/
section Step
variable (hlaw : floats.Lawful) {n : ℕ} (h : ReadsBack floats n)
include hlaw h

theorem ReadsBack.step_items {v : Json F} {vs : List (Json F)} {t rest : List Char}
    (hwrites : WritesItems floats (v :: vs) t) (hdistinct : DistinctItems (v :: vs))
    (hfuel : t.length < n) :
    Json.items floats (n + 1) (skip (t ++ ']' :: rest)) = some (v :: vs, rest) := by
  cases hwrites with
  | @last _ a t b ha hv hb =>
    simp only [List.length_append] at hfuel
    simp only [List.append_assoc]
    rw [Writes.skip hlaw ha hv]
    apply items_last floats (h.value v t _ hv hdistinct.1 (by omega) ?_)
    · rw [skip_blank hb, skip_cons (by decide)]
    · exact delimited_blank hb (delimited_cons (by decide))
  | @cons _ w vs a t b ts ha hv hb hvs =>
    simp only [List.length_append, List.length_cons] at hfuel
    simp only [List.append_assoc, List.cons_append]
    rw [Writes.skip hlaw ha hv]
    apply items_cons floats (h.value v t _ hv hdistinct.1 (by omega) ?_)
    · rw [skip_blank hb, skip_cons (by decide)]
    · exact h.items w vs ts rest hvs hdistinct.2 (by omega)
    · exact delimited_blank hb (delimited_cons (by decide))

theorem ReadsBack.step_members {m : Text × Json F} {ms : Members F} {t rest : List Char}
    (hwrites : WritesMembers floats (m :: ms) t) (hdistinct : DistinctMembers (m :: ms))
    (hfuel : t.length < n) :
    Json.members floats (n + 1) (skip (t ++ '\x7d' :: rest)) = some (m :: ms, rest) := by
  cases hwrites with
  | @last k v a kt b c t d ha hk hb hc hv hd =>
    simp only [List.length_append, List.length_cons] at hfuel
    simp only [List.append_assoc, List.cons_append]
    rw [skip_quoted ha]
    apply members_last floats (string_spells hk _)
    · rw [skip_blank hb, skip_cons (by decide)]
    · rw [Writes.skip hlaw hc hv]
      apply h.value v t _ hv hdistinct.1 (by omega)
      exact delimited_blank hd (delimited_cons (by decide))
    · rw [skip_blank hd, skip_cons (by decide)]
  | @cons k v m ms a kt b c t d ts ha hk hb hc hv hd hms =>
    simp only [List.length_append, List.length_cons] at hfuel
    simp only [List.append_assoc, List.cons_append]
    rw [skip_quoted ha]
    apply members_cons floats (string_spells hk _)
    · rw [skip_blank hb, skip_cons (by decide)]
    · rw [Writes.skip hlaw hc hv]
      apply h.value v t _ hv hdistinct.1 (by omega)
      exact delimited_blank hd (delimited_cons (by decide))
    · rw [skip_blank hd, skip_cons (by decide)]
    · exact h.members m ms ts rest hms hdistinct.2 (by omega)

theorem ReadsBack.step_value {v : Json F} {t rest : List Char}
    (hwrites : Writes floats v t) (hdistinct : Distinct v) (hfuel : t.length < n + 1)
    (hrest : Delimited rest) : Json.value floats (n + 1) (t ++ rest) = some (v, rest) := by
  cases hwrites with
  | null => exact value_literal floats (by decide) (number_none (by decide)) rfl
  | true => exact value_literal floats (by decide) (number_none (by decide)) rfl
  | false => exact value_literal floats (by decide) (number_none (by decide)) rfl
  | int n =>
    exact value_token (intToken_head n) (fun _ => numberChar_intToken) hrest
      (numberOf_intToken floats n)
  | float x =>
    cases x with
    | nan => exact value_literal floats (by decide) (number_none (by decide)) rfl
    | infinity negative =>
      cases negative with
      | false => exact value_literal floats (by decide) (number_none (by decide)) rfl
      | true => exact value_literal floats (by decide) (number_sign (by decide)) rfl
    | finite x => exact value_token (hlaw.token_head x) (hlaw.chars x) hrest (hlaw.numberOf_token x)
  | @str s t hs =>
    rw [quoted, List.cons_append, List.cons_append, List.append_assoc]
    exact value_string floats (string_spells hs rest)
  | @arr vs t hvs =>
    rw [List.cons_append, List.cons_append, List.append_assoc]
    simp only [List.length_append, List.length_cons, List.length_nil] at hfuel
    cases vs with
    | nil =>
      cases hvs with
      | nil ha =>
        exact value_arr_nil floats
          (by rw [skip_blank ha, List.singleton_append, skip_cons (by decide)])
    | cons v vs =>
      obtain ⟨c, ds, hskip, hc⟩ := hvs.front hlaw (']' :: rest)
      exact value_arr floats hskip hc (h.items v vs t rest hvs hdistinct (by omega))
  | @obj ms t hms =>
    rw [List.cons_append, List.cons_append, List.append_assoc]
    simp only [List.length_append, List.length_cons, List.length_nil] at hfuel
    cases ms with
    | nil =>
      cases hms with
      | nil ha =>
        exact value_obj_nil floats
          (by rw [skip_blank ha, List.singleton_append, skip_cons (by decide)])
    | cons m ms =>
      obtain ⟨ds, hskip⟩ := hms.front ('\x7d' :: rest)
      have hread := value_obj floats hskip (by decide)
        (h.members m ms t rest hms hdistinct.2 (by omega))
      rwa [toDict_distinct hdistinct.1] at hread

end Step

theorem readsBack (hlaw : floats.Lawful) (n : ℕ) : ReadsBack floats n := by
  induction n with
  | zero =>
    constructor
    · intro v t rest _ _ hfuel
      omega
    · intro v vs t rest _ _ hfuel
      omega
    · intro m ms t rest _ _ hfuel
      omega
  | succ n ih =>
    constructor
    · intro v t rest hwrites hdistinct hfuel hrest
      exact ih.step_value hlaw hwrites hdistinct hfuel hrest
    · intro v vs t rest hwrites hdistinct hfuel
      exact ih.step_items hlaw hwrites hdistinct (by omega)
    · intro m ms t rest hwrites hdistinct hfuel
      exact ih.step_members hlaw hwrites hdistinct (by omega)

/-- A document: a value with spaces around it. -/
def Document (floats : FloatFormat F) (v : Json F) (text : List Char) : Prop :=
  ∃ a t b, Blank a ∧ Writes floats v t ∧ Blank b ∧ text = a ++ t ++ b

theorem loads_document (hlaw : floats.Lawful) {v : Json F} {text : List Char}
    (hdistinct : Distinct v) (h : Document floats v text) : loads floats text = some v := by
  obtain ⟨a, t, b, ha, hv, hb, rfl⟩ := h
  have hdelimited : Delimited b := by
    rw [← List.append_nil b]
    apply delimited_blank hb
    intro c hc
    cases hc
  have hvalue := (readsBack hlaw ((a ++ t ++ b).length + 1)).value v t b hv hdistinct
    (by simp only [List.length_append]; omega) hdelimited
  have hend : skip b = [] := by
    rw [← List.append_nil b, skip_blank hb]
    rfl
  rw [loads, List.append_assoc, Writes.skip hlaw ha hv, ← List.append_assoc, hvalue]
  simp only [hend, if_pos]

theorem document_render (v : Json F) : Document floats v (render floats v) :=
  ⟨[], render floats v, [], blank_nil, writes_render floats v, blank_nil, by simp⟩

/-- Values with one canonical text are equal as JSON. -/
theorem dumps_inj (hlaw : floats.Lawful) {v w : Json F} (hv : Distinct v) (hw : Distinct w)
    (h : dumps floats v = dumps floats w) : Same v w := by
  have hreadv := loads_document hlaw ((distinct_ordered v).mpr hv) (document_render (ordered v))
  have hreadw := loads_document hlaw ((distinct_ordered w).mpr hw) (document_render (ordered w))
  rw [dumps] at h
  rw [h, dumps, hreadw] at hreadv
  exact (Option.some.inj hreadv).symm

theorem Same.dumps {v w : Json F} (h : Same v w) : dumps floats v = dumps floats w :=
  congrArg (render floats) h

end Json
