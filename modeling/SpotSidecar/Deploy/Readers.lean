import SpotSidecar.Deploy.EnvFile

/-! When the readers of an environment file agree: what each accepts and what it makes of a file,
in terms of the lines that are neither blank nor comments. -/
namespace SpotSidecar.EnvFile
variable {space : Spaces} {file : String} {seen lines ls : List (List Char)} {want : List Char}

/-- The lines that are read. -/
def contentLines (space : Spaces) (lines : List (List Char)) : List (List Char) :=
  (lines.map (stripLine space)).filter fun line => !skipped line

/-- The keys of the lines that have the form of an assignment. -/
def keysOf (space : Spaces) (ls : List (List Char)) : List (List Char) :=
  (ls.filter fun line => '=' ∈ line).map (keyOf space)

def Approved (key : List Char) : Prop := String.ofList key ∈ approvedKeys

/-- All keys are valid, approved and new. -/
structure KeysFine (space : Spaces) (seen ls : List (List Char)) : Prop where
  nodup : (keysOf space ls).Nodup
  fine : ∀ key ∈ keysOf space ls, keyName key = true ∧ Approved key ∧ key ∉ seen

/-- `KEY=VALUE` with matching quotes -/
def WellFormed (line : List Char) : Prop := '=' ∈ line ∧ ∃ value, unquote (valueOf line) = .ok value

/-- The pairs of the well-formed lines. -/
def pairsOf (space : Spaces) (ls : List (List Char)) : List (List Char × List Char) :=
  ls.filterMap fun line =>
    if '=' ∈ line then (unquote (valueOf line)).toOption.map fun value => (keyOf space line, value)
    else none

theorem keyAllowed_ok {key : List Char} : keyAllowed key = .ok () ↔ Approved key := by
  unfold keyAllowed Approved
  split <;> simp [*]

theorem checkKey_ok (file badName : String) {key : List Char} :
    checkKey file badName seen key = .ok () ↔
      keyName key = true ∧ Approved key ∧ key ∉ seen := by
  rw [← keyAllowed_ok]
  unfold checkKey
  cases hname : keyName key with
  | false => simp [throw, throwThe, MonadExceptOf.throw, bind, Except.bind]
  | true =>
    cases hallowed : keyAllowed key with
    | error e => simp [bind, Except.bind]
    | ok u =>
      by_cases hseen : key ∈ seen
      · simp [hseen, bind, Except.bind, throw, throwThe, MonadExceptOf.throw]
      · simp [hseen, bind, Except.bind, pure, Except.pure]

theorem contentLines_skip {line : List Char} (h : skipped (stripLine space line) = true) :
    contentLines space (line :: lines) = contentLines space lines := by
  simp [contentLines, h]

theorem contentLines_read {line : List Char} (h : skipped (stripLine space line) = false) :
    contentLines space (line :: lines) = stripLine space line :: contentLines space lines := by
  simp [contentLines, h]

theorem keysFine_other {line : List Char} (h : '=' ∉ line) :
    KeysFine space seen (line :: ls) ↔ KeysFine space seen ls := by
  have hkeys : keysOf space (line :: ls) = keysOf space ls := by simp [keysOf, h]
  constructor
  · intro hfine
    exact ⟨hkeys ▸ hfine.nodup, hkeys ▸ hfine.fine⟩
  · intro hfine
    exact ⟨hkeys ▸ hfine.nodup, hkeys ▸ hfine.fine⟩

/-- One more assignment: its own key is fine, and the others are fine after it. -/
theorem keysFine_cons {line : List Char} (h : '=' ∈ line) :
    KeysFine space seen (line :: ls) ↔
      (keyName (keyOf space line) = true ∧ Approved (keyOf space line) ∧ keyOf space line ∉ seen) ∧
        KeysFine space (keyOf space line :: seen) ls := by
  have hkeys : keysOf space (line :: ls) = keyOf space line :: keysOf space ls := by
    simp [keysOf, h]
  constructor
  · intro hfine
    have hnodup := hfine.nodup
    rw [hkeys, List.nodup_cons] at hnodup
    constructor
    · exact hfine.fine _ (by rw [hkeys]; exact List.mem_cons_self)
    · constructor
      · exact hnodup.2
      · intro key hkey
        obtain ⟨hname, happroved, hseen⟩ := hfine.fine key
          (by rw [hkeys]; exact List.mem_cons_of_mem _ hkey)
        have hne : key ≠ keyOf space line := fun heq => hnodup.1 (heq ▸ hkey)
        exact ⟨hname, happroved, by simp [hne, hseen]⟩
  · rintro ⟨hhead, htail⟩
    constructor
    · rw [hkeys, List.nodup_cons]
      constructor
      · intro hmem
        exact (htail.fine _ hmem).2.2 List.mem_cons_self
      · exact htail.nodup
    · intro key hkey
      rw [hkeys] at hkey
      rcases List.mem_cons.mp hkey with rfl | hkey
      · exact hhead
      · obtain ⟨hname, happroved, hseen⟩ := htail.fine key hkey
        exact ⟨hname, happroved, fun hmem => hseen (List.mem_cons_of_mem _ hmem)⟩

theorem keysFine_nil : KeysFine space seen [] :=
  ⟨List.nodup_nil, fun _ h => absurd h List.not_mem_nil⟩

theorem pairsOf_cons {line value : List Char} (h : '=' ∈ line)
    (hvalue : unquote (valueOf line) = .ok value) :
    pairsOf space (line :: ls) = (keyOf space line, value) :: pairsOf space ls := by
  simp [pairsOf, h, hvalue, Except.toOption]

section scan
variable {ω : Type} {emit : List Char → List Char → ω → ω} {lineno : ℕ} {out : ω}

/-- A line that the loop accepts, and what refuses it. -/
theorem scan_cons (file : String) (emit : List Char → List Char → ω → ω) (lineno : ℕ)
    (seen : List (List Char)) (out : ω) (lines : List (List Char)) {line : List Char}
    (hread : skipped (stripLine space line) = false) :
    (WellFormed (stripLine space line) ∧
      checkKey file "" seen (keyOf space (stripLine space line)) =
        .ok () ∧ ∃ value, unquote (valueOf (stripLine space line)) = .ok value ∧
      scan space file emit lineno seen out (line :: lines) =
        scan space file emit (lineno + 1) (keyOf space (stripLine space line) :: seen)
          (emit (keyOf space (stripLine space line)) value out) lines) ∨
    ((¬ WellFormed (stripLine space line) ∨
        ¬ checkKey file "" seen (keyOf space (stripLine space line)) = .ok ()) ∧
      ∃ e, ∀ {ω : Type} (emit : List Char → List Char → ω → ω) (out : ω),
        scan space file emit lineno seen out (line :: lines) = (.error e, out)) := by
  by_cases heq : '=' ∈ stripLine space line
  · cases hkey : checkKey file s!"{file} line {lineno + 1} has an invalid key name" seen
        (keyOf space (stripLine space line)) with
    | error e =>
      right
      constructor
      · right
        intro hok
        rw [(checkKey_ok _ _).mpr ((checkKey_ok _ _).mp hok)] at hkey
        cases hkey
      · refine ⟨e, ?_⟩
        intro ω emit out
        simp only [scan, hread, heq, hkey, Bool.false_eq_true, if_false, not_true_eq_false]
    | ok u =>
      cases hvalue : unquote (valueOf (stripLine space line)) with
      | error e =>
        right
        constructor
        · left
          rintro ⟨-, value, hok⟩
          rw [hvalue] at hok
          cases hok
        · refine ⟨e, ?_⟩
          intro ω emit out
          simp only [scan, hread, heq, hkey, hvalue, Bool.false_eq_true, if_false,
            not_true_eq_false]
      | ok value =>
        left
        refine ⟨⟨heq, value, hvalue⟩, (checkKey_ok _ _).mpr ((checkKey_ok _ _).mp hkey),
          value, rfl, ?_⟩
        simp only [scan, hread, heq, hkey, hvalue, Bool.false_eq_true, if_false, not_true_eq_false]
  · right
    constructor
    · left
      intro hwell
      exact heq hwell.1
    · refine ⟨s!"{file} line {lineno + 1} is not KEY=VALUE", ?_⟩
      intro ω emit out
      simp only [scan, hread, heq, Bool.false_eq_true, if_false, not_false_eq_true, if_true]

theorem scan_skip {line : List Char} (hskip : skipped (stripLine space line) = true) :
    scan space file emit lineno seen out (line :: lines) =
      scan space file emit (lineno + 1) seen out lines := by
  simp only [scan, hskip, if_true]

/-- The loop accepts the files whose keys are fine and whose lines are all well formed, and then it
has emitted all pairs in their order. -/
theorem scan_ok :
    (scan space file emit lineno seen out lines).1 = .ok () ↔
      KeysFine space seen (contentLines space lines) ∧
        ∀ line ∈ contentLines space lines, WellFormed line := by
  induction lines generalizing lineno seen out with
  | nil =>
    constructor
    · intro _
      exact ⟨keysFine_nil, fun _ h => absurd h List.not_mem_nil⟩
    · intro _
      rfl
  | cons line lines ih =>
    by_cases hskip : skipped (stripLine space line) = true
    · rw [scan_skip hskip, ih, contentLines_skip hskip]
    · have hread : skipped (stripLine space line) = false := by simpa using hskip
      rw [contentLines_read hread, List.forall_mem_cons]
      rcases scan_cons file emit lineno seen out lines hread with
        ⟨hwell, hkey, value, -, hscan⟩ | ⟨hbad, e, hscan⟩
      · rw [hscan, ih, keysFine_cons hwell.1, ← checkKey_ok file ""]
        constructor
        · rintro ⟨hkeys, hall⟩
          exact ⟨⟨hkey, hkeys⟩, hwell, hall⟩
        · rintro ⟨⟨-, hkeys⟩, -, hall⟩
          exact ⟨hkeys, hall⟩
      · rw [hscan]
        constructor
        · intro h
          cases h
        · rintro ⟨hkeys, hwell, -⟩
          rw [keysFine_cons hwell.1, ← checkKey_ok file ""] at hkeys
          rcases hbad with hbad | hbad
          · exact absurd hwell hbad
          · exact absurd hkeys.1 hbad

theorem scan_out (h : (scan space file emit lineno seen out lines).1 = .ok ()) :
    (scan space file emit lineno seen out lines).2 =
      (pairsOf space (contentLines space lines)).foldl (fun out p => emit p.1 p.2 out) out := by
  induction lines generalizing lineno seen out with
  | nil => rfl
  | cons line lines ih =>
    by_cases hskip : skipped (stripLine space line) = true
    · rw [scan_skip hskip] at h ⊢
      rw [ih h, contentLines_skip hskip]
    · have hread : skipped (stripLine space line) = false := by simpa using hskip
      rw [contentLines_read hread]
      rcases scan_cons file emit lineno seen out lines hread with
        ⟨hwell, -, value, hvalue, hscan⟩ | ⟨-, e, hscan⟩
      · rw [hscan] at h ⊢
        rw [ih h, pairsOf_cons hwell.1 hvalue]
        rfl
      · rw [hscan] at h
        cases h

/-- What a file is refused for does not depend on what is done with the pairs. -/
theorem scan_status {ω' : Type} (emit' : List Char → List Char → ω' → ω') (out' : ω') :
    (scan space file emit lineno seen out lines).1 =
      (scan space file emit' lineno seen out' lines).1 := by
  induction lines generalizing lineno seen out out' with
  | nil => rfl
  | cons line lines ih =>
    by_cases hskip : skipped (stripLine space line) = true
    · rw [scan_skip hskip, scan_skip hskip]
      exact ih _
    · have hread : skipped (stripLine space line) = false := by simpa using hskip
      rcases scan_cons file emit lineno seen out lines hread with
        ⟨hwell, hkey, value, hvalue, hscan⟩ | ⟨-, e, hscan⟩
      · rcases scan_cons file emit' lineno seen out' lines hread with
          ⟨-, -, value', hvalue', hscan'⟩ | ⟨hbad, -⟩
        · rw [hscan, hscan']
          exact ih _
        · rcases hbad with hbad | hbad
          · exact absurd hwell hbad
          · exact absurd hkey hbad
      · rw [hscan, hscan]

end scan

theorem pairsOf_skip {line : List Char} (h : ¬ WellFormed line) :
    pairsOf space (line :: ls) = pairsOf space ls := by
  by_cases heq : '=' ∈ line
  · cases hvalue : unquote (valueOf line) with
    | error e => simp [pairsOf, heq, hvalue, Except.toOption]
    | ok value => exact absurd ⟨heq, value, hvalue⟩ h
  · simp [pairsOf, heq]

/-- Later assignments count, and what they leave open is as before. -/
theorem lookup_assign (pairs : List (List Char × List Char)) (env : Environ) (key : List Char) :
    (pairs.foldl assign env).lookup key =
      ((pairs.foldl assign ∅).lookup key).or (env.lookup key) := by
  induction pairs generalizing env with
  | nil => rfl
  | cons p pairs ih =>
    have hone : (assign env p).lookup key = ((assign ∅ p).lookup key).or (env.lookup key) := by
      by_cases hkey : key = p.1
      · rw [hkey, assign, assign, AList.lookup_insert, AList.lookup_insert, Option.some_or]
      · rw [assign, assign, AList.lookup_insert_ne hkey, AList.lookup_insert_ne hkey,
          AList.lookup_empty, Option.none_or]
    rw [List.foldl_cons, List.foldl_cons, ih, ih (assign ∅ p), hone, Option.or_assoc]

section get
variable {result r : Option (List Char)} {line : List Char}

theorem getLoop_skip (hskip : skipped (stripLine space line) = true) :
    getLoop space file want seen result (line :: lines) =
      getLoop space file want seen result lines := by
  simp only [getLoop, hskip, if_true]

/-- A line without a separator is passed over, where the other readers refuse the file. -/
theorem getLoop_other (hread : skipped (stripLine space line) = false)
    (heq : '=' ∉ stripLine space line) :
    getLoop space file want seen result (line :: lines) =
      getLoop space file want seen result lines := by
  simp only [getLoop, hread, heq, Bool.false_eq_true, if_false, not_false_eq_true, if_true]

theorem getLoop_refused (file : String) (want : List Char) (seen : List (List Char))
    (result : Option (List Char)) (lines : List (List Char))
    (hread : skipped (stripLine space line) = false)
    (heq : '=' ∈ stripLine space line)
    (hkey : ¬ (keyName (keyOf space (stripLine space line)) = true ∧
      Approved (keyOf space (stripLine space line)) ∧ keyOf space (stripLine space line) ∉ seen)) :
    ∃ e, getLoop space file want seen result (line :: lines) = .error e := by
  cases hcheck : checkKey file (file ++ " has an invalid key name: " ++
      String.ofList (keyOf space (stripLine space line))) seen
      (keyOf space (stripLine space line)) with
  | error e =>
    refine ⟨e, ?_⟩
    simp only [getLoop, hread, heq, hcheck, Bool.false_eq_true, if_false, not_true_eq_false]
  | ok u => exact absurd ((checkKey_ok _ _).mp hcheck) hkey

/-- A line with a fine key: its value is looked at where the key is the wanted one only. -/
theorem getLoop_fine (hread : skipped (stripLine space line) = false)
    (heq : '=' ∈ stripLine space line)
    (hkey : keyName (keyOf space (stripLine space line)) = true ∧
      Approved (keyOf space (stripLine space line)) ∧ keyOf space (stripLine space line) ∉ seen) :
    getLoop space file want seen result (line :: lines) =
      if keyOf space (stripLine space line) ≠ want then
        getLoop space file want (keyOf space (stripLine space line) :: seen) result lines
      else match unquote (valueOf (stripLine space line)) with
        | .error e => .error e
        | .ok value => getLoop space file want (keyOf space (stripLine space line) :: seen)
            (some value) lines := by
  have hcheck := (checkKey_ok file (file ++ " has an invalid key name: " ++
    String.ofList (keyOf space (stripLine space line)))).mpr hkey
  by_cases hwant : keyOf space (stripLine space line) = want
  · rw [hwant] at hcheck
    cases hvalue : unquote (valueOf (stripLine space line)) with
    | error e => simp [getLoop, hread, heq, hcheck, hwant, hvalue]
    | ok value => simp [getLoop, hread, heq, hcheck, hwant, hvalue]
  · simp [getLoop, hread, heq, hcheck, hwant]

theorem lookup_pairsOf_ne (hne : keyOf space line ≠ want) :
    ((pairsOf space (line :: ls)).foldl assign ∅).lookup want =
      ((pairsOf space ls).foldl assign ∅).lookup want := by
  by_cases hwell : WellFormed line
  · obtain ⟨heq, value, hvalue⟩ := hwell
    have hother : (assign ∅ (keyOf space line, value)).lookup want = none := by
      rw [assign, AList.lookup_insert_ne (fun h => hne h.symm), AList.lookup_empty]
    rw [pairsOf_cons heq hvalue, List.foldl_cons, lookup_assign, hother, Option.or_none]
  · rw [pairsOf_skip hwell]

theorem lookup_pairsOf_own {value : List Char} (heq : '=' ∈ line)
    (hvalue : unquote (valueOf line) = .ok value) :
    ((pairsOf space (line :: ls)).foldl assign ∅).lookup (keyOf space line) =
      (((pairsOf space ls).foldl assign ∅).lookup (keyOf space line)).or (some value) := by
  rw [pairsOf_cons heq hvalue, List.foldl_cons, lookup_assign _ (assign ∅ _), assign,
    AList.lookup_insert]

/-- The value of a key goes through where all keys are fine and the quotes of its own line match.
Lines without a key and the quotes of the other lines are not looked at. -/
theorem getLoop_ok :
    getLoop space file want seen result lines = .ok r ↔
      KeysFine space seen (contentLines space lines) ∧
      (∀ line ∈ contentLines space lines, '=' ∈ line → keyOf space line = want →
        WellFormed line) ∧
      r = (((pairsOf space (contentLines space lines)).foldl assign ∅).lookup want).or result := by
  induction lines generalizing seen result with
  | nil =>
    constructor
    · intro h
      exact ⟨keysFine_nil, fun _ h => absurd h List.not_mem_nil, (Except.ok.inj h).symm⟩
    · rintro ⟨-, -, rfl⟩
      rfl
  | cons line lines ih =>
    by_cases hskip : skipped (stripLine space line) = true
    · rw [getLoop_skip hskip, ih, contentLines_skip hskip]
    have hread : skipped (stripLine space line) = false := by simpa using hskip
    rw [contentLines_read hread, List.forall_mem_cons]
    by_cases heq : '=' ∈ stripLine space line
    · rw [keysFine_cons heq]
      by_cases hkey : keyName (keyOf space (stripLine space line)) = true ∧
          Approved (keyOf space (stripLine space line)) ∧
            keyOf space (stripLine space line) ∉ seen
      · rw [getLoop_fine hread heq hkey]
        by_cases hwant : keyOf space (stripLine space line) = want
        · subst hwant
          rw [if_neg (not_not.mpr rfl)]
          cases hvalue : unquote (valueOf (stripLine space line)) with
          | error e =>
            constructor
            · intro h
              cases h
            · rintro ⟨-, ⟨hwell, -⟩, -⟩
              obtain ⟨-, value, hok⟩ := hwell heq rfl
              rw [hvalue] at hok
              cases hok
          | ok value =>
            rw [ih, lookup_pairsOf_own heq hvalue, Option.or_assoc, Option.some_or]
            constructor
            · rintro ⟨hkeys, hall, hr⟩
              exact ⟨⟨hkey, hkeys⟩, ⟨fun _ _ => ⟨heq, value, hvalue⟩, hall⟩, hr⟩
            · rintro ⟨⟨-, hkeys⟩, ⟨-, hall⟩, hr⟩
              exact ⟨hkeys, hall, hr⟩
        · rw [if_pos hwant, ih, lookup_pairsOf_ne hwant]
          constructor
          · rintro ⟨hkeys, hall, hr⟩
            exact ⟨⟨hkey, hkeys⟩, ⟨fun _ h => absurd h hwant, hall⟩, hr⟩
          · rintro ⟨⟨-, hkeys⟩, ⟨-, hall⟩, hr⟩
            exact ⟨hkeys, hall, hr⟩
      · obtain ⟨e, he⟩ := getLoop_refused file want seen result lines hread heq hkey
        rw [he]
        constructor
        · intro h
          cases h
        · rintro ⟨⟨hfine, -⟩, -⟩
          exact absurd hfine hkey
    · have hother : ¬ WellFormed (stripLine space line) := fun h => heq h.1
      rw [getLoop_other hread heq, ih, keysFine_other heq, pairsOf_skip hother]
      constructor
      · rintro ⟨hkeys, hall, hr⟩
        exact ⟨hkeys, ⟨fun h => absurd h heq, hall⟩, hr⟩
      · rintro ⟨hkeys, ⟨-, hall⟩, hr⟩
        exact ⟨hkeys, hall, hr⟩

end get

section text
variable {content : List Char}

theorem unquote_subset {v w : List Char} (h : unquote v = .ok w) : ∀ c ∈ w, c ∈ v := by
  have hinner : ∀ c ∈ v.tail.dropLast, c ∈ v :=
    fun c hc => List.mem_of_mem_tail ((List.dropLast_sublist _).subset hc)
  unfold unquote at h
  split_ifs at h
  · rw [← Except.ok.inj h]
    exact hinner
  · rw [← Except.ok.inj h]
    exact hinner
  · rw [← Except.ok.inj h]
    exact fun c hc => hc

/-- What is read has no zero byte, and what stands before the separator has no separator. -/
theorem pairsOf_clean {p : List Char × List Char}
    (h : p ∈ pairsOf space (contentLines space (readLines content))) :
    '=' ∉ p.1 ∧ nul ∉ p.1 ∧ nul ∉ p.2 := by
  obtain ⟨line, hline, hp⟩ := List.mem_filterMap.mp h
  obtain ⟨raw, hraw, rfl⟩ := List.mem_map.mp (List.mem_filter.mp hline).1
  have hstrip : ∀ c ∈ stripLine space raw, c ∈ raw := by
    intro c hc
    have hdrop := (List.dropWhile_sublist _).subset hc
    split at hdrop
    · exact (List.dropLast_sublist _).subset hdrop
    · exact hdrop
  have hnul : nul ∉ stripLine space raw := by
    intro hmem
    have hcontent := Records.mem_of_split hraw (hstrip nul hmem)
    simp at hcontent
  have hkey : ∀ c ∈ keyOf space (stripLine space raw),
      c ∈ (Records.cut '=' (stripLine space raw)).1 :=
    fun c hc => (List.rdropWhile_prefix _ _).subset hc
  split at hp
  · cases hvalue : unquote (valueOf (stripLine space raw)) with
    | error e => simp [hvalue, Except.toOption] at hp
    | ok value =>
      simp only [hvalue, Except.toOption, Option.map_some, Option.some.injEq] at hp
      subst hp
      refine ⟨?_, ?_, ?_⟩
      · intro hmem
        exact Records.notMem_cut_fst (hkey _ hmem)
      · intro hmem
        exact hnul ((List.takeWhile_sublist _).subset (hkey _ hmem))
      · intro hmem
        have hraw' := unquote_subset hvalue _ hmem
        exact hnul ((List.dropWhile_sublist _).subset (List.mem_of_mem_tail hraw'))
  · cases hp

/-- The emitted text is read back as the pairs that were emitted. -/
theorem environOf_emitted {pairs : List (List Char × List Char)}
    (h : ∀ p ∈ pairs, '=' ∉ p.1 ∧ nul ∉ p.1 ∧ nul ∉ p.2) :
    environOf (pairs.foldl (fun out p => emitPair p.1 p.2 out) []) = pairs.foldl assign ∅ := by
  have htext : ∀ out, pairs.foldl (fun out p => emitPair p.1 p.2 out) out =
      out ++ pairs.flatMap fun p => (p.1 ++ '=' :: p.2) ++ [nul] := by
    clear h
    induction pairs with
    | nil => simp
    | cons p pairs ih =>
      intro out
      rw [List.foldl_cons, ih]
      simp [emitPair]
  have hsplit : (Records.split nul (pairs.flatMap fun p => (p.1 ++ '=' :: p.2) ++ [nul])).map
      (Records.cut '=') = pairs := by
    clear htext
    induction pairs with
    | nil => rfl
    | cons p pairs ih =>
      obtain ⟨hsep, hkey, hvalue⟩ := h p List.mem_cons_self
      have hrecord : nul ∉ p.1 ++ '=' :: p.2 := by
        intro hmem
        rcases List.mem_append.mp hmem with hmem | hmem
        · exact hkey hmem
        · rcases List.mem_cons.mp hmem with hmem | hmem
          · exact absurd hmem (by decide)
          · exact hvalue hmem
      rw [List.flatMap_cons, List.append_assoc, List.singleton_append,
        Records.split_record hrecord, List.map_cons, Records.cut_append hsep,
        ih fun q hq => h q (List.mem_cons_of_mem p hq)]
  rw [htext, List.nil_append, environOf, hsplit]

end text

/-- The readers as one parser: the same files are accepted with the same pairs, a value that is
printed is the one that they assign, and nothing is printed of a file that they refuse. -/
structure ReadersAgree (space : Spaces) (file : String) (content : List Char) : Prop where
  accept : ∀ env, (envFileLoad space file content env).1 = (envFilePairs space file content).1
  same : (envFilePairs space file content).1 = .ok () → ∀ env key,
    (envFileLoad space file content env).2.lookup key =
      ((environOf (envFilePairs space file content).2).lookup key).or (env.lookup key)
  get : (envFilePairs space file content).1 = .ok () → ∀ want, Approved want →
    envFileGet space file content want =
      .ok ((environOf (envFilePairs space file content).2).lookup want)
  refuse : (envFilePairs space file content).1 ≠ .ok () → ∀ want value,
    envFileGet space file content want ≠ .ok (some value)

theorem approved_wantName (h : Approved want) : wantName want = true := by
  have hall : ∀ key ∈ approvedKeys, ∃ name, key = String.ofList name ∧ wantName name = true := by
    simp only [approvedKeys, List.forall_mem_cons, List.not_mem_nil, false_implies, implies_true,
      and_true]
    and_intros <;> exact ⟨_, rfl, by decide⟩
  obtain ⟨name, hname, hwant⟩ := hall _ h
  rwa [String.ofList_injective hname]

theorem envFileGet_approved (file : String) (content : List Char) (h : Approved want) :
    envFileGet space file content want = getLoop space file want [] none (readLines content) := by
  unfold envFileGet
  rw [approved_wantName h, keyAllowed_ok.mpr h]
  rfl

theorem envFileGet_some {content value : List Char}
    (h : envFileGet space file content want = .ok (some value)) :
    Approved want ∧ getLoop space file want [] none (readLines content) = .ok (some value) := by
  have happroved : Approved want := by
    rw [← keyAllowed_ok]
    unfold envFileGet at h
    cases hname : wantName want with
    | false =>
      rw [hname] at h
      cases h
    | true =>
      cases hallowed : keyAllowed want with
      | error e =>
        rw [hname, hallowed] at h
        cases h
      | ok u => rfl
  exact ⟨happroved, by rwa [envFileGet_approved file content happroved] at h⟩

/-- A key has a value where one of its lines is well formed. -/
theorem lookup_pairsOf_some {key : List Char} :
    (∃ line ∈ ls, keyOf space line = key ∧ WellFormed line) ↔
      ∃ value, ((pairsOf space ls).foldl assign ∅).lookup key = some value := by
  induction ls with
  | nil => simp [pairsOf]
  | cons line ls ih =>
    by_cases hkey : keyOf space line = key
    · subst hkey
      by_cases hwell : WellFormed line
      · obtain ⟨heq, value, hvalue⟩ := hwell
        rw [lookup_pairsOf_own heq hvalue]
        constructor
        · intro _
          cases ((pairsOf space ls).foldl assign ∅).lookup (keyOf space line) with
          | none => exact ⟨value, rfl⟩
          | some v => exact ⟨v, rfl⟩
        · intro _
          exact ⟨line, List.mem_cons_self, rfl, heq, value, hvalue⟩
      · rw [pairsOf_skip hwell, ← ih]
        simp [hwell]
    · rw [lookup_pairsOf_ne hkey, ← ih]
      simp [hkey]

theorem pairs_ok {content : List Char} :
    (envFilePairs space file content).1 = .ok () ↔
      KeysFine space [] (contentLines space (readLines content)) ∧
        ∀ line ∈ contentLines space (readLines content), WellFormed line := scan_ok

theorem environOf_pairs {content : List Char} (h : (envFilePairs space file content).1 = .ok ()) :
    environOf (envFilePairs space file content).2 =
      (pairsOf space (contentLines space (readLines content))).foldl assign ∅ := by
  rw [show (envFilePairs space file content).2 = _ from scan_out h]
  exact environOf_emitted fun p hp => pairsOf_clean hp

/-- The readers agree on the files in which a key is invalid, unapproved or repeated, on those in
which every line that is read is a well-formed assignment, and on those in which none is. -/
theorem readersAgree_iff (space : Spaces) (file : String) (content : List Char) :
    ReadersAgree space file content ↔
      (KeysFine space [] (contentLines space (readLines content)) →
        (∃ line ∈ contentLines space (readLines content), WellFormed line) →
        ∀ line ∈ contentLines space (readLines content), WellFormed line) := by
  constructor
  · rintro hagree hkeys ⟨line, hline, hwell⟩
    by_contra hnot
    have hrefused : (envFilePairs space file content).1 ≠ .ok () :=
      fun hok => hnot (pairs_ok.mp hok).2
    have hmem : keyOf space line ∈ keysOf space (contentLines space (readLines content)) :=
      List.mem_map_of_mem (List.mem_filter.mpr ⟨hline, by simpa using hwell.1⟩)
    have happroved := (hkeys.fine _ hmem).2.1
    have hown : ∀ other ∈ contentLines space (readLines content), '=' ∈ other →
        keyOf space other = keyOf space line → WellFormed other := by
      intro other hother heq hkey
      have hsame : other = line := List.inj_on_of_nodup_map hkeys.nodup
        (List.mem_filter.mpr ⟨hother, by simpa using heq⟩)
        (List.mem_filter.mpr ⟨hline, by simpa using hwell.1⟩) hkey
      rw [hsame]
      exact hwell
    obtain ⟨value, hvalue⟩ := lookup_pairsOf_some.mp ⟨line, hline, rfl, hwell⟩
    apply hagree.refuse hrefused (keyOf space line) value
    rw [envFileGet_approved file content happroved, getLoop_ok]
    exact ⟨hkeys, hown, by rw [hvalue]; rfl⟩
  · intro hsafe
    constructor
    · intro env
      exact scan_status _ _
    · intro hok env key
      have hload : (envFileLoad space file content env).1 = .ok () := (scan_status _ _).trans hok
      rw [environOf_pairs hok, show (envFileLoad space file content env).2 = _ from scan_out hload]
      exact lookup_assign _ env key
    · intro hok want happroved
      obtain ⟨hkeys, hall⟩ := pairs_ok.mp hok
      rw [envFileGet_approved file content happroved, getLoop_ok, environOf_pairs hok]
      exact ⟨hkeys, fun line hline _ _ => hall line hline, (Option.or_none).symm⟩
    · intro hrefused want value hget
      obtain ⟨-, hloop⟩ := envFileGet_some hget
      obtain ⟨hkeys, -, hvalue⟩ := getLoop_ok.mp hloop
      rw [Option.or_none] at hvalue
      obtain ⟨line, hline, -, hwell⟩ := lookup_pairsOf_some.mpr ⟨value, hvalue.symm⟩
      exact hrefused (pairs_ok.mpr ⟨hkeys, hsafe hkeys ⟨line, hline, hwell⟩⟩)

/-- `[[:space:]]` of the POSIX locale -/
def posixSpace : Spaces := fun c => c = ' ' || (9 ≤ c.toNat && c.toNat ≤ 13)

/-- A stray line: `env_file_load` refuses the file, `env_file_get` prints the value. -/
theorem readersAgree_fails_stray_line :
    ¬ ReadersAgree posixSpace "snapshot.env" "EXECUTION_MODE=live\nnot an assignment\n".toList := by
  intro hagree
  have hrefused : (envFilePairs posixSpace "snapshot.env"
      "EXECUTION_MODE=live\nnot an assignment\n".toList).1 ≠ .ok () := by decide
  exact hagree.refuse hrefused "EXECUTION_MODE".toList "live".toList (by decide)

end SpotSidecar.EnvFile
