import SpotSidecar.Collections.History
import SpotSidecar.Interaction.Triple
import SpotSidecar.PairControl.Listing

/-! The registry at work: the process that asks the exchange and keeps what it lists, in its memory
and in a file that others may replace. -/
namespace SpotSidecar.PairControl.Registry
open Interaction
open Json (Text Members)
open Bus (say)

inductive Act (F : Type) : Type → Type 1 where
  | memory : Act F (Option (Json F))
  | setMemory (s : Snapshot F) : Act F Unit
  /-- `read_json`, with null for a file that cannot be read -/
  | readCache : Act F (Json F)
  | exchangeInfo (now : F) : Act F (Json F)
  | isoformat : Act F Text
  | writeCache (s : Snapshot F) : Act F Unit
  | audit : Act F Unit

abbrev Working (F : Type) := Prog PairExc (Act F)

/-- A selection, with the hash of the listing it was taken from. -/
structure Selected (F : Type) where
  row : Row F
  registryHash : Text
  registryGeneratedAtEpoch : Double F

section programs
variable {F : Type} (cfg : Config F) (now : F)

/-- `_cached` -/
def cached : Working F (Option (Snapshot F)) := do
  let memory ← .perform .memory
  let stored ← .perform .readCache
  match ← Prog.ofExcept (cfg.cachedOf now [memory.getD .null, stored]) with
  | some s =>
    .perform (.setMemory s)
    return some s
  | none => return none

/-- `refresh` where nothing is cached. -/
def renew : Working F (Snapshot F) := do
  match ← (Prog.perform (.exchangeInfo now) : Working F (Json F)).attempt with
  | .error e =>
    .raise (registryError s!"current Binance BTC pair registry is unavailable: {e.typeName}")
  | .ok payload =>
    let rows ← Prog.ofExcept (cfg.rowsOf payload)
    let iso ← .perform .isoformat
    let s := cfg.snapshotOf iso now rows
    .perform (.writeCache s)
    .perform (.setMemory s)
    .perform .audit
    return s

def refresh (force : Bool) : Working F (Snapshot F) :=
  if force then renew cfg now
  else do
    match ← cached cfg now with
    | some s => return s
    | none => renew cfg now

def requirePair (pair : String) : Working F (Selected F) := do
  let requested ← Prog.ofExcept (canonicalPair cfg.pairs pair)
  let s ← refresh cfg now true
  match s.pairs.find? fun row => row.pair = Text.ofString requested with
  | none => .raise (registryError s!"{requested} is not currently eligible in Binance exchangeInfo")
  | some row =>
    return { row, registryHash := s.registryHash, registryGeneratedAtEpoch := s.generatedAtEpoch }

end programs

inductive Event (F : Type) where
  | asked (now : F)
  | offered (now : F) (payload : Json F)
  | replaced (text : List Char)
  | returned (now : F) (s : Snapshot F)
  | selected (now : F) (pair : String) (s : Selected F)

/-- What the exchange answers, the clock of the day, and what fails of the file and of the log. -/
structure Env (F σ : Type) where
  exchange : σ → Except PairExc (Json F) × σ
  isoformat : σ → Text × σ
  reads : σ → Bool × σ
  saves : σ → Bool × σ
  audits : σ → Bool × σ

/-- The cache file, and the memory of the process. The log is a record of the run that nothing
reads. -/
structure World (F σ : Type) where
  file : Option (List Char) := none
  memory : Option (Json F) := none
  log : List (Event F) := []
  env : σ

section run
variable {F σ : Type} (env : Env F σ) (cfg : Config F)

def osError (text : String) : PairExc := .other "OSError" text

def exec : (γ : Type) → Act F γ → World F σ → Except PairExc γ × World F σ
  | _, .memory, w => (.ok w.memory, w)
  | _, .setMemory s, w => (.ok (), { w with memory := some s.json })
  | _, .readCache, w =>
    let read := env.reads w.env
    let stored := if read.1 then w.file.bind (Json.loads cfg.py.floats.toFloatFormat) else none
    (.ok (stored.getD .null), { w with env := read.2 })
  | _, .exchangeInfo now, w =>
    match env.exchange w.env with
    | (.ok payload, e) => (.ok payload, { w with log := w.log ++ [.offered now payload], env := e })
    | (.error x, e) => (.error x, { w with env := e })
  | _, .isoformat, w => (.ok (env.isoformat w.env).1, { w with env := (env.isoformat w.env).2 })
  | _, .writeCache s, w =>
    let saved := env.saves w.env
    if saved.1 then
      (.ok (), { w with
        file := some (Json.dumpsPretty cfg.py.floats.toFloatFormat s.json), env := saved.2 })
    else (.error (osError "the file could not be written"), { w with env := saved.2 })
  | _, .audit, w =>
    let audited := env.audits w.env
    (if audited.1 then .ok () else .error (osError "the log could not be written"),
      { w with env := audited.2 })

/-- A call, in which the process may die, a new process, or a file that someone else has put. -/
inductive Turn (F : Type) where
  | refresh (force : Bool) (now : F) (budget : ℕ)
  | requirePair (pair : String) (now : F) (budget : ℕ)
  | restart
  | replace (text : List Char)

/-- The world after a call that was asked at `now`. -/
def World.asks (w : World F σ) (now : F) {α : Type} (m : Working F α) (budget : ℕ)
    (answered : α → Event F) : World F σ :=
  match Prog.run (exec env cfg) budget m { w with log := w.log ++ [.asked now] } with
  | (.done a, w) => { w with log := w.log ++ [answered a] }
  | (.raised _, w) => w
  | (.crashed, w) => { w with memory := none }

def World.turn (w : World F σ) : Turn F → World F σ
  | .refresh force now budget =>
    w.asks env cfg now (Registry.refresh cfg now force) budget (.returned now)
  | .requirePair pair now budget =>
    w.asks env cfg now (Registry.requirePair cfg now pair) budget (.selected now pair)
  | .restart => { w with memory := none }
  | .replace text => { w with file := some text, log := w.log ++ [.replaced text] }

def World.run (w : World F σ) (turns : List (Turn F)) : World F σ :=
  turns.foldl (World.turn env cfg) w

end run

/-! ### What is returned -/

section returned
variable {F : Type} (cfg : Config F)

/-- Somebody else has put the file. -/
def Replaced (log : List (Event F)) : Prop := ∃ text, .replaced text ∈ log

/-- A snapshot that the registry has made of an answer of the exchange. -/
def Made (log : List (Event F)) (s : Snapshot F) : Prop :=
  ∃ iso now payload rows, .offered now payload ∈ log ∧ cfg.rowsOf payload = .ok rows ∧
    s = cfg.snapshotOf iso now rows

/-- The exchange has just answered, in this call, with the rows. -/
def Asked (past : List (Event F)) (now : F) (payload : Json F) (rows : List (Row F)) : Prop :=
  (∃ before, past = before ++ [.asked now, .offered now payload]) ∧ cfg.rowsOf payload = .ok rows

/-- A snapshot of the cache is recent, and what an earlier answer was made into; or the file was
not the registry's own. -/
structure Served (past : List (Event F)) (now : F) (s : Snapshot F) : Prop where
  fresh : cfg.fresh now s.generatedAtEpoch = true
  nodup : (s.pairs.map Row.pair).Nodup
  made : Replaced past ∨ ∃ made, Made cfg past made ∧ s.Alike made

/-- The snapshot is well formed, and no capabilities have a key twice. -/
def Regular (s : Snapshot F) : Prop :=
  WellFormed cfg s ∧ ∀ row ∈ s.pairs, Json.Distinct (.obj row.capabilities)

/-- The exchange has just listed the market that was asked for, and the row says how. -/
structure Chosen (past : List (Event F)) (now : F) (pair : String) (s : Selected F)
    (payload : Json F) (rows : List (Row F)) (quote : List Char) : Prop where
  asked : Asked cfg past now payload rows
  mem : s.row ∈ rows
  hash : s.registryHash = cfg.registryHash rows
  epoch : s.registryGeneratedAtEpoch = .finite now
  canonical : canonicalPair cfg.pairs pair = .ok (pairOf quote)
  good : s.row.Good cfg quote
  listed : ∃ symbols metadata, symbolsIn payload = .ok symbols ∧ .obj metadata ∈ symbols ∧
    cfg.row metadata = .ok s.row ∧ Tradable cfg metadata quote

/-- What stands behind an event. -/
def Allowed (past : List (Event F)) : Event F → Prop
  | .returned now s => Regular cfg s ∧
      ((∃ payload, Asked cfg past now payload s.pairs ∧ s.generatedAtEpoch = .finite now) ∨
        Served cfg past now s)
  | .selected now pair s => ∃ payload rows quote, Chosen cfg past now pair s payload rows quote
  | _ => True

end returned

/-! ### What every act keeps -/

section kept
variable {F σ : Type} {env : Env F σ} {cfg : Config F} {w : World F σ} {log more : List (Event F)}
  {s made : Snapshot F} {v : Json F}

theorem Made.later (h : Made cfg log made) : Made cfg (log ++ more) made := by
  obtain ⟨iso, now, payload, rows, hmem, hrows, hmade⟩ := h
  exact ⟨iso, now, payload, rows, List.mem_append_left _ hmem, hrows, hmade⟩

theorem Replaced.later (h : Replaced log) : Replaced (log ++ more) := by
  obtain ⟨text, hmem⟩ := h
  exact ⟨text, List.mem_append_left _ hmem⟩

/-- A value that the registry has made itself, unless somebody else has put the file. -/
structure Sourced (cfg : Config F) (log : List (Event F)) (v : Json F) : Prop where
  distinct : Json.Distinct v
  source : Replaced log ∨ ∃ made, Made cfg log made ∧ Json.Same made.json v

theorem Sourced.later (h : Sourced cfg log v) : Sourced cfg (log ++ more) v := by
  refine ⟨h.distinct, ?_⟩
  rcases h.source with hreplaced | ⟨made, hmade, hsame⟩
  · exact .inl hreplaced.later
  · exact .inr ⟨made, hmade.later, hsame⟩

theorem Snapshot.Alike.same (h : s.Alike made) : Json.Same s.json made.json := by
  have hpairs : Json.ordered (.arr (s.pairs.map Row.json)) =
      Json.ordered (.arr (made.pairs.map Row.json)) := h.pairs.same fun a b hab => hab.json
  unfold Json.Same Snapshot.json
  rw [Json.ordered, Json.ordered]
  simp only [Json.orderedMembers, hpairs, h.generatedAt, h.generatedAtEpoch, h.source,
    h.registryHash]

/-- What is accepted of the registry's own values is what it has made. -/
theorem accepted_made (hmade : Made cfg log made) (hsame : Json.Same made.json v)
    (hv : Json.Distinct v) (hs : cfg.validateSnapshot v = .ok s) : s.Alike made := by
  obtain ⟨iso, now, payload, rows, -, hrows, rfl⟩ := hmade
  obtain ⟨haccepted, hrefused⟩ := validateSnapshot_made hrows hsame hv
  have hnodup : (rows.map Row.pair).Nodup := by
    by_contra hnodup
    rw [hrefused hnodup] at hs
    cases hs
  obtain ⟨s', hs', halike⟩ := haccepted hnodup
  rw [hs'] at hs
  cases hs
  exact halike

/-- What is accepted is regular, and can be kept in its turn. -/
theorem Sourced.accepted (h : Sourced cfg log v) (hs : cfg.validateSnapshot v = .ok s) :
    Regular cfg s ∧ (Replaced log ∨ ∃ made, Made cfg log made ∧ s.Alike made) ∧
      Sourced cfg log s.json := by
  have hwell := (validateSnapshot_eq_ok hs).1
  have hdistinct := validateSnapshot_distinct h.distinct hs
  have hjson : Json.Distinct s.json := by
    apply Snapshot.distinct_json
    intro row hrow
    obtain ⟨quote, hgood⟩ := hwell.good row hrow
    exact ⟨hdistinct row hrow, hgood.scalar⟩
  refine ⟨⟨hwell, hdistinct⟩, ?_⟩
  rcases h.source with hreplaced | ⟨made, hmade, hsame⟩
  · exact ⟨.inl hreplaced, hjson, .inl hreplaced⟩
  · have halike := accepted_made hmade hsame h.distinct hs
    exact ⟨.inr ⟨made, hmade, halike⟩, hjson, .inr ⟨made, hmade, halike.same.symm⟩⟩

theorem Made.distinct (h : Made cfg log made) : Json.Distinct made.json := by
  obtain ⟨iso, now, payload, rows, -, hrows, rfl⟩ := h
  exact distinct_snapshotOf iso now hrows

theorem Made.sourced (h : Made cfg log made) : Sourced cfg log made.json :=
  ⟨h.distinct, .inr ⟨made, h, Json.Same.refl _⟩⟩

/-- What the memory and the file hold is the registry's own, or somebody else has put the file. -/
structure WellSourced (cfg : Config F) (w : World F σ) : Prop where
  memory : ∀ v, w.memory = some v → Sourced cfg w.log v
  file : ∀ text v, w.file = some text → Json.loads cfg.py.floats.toFloatFormat text = some v →
    Sourced cfg w.log v
  lawful : History.Lawful (Allowed cfg) w.log

theorem WellSourced.note {e : Event F} (h : WellSourced cfg w) (he : Allowed cfg w.log e) :
    WellSourced cfg { w with log := w.log ++ [e] } := by
  constructor
  · intro v hv
    exact (h.memory v hv).later
  · intro text v htext hv
    exact (h.file text v htext hv).later
  · exact h.lawful.concat he

/-- Where the log is `log`. -/
def WellSourcedAt (cfg : Config F) (log : List (Event F)) (w : World F σ) : Prop :=
  WellSourced cfg w ∧ w.log = log

/-- An act that keeps the place, however it ends. -/
theorem wellSourcedAt_triple {γ : Type} {op : Act F γ}
    (h : ∀ w : World F σ, WellSourcedAt cfg log w → WellSourcedAt cfg log (exec env cfg γ op w).2) :
    Prog.Triple (exec env cfg) (WellSourcedAt cfg log) (.perform op)
      (fun _ => WellSourcedAt cfg log) (fun _ => WellSourced cfg)
      (WellSourced cfg) := by
  have hsame := Prog.Triple.perform_same (fun _ hw => hw) h
  apply hsame.conseq
  · exact fun _ hw => hw
  · exact fun _ _ hw => hw
  · exact fun _ _ hw => hw.1
  · exact fun _ hw => hw.1

theorem memory_triple : Prog.Triple (exec env cfg) (WellSourcedAt cfg log) (.perform .memory)
    (fun memory w => WellSourcedAt cfg log w ∧ ∀ v, memory = some v → Sourced cfg log v)
    (fun _ => WellSourced cfg) (WellSourced cfg) := by
  apply Prog.Triple.perform
  · exact fun w hw => hw.1
  · rintro w a w' ⟨hw, rfl⟩ hrun
    cases hrun
    exact ⟨⟨hw, rfl⟩, hw.memory⟩
  · intro w e w' hw hrun
    cases hrun

theorem setMemory_triple (hs : Sourced cfg log s.json) :
    Prog.Triple (exec env cfg) (WellSourcedAt cfg log) (.perform (.setMemory s))
      (fun _ => WellSourcedAt cfg log)
      (fun _ => WellSourced cfg) (WellSourced cfg) := by
  apply wellSourcedAt_triple
  rintro w ⟨hw, rfl⟩
  refine ⟨⟨?_, hw.file, hw.lawful⟩, rfl⟩
  intro v hv
  cases hv
  exact hs

theorem readCache_triple : Prog.Triple (exec env cfg) (WellSourcedAt cfg log) (.perform .readCache)
    (fun v w => WellSourcedAt cfg log w ∧ (v = .null ∨ Sourced cfg log v))
    (fun _ => WellSourced cfg) (WellSourced cfg) := by
  apply Prog.Triple.perform
  · exact fun w hw => hw.1
  · rintro w a w' ⟨hw, rfl⟩ hrun
    cases hrun
    refine ⟨⟨⟨hw.memory, hw.file, hw.lawful⟩, rfl⟩, ?_⟩
    split
    · cases htext : w.file with
      | none => exact .inl rfl
      | some text =>
        cases hv : Json.loads cfg.py.floats.toFloatFormat text with
        | none => exact .inl (by simp [hv])
        | some v =>
          rw [Option.bind_some, hv]
          exact .inr (hw.file text v htext hv)
    · exact .inl rfl
  · intro w e w' hw hrun
    cases hrun

theorem exchangeInfo_triple {now : F} :
    Prog.Triple (exec env cfg) (WellSourcedAt cfg log) (.perform (.exchangeInfo now))
      (fun payload => WellSourcedAt cfg (log ++ [.offered now payload])) (fun _ => WellSourced cfg)
      (WellSourced cfg) := by
  apply Prog.Triple.perform
  · exact fun w hw => hw.1
  · rintro w a w' ⟨hw, rfl⟩ hrun
    have hnote : WellSourced cfg { w with log := w.log ++ [.offered now a] } := hw.note trivial
    simp only [exec] at hrun
    split at hrun
    · cases hrun
      exact ⟨⟨hnote.memory, hnote.file, hnote.lawful⟩, rfl⟩
    · cases hrun
  · rintro w e w' ⟨hw, rfl⟩ hrun
    simp only [exec] at hrun
    split at hrun
    · cases hrun
    · cases hrun
      exact ⟨hw.memory, hw.file, hw.lawful⟩

theorem isoformat_triple : Prog.Triple (exec env cfg) (WellSourcedAt cfg log) (.perform .isoformat)
    (fun _ => WellSourcedAt cfg log) (fun _ => WellSourced cfg) (WellSourced cfg) := by
  apply wellSourcedAt_triple
  rintro w ⟨hw, rfl⟩
  exact ⟨⟨hw.memory, hw.file, hw.lawful⟩, rfl⟩

theorem audit_triple : Prog.Triple (exec env cfg) (WellSourcedAt cfg log) (.perform .audit)
    (fun _ => WellSourcedAt cfg log) (fun _ => WellSourced cfg) (WellSourced cfg) := by
  apply wellSourcedAt_triple
  rintro w ⟨hw, rfl⟩
  exact ⟨⟨hw.memory, hw.file, hw.lawful⟩, rfl⟩

theorem writeCache_triple (hlaw : cfg.py.floats.toFloatFormat.Lawful) (h : Made cfg log made) :
    Prog.Triple (exec env cfg) (WellSourcedAt cfg log) (.perform (.writeCache made))
      (fun _ => WellSourcedAt cfg log)
      (fun _ => WellSourced cfg) (WellSourced cfg) := by
  apply wellSourcedAt_triple
  rintro w ⟨hw, rfl⟩
  unfold exec
  dsimp only
  split
  · refine ⟨⟨hw.memory, ?_, hw.lawful⟩, rfl⟩
    intro text v htext hv
    have hdistinct := h.distinct
    cases htext
    rw [Json.loads_dumpsPretty _ hlaw hdistinct] at hv
    cases hv
    exact ⟨(Json.distinct_ordered _).mpr hdistinct, .inr ⟨made, h, (Json.same_ordered _).symm⟩⟩
  · exact ⟨⟨hw.memory, hw.file, hw.lawful⟩, rfl⟩

end kept

/-! ### The programs -/

section calls
variable {F σ : Type} {env : Env F σ} {cfg : Config F} {log : List (Event F)} {now : F}

theorem cachedOf_eq_ok {vs : List (Json F)} {s : Snapshot F}
    (h : cfg.cachedOf now vs = .ok (some s)) : ∃ v ∈ vs, v ≠ .null ∧
      cfg.validateSnapshot v = .ok s ∧ cfg.fresh now s.generatedAtEpoch = true := by
  fun_induction Config.cachedOf cfg now vs with
  | case1 => cases h
  | case2 rest ih =>
    obtain ⟨v, hv, hfound⟩ := ih h
    exact ⟨v, List.mem_cons_of_mem _ hv, hfound⟩
  | case3 v rest hnull s' hs' hfresh =>
    cases h
    exact ⟨v, List.mem_cons_self, hnull, hs', hfresh⟩
  | case4 v rest _ _ _ _ ih =>
    obtain ⟨v', hv, hfound⟩ := ih h
    exact ⟨v', List.mem_cons_of_mem v hv, hfound⟩
  | case5 v rest _ _ _ _ ih =>
    obtain ⟨v', hv, hfound⟩ := ih h
    exact ⟨v', List.mem_cons_of_mem v hv, hfound⟩
  | case6 => cases h

/-- What a candidate gives. -/
theorem served {vs : List (Json F)} {s : Snapshot F}
    (hvs : ∀ v ∈ vs, v ≠ .null → Sourced cfg log v) (h : cfg.cachedOf now vs = .ok (some s)) :
    Regular cfg s ∧ Served cfg log now s ∧ Sourced cfg log s.json := by
  obtain ⟨v, hv, hnull, hs, hfresh⟩ := cachedOf_eq_ok h
  obtain ⟨hregular, hmade, hkept⟩ := (hvs v hv hnull).accepted hs
  exact ⟨hregular, ⟨hfresh, (validateSnapshot_eq_ok hs).2, hmade⟩, hkept⟩

theorem cached_triple : Prog.Triple (exec env cfg) (WellSourcedAt cfg log) (cached cfg now)
    (fun found w => WellSourcedAt cfg log w ∧ ∀ s, found = some s →
      Regular cfg s ∧ Served cfg log now s)
    (fun _ => WellSourced cfg) (WellSourced cfg) := by
  apply Prog.Triple.bind memory_triple
  intro memory
  apply Prog.Triple.assume_eq
  intro hmemory
  apply Prog.Triple.bind readCache_triple
  intro stored
  apply Prog.Triple.assume_eq
  intro hstored
  have hvs : ∀ v ∈ [memory.getD .null, stored], v ≠ .null → Sourced cfg log v := by
    intro v hv hnull
    simp only [List.mem_cons, List.not_mem_nil, or_false] at hv
    rcases hv with rfl | rfl
    · cases memory with
      | none => exact absurd rfl hnull
      | some v => exact hmemory v rfl
    · exact hstored.resolve_left hnull
  apply Prog.Triple.bind (Q := fun found w => WellSourcedAt cfg log w ∧
    cfg.cachedOf now [memory.getD .null, stored] = .ok found)
  · apply Prog.Triple.ofExcept
    · intro found hfound w hw
      exact ⟨hw, hfound⟩
    · exact fun _ _ _ hw => hw.1
  · intro found
    apply Prog.Triple.assume_eq
    intro hfound
    cases found with
    | none =>
      apply Prog.Triple.pure
      intro w hw
      exact ⟨hw, nofun⟩
    | some s =>
      obtain ⟨hregular, hserved, hsourced⟩ := served hvs hfound
      apply Prog.Triple.bind (setMemory_triple hsourced)
      intro _
      apply Prog.Triple.pure
      intro w hw
      refine ⟨hw, ?_⟩
      rintro _ ⟨⟩
      exact ⟨hregular, hserved⟩

/-- What is made of an answer that has just come. -/
def Renewed (cfg : Config F) (log : List (Event F)) (now : F) (s : Snapshot F)
    (w : World F σ) : Prop :=
  ∃ payload, WellSourcedAt cfg (log ++ [.offered now payload]) w ∧ ∃ iso rows,
    cfg.rowsOf payload = .ok rows ∧ s = cfg.snapshotOf iso now rows

theorem renew_triple (hlaw : cfg.py.floats.toFloatFormat.Lawful) :
    Prog.Triple (exec env cfg) (WellSourcedAt cfg log) (renew cfg now) (Renewed cfg log now)
      (fun _ => WellSourced cfg) (WellSourced cfg) := by
  apply Prog.Triple.bind (Q := fun answer w => match answer with
    | .ok payload => WellSourcedAt cfg (log ++ [.offered now payload]) w
    | .error _ => WellSourced cfg w)
  · exact Prog.Triple.attempt exchangeInfo_triple
  · intro answer
    cases answer with
    | error e => exact Prog.Triple.raise fun _ hw => hw
    | ok payload =>
      apply Prog.Triple.bind (Q := fun rows w =>
        WellSourcedAt cfg (log ++ [.offered now payload]) w ∧ cfg.rowsOf payload = .ok rows)
      · apply Prog.Triple.ofExcept
        · intro rows hrows w hw
          exact ⟨hw, hrows⟩
        · exact fun _ _ _ hw => hw.1
      · intro rows
        apply Prog.Triple.assume_eq
        intro hrows
        apply Prog.Triple.bind isoformat_triple
        intro iso
        have hmade : Made cfg (log ++ [.offered now payload]) (cfg.snapshotOf iso now rows) :=
          ⟨iso, now, payload, rows, by simp, hrows, rfl⟩
        apply Prog.Triple.bind (writeCache_triple hlaw hmade)
        intro _
        apply Prog.Triple.bind (setMemory_triple hmade.sourced)
        intro _
        apply Prog.Triple.bind audit_triple
        intro _
        apply Prog.Triple.pure
        intro w hw
        exact ⟨payload, hw, iso, rows, hrows, rfl⟩

/-- What `refresh` returns is made of an answer that has just come, or served from the cache. -/
theorem refresh_triple {force : Bool} (hlaw : cfg.py.floats.toFloatFormat.Lawful) :
    Prog.Triple (exec env cfg) (WellSourcedAt cfg log) (refresh cfg now force)
      (fun s w => Renewed cfg log now s w ∨
        (force = false ∧ WellSourcedAt cfg log w ∧ Regular cfg s ∧ Served cfg log now s))
      (fun _ => WellSourced cfg) (WellSourced cfg) := by
  have hrenew : Prog.Triple (exec env cfg) (WellSourcedAt cfg log) (renew cfg now)
      (fun s w => Renewed cfg log now s w ∨
        (force = false ∧ WellSourcedAt cfg log w ∧ Regular cfg s ∧ Served cfg log now s))
      (fun _ => WellSourced cfg) (WellSourced cfg) := (renew_triple hlaw).post fun _ _ hw => .inl hw
  unfold refresh
  split
  · exact hrenew
  · next hforce =>
    apply Prog.Triple.bind cached_triple
    intro found
    cases found with
    | none => exact hrenew.weaken fun _ hw => hw.1
    | some s =>
      apply Prog.Triple.pure
      rintro w ⟨hw, hfound⟩
      exact .inr ⟨by simpa using hforce, hw, hfound s rfl⟩

theorem requirePair_triple {pair : String} (hlaw : cfg.py.floats.toFloatFormat.Lawful) :
    Prog.Triple (exec env cfg) (WellSourcedAt cfg log) (requirePair cfg now pair)
      (fun selected w => ∃ payload rows, WellSourcedAt cfg (log ++ [.offered now payload]) w ∧
        cfg.rowsOf payload = .ok rows ∧ selected.row ∈ rows ∧
        selected.registryHash = cfg.registryHash rows ∧
        selected.registryGeneratedAtEpoch = .finite now ∧
        ∃ requested, canonicalPair cfg.pairs pair = .ok requested ∧
          selected.row.pair = Text.ofString requested)
      (fun _ => WellSourced cfg) (WellSourced cfg) := by
  apply Prog.Triple.bind (Q := fun requested w =>
    WellSourcedAt cfg log w ∧ canonicalPair cfg.pairs pair = .ok requested)
  · apply Prog.Triple.ofExcept
    · intro requested hrequested w hw
      exact ⟨hw, hrequested⟩
    · exact fun _ _ _ hw => hw.1
  · intro requested
    apply Prog.Triple.assume_eq
    intro hrequested
    apply Prog.Triple.bind (refresh_triple hlaw)
    intro s
    split
    · apply Prog.Triple.raise
      rintro w (⟨payload, hw, -⟩ | ⟨hforce, -⟩)
      · exact hw.1
      · cases hforce
    · next row hfind =>
      apply Prog.Triple.pure
      rintro w (⟨payload, hw, iso, rows, hrows, rfl⟩ | ⟨hforce, -⟩)
      · have hpair : row.pair = Text.ofString requested := by
          simpa using List.find?_some hfind
        exact ⟨payload, rows, hw, hrows, List.mem_of_find?_eq_some hfind, rfl, rfl, requested,
          hrequested, hpair⟩
      · cases hforce

end calls

/-! ### Every run -/

section every
variable {F σ : Type} {env : Env F σ} {cfg : Config F} {w : World F σ}

/-- What `refresh` makes of an answer. -/
theorem regular_snapshotOf {payload : Json F} {rows : List (Row F)} {iso : Text} {now : F}
    (h : cfg.rowsOf payload = .ok rows) : Regular cfg (cfg.snapshotOf iso now rows) := by
  refine ⟨wellFormed_snapshotOf h, ?_⟩
  intro row hrow
  obtain ⟨-, -, hrows⟩ := rowsOf_eq_ok h
  obtain ⟨_, _, -, -, hok⟩ := hrows row hrow
  exact (row_eq_ok hok).2

theorem WellSourced.asks {α : Type} {m : Working F α} {now : F} {answered : α → Event F}
    (h : WellSourced cfg w) (budget : ℕ)
    (hm : Prog.Triple (exec env cfg) (WellSourcedAt cfg (w.log ++ [.asked now])) m
      (fun a w' => WellSourced cfg w' ∧ Allowed cfg w'.log (answered a)) (fun _ => WellSourced cfg)
      (WellSourced cfg)) :
    WellSourced cfg (w.asks env cfg now m budget answered) := by
  have hasked : WellSourced cfg { w with log := w.log ++ [.asked now] } := h.note trivial
  have hrun := Prog.wp_run (hm { w with log := w.log ++ [.asked now] } ⟨hasked, rfl⟩) budget
  unfold World.asks
  generalize Prog.run (exec env cfg) budget m { w with log := w.log ++ [.asked now] } = r at hrun ⊢
  rcases r with ⟨a | e | _, w'⟩
  · obtain ⟨hkept, hallowed⟩ := hrun
    exact hkept.note hallowed
  · exact hrun
  · have hkept : WellSourced cfg w' := hrun
    exact ⟨nofun, hkept.file, hkept.lawful⟩

/-- The step lemma: however a turn ends, what is kept and returned has its source. -/
theorem WellSourced.turn (hlaw : cfg.py.floats.toFloatFormat.Lawful) (h : WellSourced cfg w)
    (t : Turn F) :
    WellSourced cfg (w.turn env cfg t) := by
  cases t with
  | refresh force now budget =>
    apply h.asks budget
    apply (refresh_triple hlaw).post
    rintro s w' (⟨payload, hw, iso, rows, hrows, rfl⟩ | ⟨-, hw, hregular, hserved⟩)
    · rw [hw.2]
      have hasked : Asked cfg (w.log ++ [.asked now] ++ [.offered now payload]) now payload rows :=
        ⟨⟨w.log, by simp⟩, hrows⟩
      exact ⟨hw.1, regular_snapshotOf hrows, .inl ⟨payload, hasked, rfl⟩⟩
    · rw [hw.2]
      exact ⟨hw.1, hregular, .inr hserved⟩
  | requirePair pair now budget =>
    apply h.asks budget
    apply (requirePair_triple hlaw).post
    rintro s w' ⟨payload, rows, hw, hrows, hmem, hhash, hepoch, requested, hcanonical, hpair⟩
    obtain ⟨symbols, metadata, hsymbols, hlisted, hok⟩ := (rowsOf_eq_ok hrows).2.2 s.row hmem
    obtain ⟨⟨quote, hgood, htradable⟩, -⟩ := row_eq_ok hok
    have hrequested : requested = pairOf quote := by
      apply ofString_inj
      rw [← hpair, hgood.pair]
    have hasked : Asked cfg (w.log ++ [.asked now] ++ [.offered now payload]) now payload rows :=
      ⟨⟨w.log, by simp⟩, hrows⟩
    refine ⟨hw.1, payload, rows, quote, ?_⟩
    rw [hw.2]
    rw [hrequested] at hcanonical
    exact ⟨hasked, hmem, hhash, hepoch, hcanonical, hgood, symbols, metadata, hsymbols, hlisted,
      hok, htradable⟩
  | restart => exact ⟨nofun, h.file, h.lawful⟩
  | replace text =>
    have hnote : WellSourced cfg { w with log := w.log ++ [.replaced text] } := h.note trivial
    refine ⟨hnote.memory, ?_, hnote.lawful⟩
    rintro _ v ⟨⟩ hv
    exact ⟨Json.distinct_loads hv, .inl ⟨text, List.mem_append_right _ List.mem_cons_self⟩⟩

theorem wellSourced_start {e : σ} : WellSourced cfg ({ env := e } : World F σ) :=
  ⟨nofun, nofun, History.Lawful.nil⟩

/-- The run lemma. -/
theorem wellSourced_run (hlaw : cfg.py.floats.toFloatFormat.Lawful) (e : σ)
    (turns : List (Turn F)) :
    WellSourced cfg (({ env := e } : World F σ).run env cfg turns) := by
  unfold World.run
  apply List.foldlRecOn (motive := WellSourced cfg) turns
  · exact wellSourced_start
  · intro w hw t _
    exact hw.turn hlaw t

/-- Whatever is returned, in any run of calls that may die anywhere, of new processes and of files
that somebody else has put: a snapshot is regular, and either made of the answer that this call has
just had or recent and made of an earlier answer; a selection is of a market that this call has just
been told is traded. -/
theorem registry_kept (hlaw : cfg.py.floats.toFloatFormat.Lawful) (e : σ) (turns : List (Turn F)) :
    History.Lawful (Allowed cfg) (({ env := e } : World F σ).run env cfg turns).log :=
  (wellSourced_run hlaw e turns).lawful

end every

section sample

/-- An exchange that always lists the markets of the sample, and a disk that never fails. -/
def sampleEnv : Env ℤ Unit where
  exchange e := (.ok samplePayload, e)
  isoformat e := (say "t", e)
  reads e := (true, e)
  saves e := (true, e)
  audits e := (true, e)

def sampleRun (turns : List (Turn ℤ)) : List (Event ℤ) :=
  (({ env := () } : World ℤ Unit).run sampleEnv sampleConfig turns).log

theorem registry_kept_sample :
    History.Lawful (Allowed sampleConfig)
        (sampleRun [.replace "x".toList, .refresh false 1000 20]) ∧
      ∃ s, sampleRun [.replace "x".toList, .refresh false 1000 20] = [.replaced "x".toList,
        .asked 1000, .offered 1000 samplePayload, .returned 1000 s] := by
  have hlaw : sampleConfig.py.floats.toFloatFormat.Lawful := Bus.wholeFloats_exact.toLawful
  exact ⟨registry_kept hlaw () _, _, rfl⟩

end sample

/-! ### What the owner has seen -/

section shown
variable {F σ τ : Type} {env : Env F σ} {env' : Env F τ} {cfg cfg' : Config F}

/-- The text that the hash of the registry is of. -/
def Config.hashed (cfg : Config F) (rows : List (Row F)) : List Char :=
  Json.dumps cfg.py.floats.toFloatFormat (.arr (rows.map Row.bound))

theorem distinct_bound {row : Row F} {quote : List Char} (h : row.Good cfg quote)
    (hdistinct : Json.Distinct (.obj row.capabilities)) : Json.Distinct row.bound := by
  have htypes := distinct_of_scalar h.scalar
  rw [Row.bound, Json.distinct_obj]
  constructor
  · have hkeys : [say "pair", say "symbol", say "quote", say "capabilities",
        say "filter_types"].Nodup := by decide
    exact hkeys
  · intro m hm
    simp only [List.mem_cons, List.not_mem_nil, or_false] at hm
    rcases hm with rfl | rfl | rfl | rfl | rfl
    all_goals first | exact hdistinct | exact htypes | trivial

theorem same_value (key : Text) {ms ns : Members F} {v w : Json F}
    (h : Json.Same (.obj ms) (.obj ns)) (hns : (ns.map Prod.fst).Nodup) (hv : (key, v) ∈ ms)
    (hw : (key, w) ∈ ns) : Json.Same v w := by
  obtain ⟨w', hw', hsame⟩ := h.mem hv
  have hlookup := Json.lookup_of_mem hns hw
  rw [Json.lookup_of_mem hns hw'] at hlookup
  cases hlookup
  exact hsame

theorem same_str {s t : Text} (h : Json.Same (.str (F := F) s) (.str t)) : s = t := by
  have hvalue := h.eq_of_scalar rfl
  cases hvalue
  rfl

theorem alike_of_bound {a b : Row F} (hb : Json.Distinct b.bound)
    (hscalar : a.filterTypes.all Json.isScalar = true) (h : Json.Same a.bound b.bound) :
    a.Alike b := by
  have hkeys := (Json.distinct_obj.mp hb).1
  have htypes : Json.Same (.arr a.filterTypes) (.arr b.filterTypes) :=
    same_value (say "filter_types") h hkeys (by simp) (by simp)
  constructor
  · exact same_str (same_value (say "pair") h hkeys (by simp) (by simp))
  · exact same_str (same_value (say "symbol") h hkeys (by simp) (by simp))
  · exact same_str (same_value (say "quote") h hkeys (by simp) (by simp))
  · exact same_value (say "capabilities") h hkeys (by simp) (by simp)
  · exact (Json.arr.inj (same_arr_scalar htypes hscalar)).symm

theorem Regular.distinct {s : Snapshot F} (h : Regular cfg s) :
    Json.Distinct (.arr (s.pairs.map Row.bound)) := by
  rw [Json.Distinct, Json.distinctItems_iff]
  intro v hv
  obtain ⟨row, hrow, rfl⟩ := List.mem_map.mp hv
  obtain ⟨quote, hgood⟩ := h.1.good row hrow
  exact distinct_bound hgood (h.2 row hrow)

/-- Listings with one text have the same rows. -/
theorem alike_of_hashed {s t : Snapshot F} (hlaw : cfg.py.floats.toFloatFormat.Lawful)
    (hs : Regular cfg s) (ht : Regular cfg' t) (h : cfg.hashed s.pairs = cfg.hashed t.pairs) :
    List.Forall₂ Row.Alike s.pairs t.pairs := by
  have hsame := Json.dumps_inj hlaw hs.distinct ht.distinct h
  obtain ⟨_, ⟨⟩, hrows⟩ := same_arr hsame
  rw [List.forall₂_map_left_iff, List.forall₂_map_right_iff] at hrows
  rw [List.forall₂_iff_get] at hrows ⊢
  refine ⟨hrows.1, ?_⟩
  intro i hi hi'
  obtain ⟨quote, hgood⟩ := hs.1.good _ (List.get_mem s.pairs ⟨i, hi⟩)
  obtain ⟨quote', hgood'⟩ := ht.1.good _ (List.get_mem t.pairs ⟨i, hi'⟩)
  have hb := distinct_bound hgood' (ht.2 _ (List.get_mem t.pairs ⟨i, hi'⟩))
  exact alike_of_bound hb hgood.scalar (hrows.2 i hi hi')

/-- A selection with the hash of a listing that was returned, by whatever process and out of
whatever file: its row stands in that listing, or the digests of two texts are the same. -/
theorem selected_as_shown (hlaw : cfg.py.floats.toFloatFormat.Lawful) (hpy : cfg'.py = cfg.py)
    (hdigest : cfg'.digest = cfg.digest) (e : σ) (e' : τ) (turns turns' : List (Turn F))
    {now now' : F} {s : Snapshot F} {pair : String} {selected : Selected F}
    (hshown : .returned now s ∈ (({ env := e } : World F σ).run env cfg turns).log)
    (hselected : .selected now' pair selected ∈
      (({ env := e' } : World F τ).run env' cfg' turns').log)
    (hhash : selected.registryHash = s.registryHash) :
    (∃ row ∈ s.pairs, row.Alike selected.row) ∨ ∃ past payload rows quote,
      past ++ [.selected now' pair selected] <+:
          (({ env := e' } : World F τ).run env' cfg' turns').log ∧
        Chosen cfg' past now' pair selected payload rows quote ∧
        cfg.hashed rows ≠ cfg.hashed s.pairs ∧
        cfg.digest (cfg.hashed rows) = cfg.digest (cfg.hashed s.pairs) := by
  have hlaw' : cfg'.py.floats.toFloatFormat.Lawful := by
    rw [hpy]
    exact hlaw
  obtain ⟨past, hpast⟩ := History.exists_past hshown
  obtain ⟨hregular, -⟩ := registry_kept hlaw e turns _ _ hpast
  obtain ⟨past', hpast'⟩ := History.exists_past hselected
  obtain ⟨payload, rows, quote, hchosen⟩ := registry_kept hlaw' e' turns' _ _ hpast'
  have hrows := hchosen.asked.2
  have hregular' : Regular cfg' (cfg'.snapshotOf [] now' rows) := regular_snapshotOf hrows
  have hdigests : cfg.digest (cfg.hashed rows) = cfg.digest (cfg.hashed s.pairs) := by
    calc cfg.digest (cfg.hashed rows)
        = cfg'.registryHash rows := by rw [Config.registryHash, hdigest, hpy, Config.hashed]
      _ = selected.registryHash := hchosen.hash.symm
      _ = s.registryHash := hhash
      _ = cfg.digest (cfg.hashed s.pairs) := hregular.1.hash
  by_cases htext : cfg.hashed s.pairs = cfg.hashed rows
  · have halike := alike_of_hashed hlaw hregular hregular' htext
    exact .inl (exists_of_forall₂ halike _ hchosen.mem)
  · right
    exact ⟨past', payload, rows, quote, hpast', hchosen, fun hsame => htext hsame.symm, hdigests⟩

end shown

section sample

theorem listing_log : ∃ rows, sampleConfig.rowsOf samplePayload = .ok rows ∧
    sampleRun [.refresh false 1000 20] = [.asked 1000, .offered 1000 samplePayload,
      .returned 1000 (sampleConfig.snapshotOf (say "t") 1000 rows)] :=
  ⟨_, rfl, rfl⟩

theorem choosing_log : ∃ selected,
    sampleRun [.refresh true 1100 3, .requirePair "btc/usdt" 1300 20] = [.asked 1100,
      .offered 1100 samplePayload, .asked 1300, .offered 1300 samplePayload,
      .selected 1300 "btc/usdt" selected] :=
  ⟨_, rfl⟩

theorem choosing_hash {rows : List (Row ℤ)} {selected : Selected ℤ}
    (hrows : sampleConfig.rowsOf samplePayload = .ok rows)
    (hlog : sampleRun [.refresh true 1100 3, .requirePair "btc/usdt" 1300 20] = [.asked 1100,
      .offered 1100 samplePayload, .asked 1300, .offered 1300 samplePayload,
      .selected 1300 "btc/usdt" selected]) :
    selected.registryHash = sampleConfig.registryHash rows := by
  have hlaw : sampleConfig.py.floats.toFloatFormat.Lawful := Bus.wholeFloats_exact.toLawful
  have hlawful : History.Lawful (Allowed sampleConfig)
      (sampleRun [.refresh true 1100 3, .requirePair "btc/usdt" 1300 20]) :=
    (wellSourced_run hlaw () _).lawful
  rw [hlog] at hlawful
  obtain ⟨payload, rows', quote, hchosen⟩ := hlawful [.asked 1100, .offered 1100 samplePayload,
    .asked 1300, .offered 1300 samplePayload] _ List.prefix_rfl
  obtain ⟨⟨before, hbefore⟩, hrows'⟩ := hchosen.asked
  have hlast := congrArg List.getLast? hbefore
  have hpayload : samplePayload = payload := by simpa using hlast
  rw [← hpayload, hrows] at hrows'
  cases hrows'
  exact hchosen.hash

/-- One process has shown the markets; another, which has died at its work before, chooses one. -/
theorem selected_as_shown_sample : ∃ s selected,
    .returned 1000 s ∈ sampleRun [.refresh false 1000 20] ∧
    .selected 1300 "btc/usdt" selected ∈
      sampleRun [.refresh true 1100 3, .requirePair "btc/usdt" 1300 20] ∧
    ((∃ row ∈ s.pairs, row.Alike selected.row) ∨ ∃ past payload rows quote,
      past ++ [.selected 1300 "btc/usdt" selected] <+:
          sampleRun [.refresh true 1100 3, .requirePair "btc/usdt" 1300 20] ∧
        Chosen sampleConfig past 1300 "btc/usdt" selected payload rows quote ∧
        sampleConfig.hashed rows ≠ sampleConfig.hashed s.pairs ∧
        sampleConfig.digest (sampleConfig.hashed rows) =
          sampleConfig.digest (sampleConfig.hashed s.pairs)) := by
  have hlaw : sampleConfig.py.floats.toFloatFormat.Lawful := Bus.wholeFloats_exact.toLawful
  obtain ⟨rows, hrows, hlisted⟩ := listing_log
  obtain ⟨selected, hchosen⟩ := choosing_log
  have hshown : .returned 1000 (sampleConfig.snapshotOf (say "t") 1000 rows) ∈
      sampleRun [.refresh false 1000 20] := by
    rw [hlisted]
    simp
  have hselected : .selected 1300 "btc/usdt" selected ∈
      sampleRun [.refresh true 1100 3, .requirePair "btc/usdt" 1300 20] := by
    rw [hchosen]
    simp
  exact ⟨_, _, hshown, hselected,
    selected_as_shown hlaw rfl rfl () () _ _ hshown hselected (choosing_hash hrows hchosen)⟩

end sample

end SpotSidecar.PairControl.Registry
