import Mathlib.Data.List.Sort
import SpotSidecar.State.Values

/-! The durable claims of Telegram updates: a table of rows that is pruned, and a next offset that
only grows. -/
namespace SpotSidecar.Telegram

inductive UpdateState where
  | claimed
  | handled
  | failed
  | uncertain
  deriving DecidableEq, Repr

/-- `FINAL_STATES` -/
def UpdateState.final : UpdateState → Bool
  | .claimed => false
  | _ => true

structure UpdateRow where
  updateId : ℤ
  state : UpdateState := .claimed
  claimedAt : ℚ
  completedAt : Option ℚ := none
  error : String := ""
  deriving DecidableEq, Repr

/-- The database file. A file without the row of the offset has `.absent` for it. -/
structure Database where
  version : ℤ := 0
  offset : Ident := .absent
  rows : List UpdateRow := []
  deriving DecidableEq, Repr

/-- What is found at the path of the older offset file. -/
inductive LegacyFile where
  | absent
  | unsafePath
  | malformed
  | offset (n : ℤ)
  deriving DecidableEq, Repr

def schemaVersion : ℤ := 1

/-- `_legacy_offset` -/
def LegacyFile.legacyOffset : LegacyFile → Except Exc (Option ℤ)
  | .absent => .ok none
  | .unsafePath => .error { kind := .runtime, text := "legacy Telegram offset path is unsafe" }
  | .malformed => .error { kind := .runtime, text := "legacy Telegram offset is malformed" }
  | .offset n =>
    if n < 0 then
      .error { kind := .runtime, text := "legacy Telegram offset must be non-negative" }
    else .ok (some n)

theorem LegacyFile.legacyOffset_ok {legacy : LegacyFile} {m : ℤ}
    (h : legacy.legacyOffset = .ok (some m)) : legacy = .offset m := by
  unfold legacyOffset at h
  split at h
  · cases h
  · cases h
  · cases h
  · split at h
    · cases h
    · obtain rfl := Option.some.inj (Except.ok.inj h)
      rfl

namespace Database

/-- `_offset_unlocked` -/
def offsetUnlocked (d : Database) : Except Exc ℤ :=
  match d.offset with
  | .int n =>
    if n < 0 then
      .error { kind := .runtime, text := "Telegram update offset metadata is negative" }
    else .ok n
  | .absent => .error { kind := .runtime, text := "Telegram update offset metadata is missing" }
  | _ => .error { kind := .runtime, text := "Telegram update offset metadata is malformed" }

/-- `_set_offset_unlocked` -/
def setOffsetUnlocked (d : Database) (n : ℤ) : Database :=
  if d.offset = .absent then d else { d with offset := .int n }

/-- The part of `_initialize` that imports an older offset. -/
def importLegacy (d : Database) : Option ℤ → Except Exc Database
  | some n => do
    let current ← d.offsetUnlocked
    return d.setOffsetUnlocked (max current n)
  | none => .ok d

/-- The claims that a stopped process has left become uncertain. -/
def recover (d : Database) (now : ℚ) : Database :=
  { d with rows := d.rows.map fun r => if r.state = .claimed then
      { r with state := .uncertain, completedAt := some now
               error := "process-stopped-after-durable-claim" } else r }

/-- `_initialize`, with the number of claims it has recovered -/
def initializeStore (d : Database) (legacy : LegacyFile) (now : ℚ) : Except Exc (ℕ × Database) :=
  if d.version ≠ 0 ∧ d.version ≠ schemaVersion then
    .error { kind := .runtime, text := "unsupported Telegram update schema version" }
  else do
    let d := if d.offset = .absent then { d with offset := .int 0 } else d
    let legacyOffset ← legacy.legacyOffset
    let d ← d.importLegacy legacyOffset
    return (d.rows.countP (·.state = .claimed), { d.recover now with version := schemaVersion })

/-- The ids of the final rows beyond the newest `retention` of them. -/
def stale (retention : ℕ) (rows : List UpdateRow) : List ℤ :=
  (((rows.filter (·.state ≠ .claimed)).map (·.updateId)).insertionSort (· ≥ ·)).drop retention

/-- `INSERT OR IGNORE` of a claim -/
def insertClaim (d : Database) (id : ℤ) (now : ℚ) : Bool × Database :=
  if d.rows.any (·.updateId = id) then (false, d)
  else (true, { d with rows := d.rows ++ [{ updateId := id, claimedAt := now }] })

def prune (d : Database) (retention : ℕ) : Database :=
  { d with rows := d.rows.filter fun r => r.updateId ∉ stale retention d.rows }

/-- `claim` -/
def claim (d : Database) (retention : ℕ) (id : ℤ) (now : ℚ) : Except Exc (Bool × Database) :=
  if ¬(0 ≤ id ∧ id < 2 ^ 63 - 1) then
    .error { kind := .value, text := "Telegram update_id is outside the SQLite range" }
  else do
    let current ← d.offsetUnlocked
    if id < current then return (false, d)
    else
      let (inserted, d) := d.insertClaim id now
      let d := d.setOffsetUnlocked (max current (id + 1))
      return (inserted, if inserted then d.prune retention else d)

/-- `complete` -/
def complete (d : Database) (id : ℤ) (state : UpdateState) (error : String) (now : ℚ) :
    Except Exc Database :=
  if state.final = false then
    .error { kind := .value, text := "invalid Telegram update final state" }
  else if d.rows.countP (fun r => r.updateId = id && r.state = .claimed) ≠ 1 then
    .error { kind := .runtime, text := "Telegram update claim is missing or already final" }
  else
    .ok { d with rows := d.rows.map fun r => if r.updateId = id ∧ r.state = .claimed then
      { r with state := state, completedAt := some now, error := error } else r }

/-- `uncertain_count` -/
def uncertainCount (d : Database) : ℕ := d.rows.countP (·.state = .uncertain)

/-- The ids in the table of updates. -/
def ids (d : Database) : List ℤ := d.rows.map (·.updateId)

/-- The next offset; a database without the row of it starts at zero. -/
def next (d : Database) : ℤ :=
  match d.offset with
  | .int n => n
  | _ => 0

theorem offsetUnlocked_ok {d : Database} {n : ℤ} (h : d.offsetUnlocked = .ok n) :
    d.offset = .int n ∧ 0 ≤ n := by
  unfold offsetUnlocked at h
  split at h
  · next heq =>
    split at h
    · cases h
    · next hneg =>
      obtain rfl := Except.ok.inj h
      exact ⟨heq, not_lt.mp hneg⟩
  · cases h
  · cases h

theorem ids_prune (d : Database) (retention : ℕ) : (d.prune retention).ids ⊆ d.ids :=
  List.map_subset _ List.filter_sublist.subset

theorem ids_insertClaim {d d' : Database} {id : ℤ} {now : ℚ} {inserted : Bool}
    (h : d.insertClaim id now = (inserted, d')) :
    d'.ids ⊆ id :: d.ids ∧ d'.offset = d.offset ∧ (inserted = false → id ∈ d.ids) := by
  unfold insertClaim at h
  split at h
  · next hany =>
    obtain ⟨rfl, rfl⟩ := Prod.mk.inj h
    obtain ⟨r, hr, hid⟩ := List.any_eq_true.mp hany
    refine ⟨List.subset_cons_self _ _, rfl, fun _ => ?_⟩
    exact (of_decide_eq_true hid) ▸ List.mem_map_of_mem hr
  · obtain ⟨rfl, rfl⟩ := Prod.mk.inj h
    refine ⟨?_, rfl, fun hfalse => by cases hfalse⟩
    intro x hx
    simp only [ids, List.map_append, List.map_cons, List.map_nil, List.mem_append,
      List.mem_singleton] at hx
    rcases hx with hx | rfl
    · exact List.mem_cons_of_mem _ hx
    · exact List.mem_cons_self

/-- What `claim` does: an id below the offset is refused, and any other moves the offset past it. -/
theorem claim_ok {d d' : Database} {retention : ℕ} {id : ℤ} {now : ℚ} {b : Bool}
    (h : d.claim retention id now = .ok (b, d')) :
    0 ≤ d.next ∧ d.offset = .int d.next ∧
      (id < d.next ∧ b = false ∧ d' = d ∨
        d.next ≤ id ∧ d'.offset = .int (id + 1) ∧ d'.ids ⊆ id :: d.ids ∧
        (b = false → id ∈ d.ids)) := by
  unfold claim at h
  split at h
  · cases h
  · obtain ⟨n, hn, h⟩ := except_bind_eq_ok.mp h
    obtain ⟨hoffset, hpos⟩ := offsetUnlocked_ok hn
    have hnext : d.next = n := by rw [next, hoffset]
    rw [hnext]
    refine ⟨hpos, hoffset, ?_⟩
    split at h
    · next hlt =>
      obtain ⟨rfl, rfl⟩ := Prod.mk.inj (Except.ok.inj h)
      exact .inl ⟨hlt, rfl, rfl⟩
    · next hge =>
      have hle := not_lt.mp hge
      rcases hins : d.insertClaim id now with ⟨inserted, d₁⟩
      obtain ⟨hids, hkept, hold⟩ := ids_insertClaim hins
      simp only [hins] at h
      obtain ⟨rfl, rfl⟩ := Prod.mk.inj (Except.ok.inj h)
      have hset : d₁.setOffsetUnlocked (max n (id + 1)) = { d₁ with offset := .int (id + 1) } := by
        rw [setOffsetUnlocked, hkept, hoffset, if_neg (by simp), max_eq_right (by omega)]
      refine .inr ⟨hle, ?_, ?_, hold⟩
      · rw [hset]
        split <;> rfl
      · rw [hset]
        split
        · exact List.Subset.trans (ids_prune _ _) hids
        · exact hids

theorem complete_ok {d d' : Database} {id : ℤ} {state : UpdateState} {error : String} {now : ℚ}
    (h : d.complete id state error now = .ok d') : d'.offset = d.offset ∧ d'.ids = d.ids := by
  unfold complete at h
  split at h
  · cases h
  · split at h
    · cases h
    · obtain rfl := Except.ok.inj h
      refine ⟨rfl, ?_⟩
      rw [ids, ids, List.map_map]
      refine List.map_congr_left fun r _ => ?_
      simp only [Function.comp_apply]
      split <;> rfl

theorem ids_recover (d : Database) (now : ℚ) : (d.recover now).ids = d.ids := by
  rw [ids, ids, recover, List.map_map]
  refine List.map_congr_left fun r _ => ?_
  simp only [Function.comp_apply]
  split <;> rfl

/-- The row of the offset is missing, or it is an offset. -/
def Readable (d : Database) : Prop := d.offset = .absent ∨ d.offset = .int d.next ∧ 0 ≤ d.next

/-- The offset after an import: the larger one of the database's and the older file's. -/
theorem importLegacy_ok {d d' : Database} {n : ℤ} (hd : d.offset = .int n)
    {legacyOffset : Option ℤ} (h : d.importLegacy legacyOffset = .ok d') :
    d' = { d with offset := .int (max n (legacyOffset.getD n)) } := by
  cases legacyOffset with
  | none =>
    obtain rfl := Except.ok.inj h
    simp only [Option.getD_none, max_self, ← hd]
  | some m =>
    obtain ⟨current, hcurrent, h⟩ := except_bind_eq_ok.mp h
    obtain ⟨hoffset, -⟩ := offsetUnlocked_ok hcurrent
    obtain rfl : n = current := by simpa [hd] using hoffset
    obtain rfl := Except.ok.inj h
    rw [setOffsetUnlocked, hd, if_neg (by simp), Option.getD_some]

/-- What opening the store does: the offset grows only by an older file that is ahead of it. -/
theorem initializeStore_ok {d d' : Database} {legacy : LegacyFile} {now : ℚ} {n : ℕ}
    (h : d.initializeStore legacy now = .ok (n, d')) (hd : d.Readable) :
    ∃ offset, d'.offset = .int offset ∧ d.next ≤ offset ∧ 0 ≤ offset ∧ d'.ids = d.ids ∧
      (offset = d.next ∨ legacy = .offset offset ∧ d.next < offset) := by
  unfold initializeStore at h
  split at h
  · cases h
  · generalize hd₁ : (if d.offset = .absent then { d with offset := .int 0 } else d) = d₁ at h
    have hoffset : d₁.offset = .int d.next ∧ 0 ≤ d.next ∧ d₁.rows = d.rows := by
      rcases hd with habsent | ⟨hint, hpos⟩
      · rw [if_pos habsent] at hd₁
        subst hd₁
        simp [next, habsent]
      · rw [if_neg (by simp [hint])] at hd₁
        subst hd₁
        exact ⟨hint, hpos, rfl⟩
    obtain ⟨legacyOffset, hlegacy, h⟩ := except_bind_eq_ok.mp h
    obtain ⟨d₂, hd₂, h⟩ := except_bind_eq_ok.mp h
    have hd₂ := importLegacy_ok hoffset.1 hd₂
    obtain ⟨-, rfl⟩ := Prod.mk.inj (Except.ok.inj h)
    have hids : ({ d₂.recover now with version := schemaVersion } : Database).ids = d.ids := by
      have hrec := ids_recover d₂ now
      rw [ids] at hrec ⊢
      rw [hrec, ids, ids, hd₂, hoffset.2.2]
    refine ⟨max d.next (legacyOffset.getD d.next), ?_, le_max_left _ _, ?_, hids, ?_⟩
    · rw [recover, hd₂]
    · exact hoffset.2.1.trans (le_max_left _ _)
    · cases legacyOffset with
      | none => exact .inl (by rw [Option.getD_none, max_self])
      | some m =>
        rw [Option.getD_some]
        rcases le_or_gt m d.next with hle | hlt
        · exact .inl (max_eq_left hle)
        · rw [max_eq_right hlt.le]
          exact .inr ⟨LegacyFile.legacyOffset_ok hlegacy, hlt⟩

end Database

/-- What can happen to the store. An operation that raises is rolled back. -/
inductive StoreOp where
  | claim (id : ℤ) (now : ℚ)
  | complete (id : ℤ) (state : UpdateState) (error : String) (now : ℚ)
  | restart (legacy : LegacyFile) (retention : ℤ) (now : ℚ)
  deriving DecidableEq, Repr

/-- `max(100, int(retention))` -/
def retentionOf (n : ℤ) : ℕ := (max 100 n).toNat

/-- The database with the open store, if there is one, and the ids it has claimed, the last
first. -/
structure StoreRun where
  db : Database := {}
  opened : Option ℕ := none
  claims : List ℤ := []
  deriving DecidableEq, Repr

namespace StoreRun

def step (r : StoreRun) : StoreOp → StoreRun
  | .claim id now =>
    match r.opened with
    | none => r
    | some retention =>
      match r.db.claim retention id now with
      | .ok (true, db) => { r with db := db, claims := id :: r.claims }
      | .ok (false, db) => { r with db := db }
      | .error _ => r
  | .complete id state error now =>
    match r.opened with
    | none => r
    | some _ =>
      match r.db.complete id state error now with
      | .ok db => { r with db := db }
      | .error _ => r
  | .restart legacy retention now =>
    match r.db.initializeStore legacy now with
    | .ok (_, db) => { r with db := db, opened := some (retentionOf retention) }
    | .error _ => { r with opened := none }

/-- A new database file and the operations on it. -/
def after (ops : List StoreOp) : StoreRun := ops.foldl step {}

end StoreRun

/-- The offset is ahead of every id in the table and of every id that was ever claimed. -/
structure Ahead (db : Database) (claims : List ℤ) : Prop where
  readable : db.Readable
  rows : ∀ id ∈ db.ids, id < db.next
  below : ∀ id ∈ claims, id < db.next
  nodup : claims.Nodup

namespace Ahead
variable {db db' : Database} {claims : List ℤ}

theorem start : Ahead {} [] where
  readable := .inl rfl
  rows _ h := absurd h List.not_mem_nil
  below _ h := absurd h List.not_mem_nil
  nodup := List.nodup_nil

theorem next_of_offset {n : ℤ} (h : db.offset = .int n) : db.next = n := by
  rw [Database.next, h]

/-- The same ids under an offset that is not smaller. -/
theorem grow (h : Ahead db claims) {n : ℤ} (hoffset : db'.offset = .int n) (hn : 0 ≤ n)
    (hle : db.next ≤ n) (hids : db'.ids = db.ids) : Ahead db' claims where
  readable := .inr (by rw [next_of_offset hoffset]; exact ⟨hoffset, hn⟩)
  rows id hid := by
    rw [next_of_offset hoffset]
    exact (h.rows id (hids ▸ hid)).trans_le hle
  below id hid := by
    rw [next_of_offset hoffset]
    exact (h.below id hid).trans_le hle
  nodup := h.nodup

/-- A claim succeeds only for an id that was never claimed, and the offset moves past it. -/
theorem claim (h : Ahead db claims) {retention : ℕ} {id : ℤ} {now : ℚ} {b : Bool}
    (hclaim : db.claim retention id now = .ok (b, db')) :
    (b = true ∧ db.next ≤ id ∧ db'.next = id + 1 ∧ Ahead db' (id :: claims)) ∨
      (b = false ∧ id < db.next ∧ db' = db) := by
  obtain ⟨hpos, hoffset, hcase⟩ := Database.claim_ok hclaim
  rcases hcase with ⟨hlt, rfl, rfl⟩ | ⟨hle, hoffset', hids, hold⟩
  · exact .inr ⟨rfl, hlt, rfl⟩
  · have hnext := next_of_offset hoffset'
    have hb : b = true := by
      by_contra hb
      have hmem := h.rows id (hold (Bool.not_eq_true _ ▸ hb))
      omega
    refine .inl ⟨hb, hle, hnext, ?_⟩
    exact {
      readable := .inr (by rw [hnext]; exact ⟨hoffset', by omega⟩)
      rows := fun x hx => by
        rw [hnext]
        rcases List.mem_cons.mp (hids hx) with rfl | hx
        · omega
        · have := h.rows x hx
          omega
      below := fun x hx => by
        rw [hnext]
        rcases List.mem_cons.mp hx with rfl | hx
        · omega
        · have := h.below x hx
          omega
      nodup := List.nodup_cons.mpr ⟨fun hmem => by
        have := h.below id hmem
        omega, h.nodup⟩ }

theorem complete (h : Ahead db claims) {id : ℤ} {state : UpdateState} {error : String} {now : ℚ}
    (hcomplete : db.complete id state error now = .ok db') :
    db'.next = db.next ∧ Ahead db' claims := by
  obtain ⟨hoffset, hids⟩ := Database.complete_ok hcomplete
  have hnext : db'.next = db.next := by rw [Database.next, Database.next, hoffset]
  refine ⟨hnext, ?_⟩
  exact {
    readable := by
      rw [Database.Readable, hoffset, hnext]
      exact h.readable
    rows := by
      rw [hids, hnext]
      exact h.rows
    below := by
      rw [hnext]
      exact h.below
    nodup := h.nodup }

/-- Opening the store keeps the order; the offset grows only by an older file ahead of it. -/
theorem initializeStore (h : Ahead db claims) {legacy : LegacyFile} {now : ℚ} {n : ℕ}
    (hopen : db.initializeStore legacy now = .ok (n, db')) :
    Ahead db' claims ∧ db.next ≤ db'.next ∧
      (db'.next = db.next ∨ legacy = .offset db'.next ∧ db.next < db'.next) := by
  obtain ⟨offset, hoffset, hle, hpos, hids, hcase⟩ := Database.initializeStore_ok hopen h.readable
  rw [next_of_offset hoffset]
  exact ⟨h.grow hoffset hpos hle hids, hle, hcase⟩

end Ahead

/-- One operation: what is ahead stays ahead, and the offset does not decrease. -/
theorem StoreRun.ahead_step {r : StoreRun} (h : Ahead r.db r.claims) (op : StoreOp) :
    Ahead (r.step op).db (r.step op).claims ∧ r.db.next ≤ (r.step op).db.next := by
  cases op with
  | claim id now =>
    simp only [step]
    split
    · exact ⟨h, le_rfl⟩
    · split
      · next heq =>
        rcases h.claim heq with ⟨-, hle, hnext, hahead⟩ | ⟨hfalse, -⟩
        · exact ⟨hahead, by simp only [hnext]; omega⟩
        · cases hfalse
      · next heq =>
        rcases h.claim heq with ⟨htrue, -⟩ | ⟨-, -, hdb⟩
        · cases htrue
        · rw [hdb]
          exact ⟨h, le_rfl⟩
      · exact ⟨h, le_rfl⟩
  | complete id state error now =>
    simp only [step]
    split
    · exact ⟨h, le_rfl⟩
    · split
      · next heq =>
        obtain ⟨hnext, hahead⟩ := h.complete heq
        exact ⟨hahead, hnext.ge⟩
      · exact ⟨h, le_rfl⟩
  | restart legacy retention now =>
    simp only [step]
    split
    · next heq =>
      obtain ⟨hahead, hle, -⟩ := h.initializeStore heq
      exact ⟨hahead, hle⟩
    · exact ⟨h, le_rfl⟩

theorem StoreRun.ahead_foldl (ops : List StoreOp) {r : StoreRun} (h : Ahead r.db r.claims) :
    Ahead (ops.foldl step r).db (ops.foldl step r).claims ∧
      r.db.next ≤ (ops.foldl step r).db.next := by
  induction ops generalizing r with
  | nil => exact ⟨h, le_rfl⟩
  | cons op ops ih =>
    obtain ⟨hstep, hle⟩ := ahead_step h op
    obtain ⟨hlater, hle'⟩ := ih hstep
    exact ⟨hlater, hle.trans hle'⟩

theorem StoreRun.ahead_after (ops : List StoreOp) : Ahead (after ops).db (after ops).claims :=
  (ahead_foldl ops Ahead.start).1

/-- Ids stay claimed: what was claimed once is not claimed by any later operation. -/
theorem StoreRun.claims_suffix (ops : List StoreOp) (r : StoreRun) :
    r.claims <:+ (ops.foldl step r).claims := by
  induction ops generalizing r with
  | nil => exact List.suffix_refl _
  | cons op ops ih =>
    refine List.IsSuffix.trans ?_ (ih (r.step op))
    cases op with
    | claim id now =>
      simp only [step]
      split
      · exact List.suffix_refl _
      · split
        · exact List.suffix_cons _ _
        · exact List.suffix_refl _
        · exact List.suffix_refl _
    | complete id state error now =>
      simp only [step]
      split
      · exact List.suffix_refl _
      · split <;> exact List.suffix_refl _
    | restart legacy retention now =>
      simp only [step]
      split <;> exact List.suffix_refl _

end SpotSidecar.Telegram
