import Mathlib.Data.List.DropRight
import SpotSidecar.Collections.Rotation

/-! The audit log: one line appended, after a rotation where the file would grow too large. -/
namespace SpotSidecar.Audit
open Rotation

abbrev Bytes := List UInt8

/-- The log in slot 0, and the backup `events.jsonl.i` in slot `i`. -/
abbrev Files := Slots Bytes

structure Config where
  maxBytes : ℕ := 10 * 1024 * 1024
  backups : ℕ := 5
  deriving DecidableEq

/-- A call of `audit` with its encoded line, and what goes wrong in it. The calls of all processes
take the lock of the log one after another; a process that dies gives it up. -/
structure Call where
  line : Bytes
  statFails : Bool := false
  /-- How many operations of the rotation are done when one fails or the process dies. -/
  stopped : Option ℕ := none
  /-- How many bytes of the line are written when that fails or the process dies. -/
  written : Option ℕ := none
  deriving DecidableEq

/-- A log whose size cannot be read counts as empty. -/
def Call.current (call : Call) (files : Files) : ℕ :=
  if call.statFails then 0 else ((files 0).getD []).length

/-- `_rotate` -/
def rotate (cfg : Config) (files : Files) (call : Call) : List Op :=
  if cfg.maxBytes = 0 ∨ cfg.backups = 0 then []
  else if call.current files + call.line.length ≤ cfg.maxBytes then []
  else plan cfg.backups

/-- What the call appends. -/
def Call.piece? (call : Call) : Option Bytes :=
  match call.stopped with
  | some _ => none
  | none => some (call.line.take (call.written.getD call.line.length))

/-- The operations of the rotation that the call does. -/
def Call.ops (cfg : Config) (files : Files) (call : Call) : List Op :=
  match call.stopped with
  | some n => (rotate cfg files call).take n
  | none => rotate cfg files call

def append (files : Files) (bytes : Bytes) : Files :=
  Function.update files 0 (some ((files 0).getD [] ++ bytes))

def audit (cfg : Config) (files : Files) (call : Call) : Files :=
  let rotated := runAll files (call.ops cfg files)
  match call.piece? with
  | none => rotated
  | some bytes => append rotated bytes

def run (cfg : Config) (calls : List Call) : Files := calls.foldl (audit cfg) fun _ => none

/-- What the calls appended, in order. -/
def written (calls : List Call) : List Bytes := calls.filterMap Call.piece?

/-! ### The log in pieces -/

abbrev Pieces := Slots (List Bytes)

def joined (pieces : Pieces) : Files := fun i => (pieces i).map List.flatten

/-- The call on a log that still knows its pieces. -/
def log (cfg : Config) (pieces : Pieces) (call : Call) : Pieces :=
  let rotated := runAll pieces (call.ops cfg (joined pieces))
  match call.piece? with
  | none => rotated
  | some bytes => Function.update rotated 0 (some ((rotated 0).getD [] ++ [bytes]))

theorem joined_log (cfg : Config) (pieces : Pieces) (call : Call) :
    joined (log cfg pieces call) = audit cfg (joined pieces) call := by
  have hrun : ∀ ops, runAll (joined pieces) ops = joined (runAll pieces ops) :=
    runAll_map List.flatten pieces
  unfold log audit
  cases call.piece? with
  | none => exact (hrun _).symm
  | some bytes =>
    simp only [hrun]
    generalize runAll pieces (call.ops cfg (joined pieces)) = rotated
    funext i
    simp only [joined, append, Function.update_apply]
    split
    · cases rotated 0 <;> simp
    · rfl

/-- The rotation of a call moves what is below a gap, or nothing. -/
theorem ops_cases (cfg : Config) (files : Files) (call : Call) :
    call.ops cfg files = [] ∨ ∃ cut, call.ops cfg files = (plan cfg.backups).take (cut + 1) ∧
      0 < cfg.backups := by
  have hall : rotate cfg files call = [] ∨
      rotate cfg files call = plan cfg.backups ∧ 0 < cfg.backups := by
    unfold rotate
    split
    · exact .inl rfl
    · split
      · exact .inl rfl
      · exact .inr ⟨rfl, by omega⟩
  unfold Call.ops
  obtain hnone | ⟨hplan, hpos⟩ := hall
  · left
    cases call.stopped <;> simp [hnone]
  · rw [hplan]
    cases call.stopped with
    | none =>
      refine .inr ⟨(plan cfg.backups).length, ?_, hpos⟩
      rw [List.take_of_length_le (Nat.le_succ _)]
    | some n =>
      cases n with
      | zero => exact .inl rfl
      | succ n => exact .inr ⟨n, rfl, hpos⟩

section Step
variable {cfg : Config} {pieces : Pieces} {call : Call} {k : ℕ}

/-- The pieces of the slots up to `k`, the oldest first. -/
def kept (pieces : Pieces) (k : ℕ) : List Bytes := (contents pieces k).flatten

theorem kept_put (pieces : Pieces) (bytes : Bytes) (k : ℕ) :
    kept (Function.update pieces 0 (some ((pieces 0).getD [] ++ [bytes]))) k =
      kept pieces k ++ [bytes] := by
  unfold kept
  induction k with
  | zero =>
    cases h : pieces 0 <;> simp [contents, h]
  | succ k ih =>
    rw [contents, contents, List.flatten_append, List.flatten_append, ih,
      Function.update_of_ne (Nat.succ_ne_zero k), List.append_assoc]

theorem kept_log (cfg : Config) (pieces : Pieces) (call : Call) (k : ℕ) :
    kept (log cfg pieces call) k =
      kept (runAll pieces (call.ops cfg (joined pieces))) k ++ call.piece?.toList := by
  unfold log
  cases call.piece? with
  | none => exact (List.append_nil _).symm
  | some bytes => exact kept_put _ bytes k

theorem kept_suffix_of_contents {pieces' : Pieces} {j : ℕ}
    (h : contents pieces k <:+ contents pieces' j) : kept pieces k <:+ kept pieces' j := by
  obtain ⟨earlier, heq⟩ := h
  unfold kept
  rw [← heq, List.flatten_append]
  exact List.suffix_append _ _

/-- The rotation of a call loses the oldest pieces or none. -/
theorem kept_ops_suffix :
    kept (runAll pieces (call.ops cfg (joined pieces))) cfg.backups <:+
    kept pieces cfg.backups := by
  obtain hnone | ⟨cut, hcut, hpos⟩ := ops_cases cfg (joined pieces) call
  · rw [hnone]
    exact List.suffix_rfl
  · rw [hcut, runAll_plan]
    obtain ⟨j, hj⟩ : ∃ j, cfg.backups = j + 1 := ⟨cfg.backups - 1, by omega⟩
    rw [hj]
    apply kept_suffix_of_contents
    rw [contents_moved_of_le (by omega) (Nat.le_refl _), contents]
    exact List.suffix_append _ _

/-- What a slot holds is one slot further up at most. -/
theorem kept_suffix_ops (hk : k + 1 ≤ cfg.backups) :
    kept pieces k <:+ kept (runAll pieces (call.ops cfg (joined pieces))) (k + 1) := by
  obtain hnone | ⟨cut, hcut, -⟩ := ops_cases cfg (joined pieces) call
  · rw [hnone]
    apply kept_suffix_of_contents
    rw [contents]
    exact List.suffix_append _ _
  · rw [hcut, runAll_plan]
    exact kept_suffix_of_contents (contents_suffix_moved hk)

end Step

theorem suffix_append_right {α : Type} {l l' : List α} (h : l <:+ l') (r : List α) :
    l ++ r <:+ l' ++ r := by
  obtain ⟨earlier, rfl⟩ := h
  exact ⟨earlier, (List.append_assoc _ _ _).symm⟩

theorem written_concat (calls : List Call) (call : Call) :
    written (calls ++ [call]) = written calls ++ call.piece?.toList := by
  unfold written
  rw [List.filterMap_append]
  cases h : call.piece? <;> simp [h]

/-- Over every run of calls, of any processes, with any failures and deaths inside them: the log
and its backups are whole pieces, each what one call appended; from the oldest backup on they are
the latest pieces in order; and what the last calls appended, as many as there are backups and one
more, is among them. -/
theorem latest_kept (cfg : Config) (calls : List Call) : ∃ pieces : Pieces,
    run cfg calls = joined pieces ∧
      kept pieces cfg.backups <:+ written calls ∧
      ∀ k ≤ cfg.backups, written (calls.rtake (k + 1)) <:+ kept pieces k := by
  induction calls using List.reverseRecOn with
  | nil =>
    refine ⟨fun _ => none, rfl, ?_, ?_⟩
    · have hempty : ∀ k, kept (fun _ => none) k = [] := by
        intro k
        unfold kept
        induction k with
        | zero => rfl
        | succ k ih =>
          rw [contents]
          exact ih
      rw [hempty]
      exact List.nil_suffix
    · intro k _
      rw [List.rtake_nil]
      exact List.nil_suffix
  | append_singleton calls call ih =>
    obtain ⟨pieces, hrun, hlatest, hlast⟩ := ih
    refine ⟨log cfg pieces call, ?_, ?_, ?_⟩
    · rw [run, List.foldl_append, ← run, hrun, joined_log]
      rfl
    · rw [kept_log, written_concat]
      exact suffix_append_right (kept_ops_suffix.trans hlatest) _
    · intro k hk
      rw [List.rtake_concat_succ, kept_log, written_concat]
      apply suffix_append_right
      cases k with
      | zero =>
        rw [List.rtake_zero]
        exact List.nil_suffix
      | succ k => exact (hlast k (by omega)).trans (kept_suffix_ops hk)

/-! ### How much is held -/

section Size
variable {cfg : Config} {files : Files} {call : Call}

/-- The bytes in the slots up to `k`. -/
def held (files : Files) (k : ℕ) : ℕ := (contents files k).flatten.length

theorem held_succ (files : Files) (k : ℕ) :
    held files (k + 1) = ((files (k + 1)).getD []).length + held files k := by
  unfold held
  rw [contents, List.flatten_append, List.length_append]
  cases files (k + 1) <;> simp

theorem held_append (files : Files) (bytes : Bytes) (k : ℕ) :
    held (append files bytes) k = held files k + bytes.length := by
  induction k with
  | zero =>
    unfold held append
    cases h : files 0 <;> simp [contents, h]
  | succ k ih =>
    rw [held_succ, held_succ, ih, append, Function.update_of_ne (Nat.succ_ne_zero k), Nat.add_assoc]

theorem runAll_plan_all (files : Files) (k : ℕ) : runAll files (plan k) = moved 0 k files := by
  have hlength : ∀ k, (shifts k).length = k := by
    intro k
    induction k with
    | zero => rfl
    | succ k ih => rw [shifts, List.length_cons, ih]
  have htake : (plan k).take (k + 1) = plan k :=
    List.take_of_length_le (by rw [plan, List.length_cons, hlength])
  rw [← htake, runAll_plan, Nat.sub_self]

theorem moved_eq_some {c k i : ℕ} {bytes : Bytes} (h : moved c k files i = some bytes) :
    ∃ j, files j = some bytes := by
  unfold moved at h
  split at h
  · exact ⟨i, h⟩
  · split at h
    · cases h
    · split at h
      · exact ⟨i - 1, h⟩
      · exact ⟨i, h⟩

/-- Where the log would grow too large the whole rotation comes first, and the log is new. -/
theorem rotate_cases (hmax : 0 < cfg.maxBytes) (hbackups : 0 < cfg.backups)
    (hstat : call.statFails = false) :
    (rotate cfg files call = [] ∧
        ((files 0).getD []).length + call.line.length ≤ cfg.maxBytes) ∨
      (rotate cfg files call = plan cfg.backups ∧
        cfg.maxBytes < ((files 0).getD []).length + call.line.length) := by
  have hcurrent : call.current files = ((files 0).getD []).length := by
    simp [Call.current, hstat]
  unfold rotate
  rw [if_neg (by omega), hcurrent]
  split
  · next hfits => exact .inl ⟨rfl, hfits⟩
  · next hfull => exact .inr ⟨rfl, by omega⟩

theorem audit_of_appended {bytes : Bytes} (h : call.piece? = some bytes) :
    audit cfg files call = append (runAll files (rotate cfg files call)) bytes := by
  have hstopped : call.stopped = none := by
    cases hstopped : call.stopped with
    | none => rfl
    | some n => simp [Call.piece?, hstopped] at h
  unfold audit Call.ops
  simp only [hstopped, h]

/-- No file is longer than the maximum, unless one line alone is. -/
theorem audit_sized (hmax : 0 < cfg.maxBytes) (hbackups : 0 < cfg.backups)
    (hstat : call.statFails = false) {i : ℕ} {bytes : Bytes}
    (h : audit cfg files call i = some bytes) :
    (∃ j, files j = some bytes) ∨ bytes.length ≤ cfg.maxBytes ∨ bytes <+: call.line := by
  have hmoved : ∀ {i bytes}, runAll files (call.ops cfg files) i = some bytes →
      ∃ j, files j = some bytes := by
    intro i bytes hrun
    obtain hnone | ⟨cut, hcut, -⟩ := ops_cases cfg files call
    · rw [hnone] at hrun
      exact ⟨i, hrun⟩
    · rw [hcut, runAll_plan] at hrun
      exact moved_eq_some hrun
  cases hpiece : call.piece? with
  | none =>
    simp only [audit, hpiece] at h
    exact .inl (hmoved h)
  | some line =>
    have hline : line <+: call.line := by
      unfold Call.piece? at hpiece
      split at hpiece
      · cases hpiece
      · cases hpiece
        exact List.take_prefix _ _
    rw [audit_of_appended hpiece, append, Function.update_apply] at h
    split at h
    · right
      cases h
      obtain ⟨hnone, hfits⟩ | ⟨hplan, -⟩ := rotate_cases hmax hbackups hstat
      · left
        have hle := hline.length_le
        rw [hnone, List.length_append]
        simp only [runAll, List.foldl_nil]
        omega
      · right
        rw [hplan, runAll_plan_all]
        simpa [moved] using hline
    · left
      obtain ⟨hnone, -⟩ | ⟨hplan, -⟩ := rotate_cases hmax hbackups hstat
      · rw [hnone] at h
        exact ⟨i, h⟩
      · rw [hplan, runAll_plan_all] at h
        exact moved_eq_some h

/-- Two files that follow each other are longer together than the maximum. -/
def Dense (cfg : Config) (files : Files) : Prop :=
  ∀ i < cfg.backups, ∀ older, files (i + 1) = some older →
    ∃ newer, files i = some newer ∧ cfg.maxBytes < older.length + newer.length

/-- All the slots are filled if the oldest one is, and hold half of what they could. -/
theorem Dense.held_lower (h : Dense cfg files) {k : ℕ} (hk : k ≤ cfg.backups) {bytes : Bytes}
    (hslot : files k = some bytes) :
    k * cfg.maxBytes + bytes.length ≤ 2 * held files k := by
  have hsharp :
      k * cfg.maxBytes + bytes.length + ((files 0).getD []).length ≤ 2 * held files k := by
    induction k generalizing bytes with
    | zero =>
      simp only [held, contents, hslot, Option.toList_some, List.flatten_cons,
        List.flatten_nil, List.append_nil, Option.getD_some]
      omega
    | succ k ih =>
      obtain ⟨newer, hnewer, hfull⟩ := h k (by omega) bytes hslot
      have hbelow := ih (by omega) hnewer
      rw [held_succ, hslot, Option.getD_some, Nat.add_mul]
      omega
  omega

theorem Dense.append (h : Dense cfg files) (line : Bytes) : Dense cfg (append files line) := by
  intro i hi older hslot
  rw [Audit.append, Function.update_of_ne (Nat.succ_ne_zero i)] at hslot
  obtain ⟨newer, hnewer, hfull⟩ := h i hi older hslot
  cases i with
  | zero =>
    refine ⟨newer ++ line, ?_, ?_⟩
    · rw [Audit.append, Function.update_self, hnewer]
      rfl
    · rw [List.length_append]
      omega
  | succ i =>
    refine ⟨newer, ?_, hfull⟩
    rw [Audit.append, Function.update_of_ne (Nat.succ_ne_zero i)]
    exact hnewer

theorem moved_succ {i k : ℕ} (hi : i < k) : moved 0 k files (i + 1) = files i := by
  simp only [moved, Nat.not_lt_zero, if_false, Nat.succ_ne_zero]
  rw [if_pos (by omega), Nat.succ_sub_one]

theorem Dense.rotate (h : Dense cfg files) {line : Bytes}
    (hfull : cfg.maxBytes < ((files 0).getD []).length + line.length) :
    Dense cfg (Audit.append (moved 0 cfg.backups files) line) := by
  have hslot : ∀ i < cfg.backups,
      Audit.append (moved 0 cfg.backups files) line (i + 1) = files i := by
    intro i hi
    rw [Audit.append, Function.update_of_ne (Nat.succ_ne_zero i), moved_succ hi]
  intro i hi older holder
  rw [hslot i hi] at holder
  cases i with
  | zero =>
    refine ⟨line, ?_, ?_⟩
    · simp [Audit.append, moved]
    · rw [holder] at hfull
      exact hfull
  | succ i =>
    rw [hslot i (by omega)]
    exact h i (by omega) older holder

/-- What one undisturbed call does to a dense log: all of it is held, or the oldest slot is in
use. -/
theorem Dense.audit (h : Dense cfg files) (hmax : 0 < cfg.maxBytes) (hbackups : 0 < cfg.backups)
    (hstat : call.statFails = false) {line : Bytes} (hpiece : call.piece? = some line)
    (hline : call.line = line) :
    Dense cfg (audit cfg files call) ∧
      ((∃ bytes, files cfg.backups = some bytes) →
        ∃ bytes, Audit.audit cfg files call cfg.backups = some bytes) ∧
      (files cfg.backups = none →
        held (Audit.audit cfg files call) cfg.backups = held files cfg.backups + line.length) := by
  obtain ⟨k, hk⟩ : ∃ k, cfg.backups = k + 1 := ⟨cfg.backups - 1, by omega⟩
  rw [audit_of_appended hpiece]
  obtain ⟨hnone, -⟩ | ⟨hplan, hfull⟩ := rotate_cases hmax hbackups hstat
  · rw [hnone, show runAll files [] = files from rfl]
    refine ⟨h.append line, ?_, fun _ => held_append _ _ _⟩
    rw [hk, Audit.append, Function.update_of_ne (Nat.succ_ne_zero k)]
    exact id
  · rw [hplan, runAll_plan_all]
    rw [hline] at hfull
    refine ⟨h.rotate hfull, ?_, ?_⟩
    · rintro ⟨bytes, hbytes⟩
      rw [hk] at hbytes
      obtain ⟨newer, hnewer, -⟩ := h k (by omega) bytes hbytes
      refine ⟨newer, ?_⟩
      rw [hk, Audit.append, Function.update_of_ne (Nat.succ_ne_zero k),
        moved_succ (Nat.lt_succ_self k)]
      exact hnewer
    · intro hlast
      have hmoved : held (moved 0 (k + 1) files) (k + 1) = held files k := by
        unfold held
        rw [contents_moved_of_le (Nat.zero_le _) (Nat.le_refl _)]
      rw [hk] at hlast
      rw [held_append, hk, hmoved, held_succ, hlast, Option.getD_none, List.length_nil,
        Nat.zero_add]

end Size

/-- Over every run in which the size of the log can be read: no file is longer than the maximum
unless a single line is; and where nothing else goes wrong either, all that was written is held, or
half of what all the backups could hold is. -/
theorem bounded_and_retained (cfg : Config) (calls : List Call) (hmax : 0 < cfg.maxBytes)
    (hbackups : 0 < cfg.backups) (hstat : ∀ call ∈ calls, call.statFails = false) :
    (∀ i bytes, run cfg calls i = some bytes →
        bytes.length ≤ cfg.maxBytes ∨ ∃ call ∈ calls, bytes <+: call.line) ∧
      ((∀ call ∈ calls, call.stopped = none ∧ call.written = none) →
        held (run cfg calls) cfg.backups = (written calls).flatten.length ∨
          cfg.backups * cfg.maxBytes ≤ 2 * held (run cfg calls) cfg.backups) := by
  constructor
  · induction calls using List.reverseRecOn with
    | nil =>
      intro i bytes h
      cases h
    | append_singleton calls call ih =>
      intro i bytes h
      rw [run, List.foldl_append, ← run] at h
      have hcall : call.statFails = false := hstat call (by simp)
      obtain ⟨j, hj⟩ | hle | hline := audit_sized hmax hbackups hcall h
      · obtain hle | ⟨earlier, hmem, hline⟩ :=
          ih (fun c hc => hstat c (List.mem_append_left _ hc)) j bytes hj
        · exact .inl hle
        · exact .inr ⟨earlier, List.mem_append_left _ hmem, hline⟩
      · exact .inl hle
      · exact .inr ⟨call, by simp, hline⟩
  · intro hclean
    have hall : Dense cfg (run cfg calls) ∧
        (held (run cfg calls) cfg.backups = (written calls).flatten.length ∨
          ∃ bytes, run cfg calls cfg.backups = some bytes) := by
      induction calls using List.reverseRecOn with
      | nil =>
        have hempty : ∀ k, held (fun _ => none) k = 0 := by
          intro k
          induction k with
          | zero => rfl
          | succ k ih =>
            rw [held_succ, ih]
            rfl
        refine ⟨?_, .inl (hempty _)⟩
        intro i _ older h
        cases h
      | append_singleton calls call ih =>
        obtain ⟨hdense, hheld⟩ := ih (fun c hc => hstat c (List.mem_append_left _ hc))
          fun c hc => hclean c (List.mem_append_left _ hc)
        obtain ⟨hstopped, hwritten⟩ := hclean call (by simp)
        have hpiece : call.piece? = some call.line := by
          simp [Call.piece?, hstopped, hwritten]
        obtain ⟨hdense', hfilled, hsame⟩ := hdense.audit hmax hbackups (hstat call (by simp))
          hpiece rfl
        rw [run, List.foldl_append, ← run]
        refine ⟨hdense', ?_⟩
        obtain hsum | hslot := hheld
        · cases hlast : run cfg calls cfg.backups with
          | none =>
            left
            rw [written_concat, hpiece, Option.toList_some, List.flatten_append,
              List.length_append, ← hsum]
            simpa using hsame hlast
          | some bytes => exact .inr (hfilled ⟨bytes, hlast⟩)
        · exact .inr (hfilled hslot)
    obtain ⟨hdense, hheld⟩ := hall
    obtain hsum | ⟨bytes, hbytes⟩ := hheld
    · exact .inl hsum
    · right
      have := hdense.held_lower (Nat.le_refl _) hbytes
      omega

/-- Three lines through a log of which two fit; the first is dropped with its backup. -/
theorem bounded_and_retained_sample :
    let calls : List Call := [{ line := [1, 1] }, { line := [2, 2] }, { line := [3, 3] }]
    held (run { maxBytes := 2, backups := 1 } calls) 1 = 4 ∧
      ((∀ i bytes, run { maxBytes := 2, backups := 1 } calls i = some bytes →
          bytes.length ≤ 2 ∨ ∃ call ∈ calls, bytes <+: call.line) ∧
        ((∀ call ∈ calls, call.stopped = none ∧ call.written = none) →
          held (run { maxBytes := 2, backups := 1 } calls) 1 =
              (written calls).flatten.length ∨
            1 * 2 ≤ 2 * held (run { maxBytes := 2, backups := 1 } calls) 1)) :=
  ⟨by decide, bounded_and_retained { maxBytes := 2, backups := 1 } _ (by decide) (by decide)
    (by decide)⟩

end SpotSidecar.Audit
