import Mathlib.Data.List.Infix
import Mathlib.Tactic.Common

/-! The threads of the user-data stream: the close callbacks of its sockets, the timer of a
reconnect, and the lock between them. -/
namespace SpotSidecar.UserStream

/-- How far a socket is. Its close callback reads whether the stream runs (`closing`), tries the
lock (`trying`), and has then done what it does for this close (`handled`). -/
inductive Phase where
  | connecting
  | live
  | closing
  | trying
  | handled
  deriving DecidableEq, Repr

/-- What the holder of the lock does next: `_schedule_reconnect` reconciles and starts the timer;
the timer reads whether the stream runs, connects, and releases the lock. -/
inductive Holder where
  | scheduling
  | waiting
  | connecting
  | releasing
  deriving DecidableEq, Repr

structure Stream where
  running : Bool := false
  sockets : List Phase := []
  /-- `self._ws` -/
  ws : Option ℕ := none
  lock : Option Holder := none
  deriving DecidableEq, Repr

inductive Act where
  | start
  | opened (i : ℕ)
  | closed (i : ℕ)
  | check (i : ℕ)
  | acquire (i : ℕ)
  | arm
  | fire
  | connect
  | release
  | stop
  deriving DecidableEq, Repr

namespace Stream

/-- `_connect`: a new socket is the current one. -/
def connect (s : Stream) : Stream :=
  { s with sockets := s.sockets ++ [.connecting], ws := some s.sockets.length }

/-- One step of one thread, where it is possible. -/
def step (s : Stream) : Act → Option Stream
  | .start =>
    if s.running = false ∧ s.sockets = [] then some { s with running := true }.connect else none
  | .opened i =>
    if s.sockets[i]? = some .connecting then some { s with sockets := s.sockets.set i .live }
    else none
  | .closed i =>
    if s.sockets[i]? = some .connecting ∨ s.sockets[i]? = some .live then
      some { s with sockets := s.sockets.set i .closing }
    else none
  | .check i =>
    if s.sockets[i]? = some .closing then
      some { s with sockets := s.sockets.set i (if s.running then .trying else .handled) }
    else none
  | .acquire i =>
    if s.sockets[i]? = some .trying then
      -- The lock is tried once; a callback that does not get it returns.
      some { s with
        sockets := s.sockets.set i .handled
        lock := s.lock.or (some .scheduling) }
    else none
  | .arm => if s.lock = some .scheduling then some { s with lock := some .waiting } else none
  | .fire =>
    if s.lock = some .waiting then
      some { s with lock := some (if s.running then .connecting else .releasing) }
    else none
  | .connect =>
    if s.lock = some .connecting then some { s.connect with lock := some .releasing } else none
  | .release => if s.lock = some .releasing then some { s with lock := none } else none
  | .stop => if s.running then some { s with running := false } else none

def run (s : Stream) (acts : List Act) : Option Stream := acts.foldlM step s

/-- A reconnect is scheduled or in progress: what its thread has still to do opens a new socket. -/
def Reconnecting (s : Stream) : Prop :=
  ∃ rest ∈ [[Act.arm, .fire, .connect], [.fire, .connect], [.connect]],
    ∃ t, s.run rest = some t ∧ t.ws = some s.sockets.length

/-- While the stream runs, a current socket whose close has been handled is about to be replaced. -/
def Kept (s : Stream) : Prop :=
  s.running = true → ∀ i, s.ws = some i → s.sockets[i]? = some .handled → s.Reconnecting

/-- The close callback of the current socket tries the lock after the reconnect that made the
socket has done all but release it. -/
def Swallows (s : Stream) (a : Act) : Prop :=
  s.running = true ∧ s.lock = some .releasing ∧ ∃ i, s.ws = some i ∧ a = .acquire i

theorem reconnecting_iff {s : Stream} (hrunning : s.running = true) :
    s.Reconnecting ↔ ∃ h, s.lock = some h ∧ h ≠ .releasing := by
  obtain ⟨running, sockets, ws, lock⟩ := s
  cases hrunning
  rcases lock with _ | ⟨_ | _ | _ | _⟩ <;>
    simp [Reconnecting, run, step, connect, List.foldlM]

theorem Reconnecting.holder {s : Stream} (h : s.Reconnecting) (hrunning : s.running = true) :
    ∃ h, s.lock = some h ∧ h ≠ .releasing :=
  (reconnecting_iff hrunning).mp h

/-- The step of a callback that leaves the lock alone: it does not handle the current close, or the
stream no longer runs. -/
theorem Kept.set {s : Stream} (h : s.Kept) {i : ℕ} {p : Phase}
    (hp : s.running = true → p ≠ .handled) :
    Kept { s with sockets := s.sockets.set i p } := by
  intro hrunning j hj hphase
  have hon : s.running = true := hrunning
  have hsame : ({ s with sockets := s.sockets.set i p } : Stream).Reconnecting ↔
      s.Reconnecting :=
    (reconnecting_iff hrunning).trans (reconnecting_iff hon).symm
  rw [hsame]
  apply h hon j hj
  rw [List.getElem?_set] at hphase
  split at hphase
  · split at hphase
    · exact absurd (Option.some.inj hphase) (hp hrunning)
    · cases hphase
  · exact hphase

theorem Kept.advance {s : Stream} {h : Holder} (hh : h ≠ .releasing) :
    Kept { s with lock := some h } := by
  intro hrunning _ _ _
  exact (reconnecting_iff hrunning).mpr ⟨h, rfl, hh⟩

theorem kept_step {s t : Stream} {a : Act} (hkept : s.Kept) (h : s.step a = some t)
    (hno : ¬s.Swallows a) : t.Kept := by
  cases a with
  | start =>
    simp only [step] at h
    split at h
    · next hfresh =>
      cases h
      intro _ i hi hphase
      simp [connect, hfresh.2] at hi hphase
      simp [← hi] at hphase
    · cases h
  | opened i =>
    simp only [step] at h
    split at h
    · cases h
      exact hkept.set fun _ => by decide
    · cases h
  | closed i =>
    simp only [step] at h
    split at h
    · cases h
      exact hkept.set fun _ => by decide
    · cases h
  | check i =>
    simp only [step] at h
    split at h
    · cases h
      apply hkept.set
      intro hrunning
      rw [if_pos hrunning]
      decide
    · cases h
  | acquire i =>
    simp only [step] at h
    split at h
    · cases h
      intro hrunning j hj hphase
      rw [reconnecting_iff hrunning]
      cases hlock : s.lock with
      | none => exact ⟨.scheduling, rfl, by decide⟩
      | some holder =>
        by_cases hreleasing : holder = .releasing
        · -- Another socket's callback: the current one is not handled by it.
          subst hreleasing
          have hij : i ≠ j := by
            rintro rfl
            exact hno ⟨hrunning, hlock, i, hj, rfl⟩
          have hon : s.running = true := hrunning
          have hbefore := hkept hon j hj (by simpa [List.getElem?_set, hij] using hphase)
          rw [reconnecting_iff hon, hlock] at hbefore
          simp at hbefore
        · exact ⟨holder, by simp, hreleasing⟩
    · cases h
  | arm =>
    simp only [step] at h
    split at h
    · cases h
      exact .advance (by decide)
    · cases h
  | fire =>
    simp only [step] at h
    split at h
    · cases h
      intro hrunning _ _ _
      rw [reconnecting_iff hrunning]
      have hrunning : s.running = true := hrunning
      rw [if_pos hrunning]
      exact ⟨.connecting, rfl, by decide⟩
    · cases h
  | connect =>
    simp only [step] at h
    split at h
    · cases h
      intro _ i hi hphase
      simp only [connect, Option.some.injEq] at hi hphase
      simp [← hi] at hphase
    · cases h
  | release =>
    simp only [step] at h
    split at h
    · next hreleasing =>
      cases h
      intro hrunning i hi hphase
      have hon : s.running = true := hrunning
      have hbefore := hkept hon i hi hphase
      rw [reconnecting_iff hon, hreleasing] at hbefore
      simp at hbefore
    · cases h
  | stop =>
    simp only [step] at h
    split at h
    · cases h
      intro hrunning
      cases hrunning
    · cases h

theorem not_kept_of_swallows {s t : Stream} {a : Act} (h : s.step a = some t)
    (hswallows : s.Swallows a) : ¬t.Kept := by
  obtain ⟨hrunning, hlock, i, hi, rfl⟩ := hswallows
  simp only [step] at h
  split at h
  · next htrying =>
    cases h
    intro hkept
    have hi_lt : i < s.sockets.length := (List.getElem?_eq_some_iff.mp htrying).1
    have hphase : (s.sockets.set i .handled)[i]? = some .handled := by
      simp [hi_lt]
    have hholder := (hkept hrunning i hi hphase).holder hrunning
    simp [hlock] at hholder
  · cases h

theorem run_concat {s : Stream} (acts : List Act) (a : Act) :
    s.run (acts ++ [a]) = (s.run acts).bind fun t => t.step a := by
  simp [run, List.foldlM_append]

/-- In every run of the stream's threads, every state that is reached keeps the reconnect of its
current socket if and only if no close callback of the current socket tries the lock between the
reconnect that made the socket and the release of the lock. -/
theorem reconnect_kept_iff (acts : List Act) {last : Stream} (hrun : run {} acts = some last) :
    (∀ before s, before <+: acts → run {} before = some s → s.Kept) ↔
      ∀ before a s, before ++ [a] <+: acts → run {} before = some s → ¬s.Swallows a := by
  have hnext : ∀ before a s, before ++ [a] <+: acts → run {} before = some s →
      ∃ t, s.step a = some t ∧ run {} (before ++ [a]) = some t := by
    intro before a s hbefore hs
    obtain ⟨after, rfl⟩ := hbefore
    have hsplit : run {} (before ++ [a] ++ after) =
        (run {} (before ++ [a])).bind fun t => t.run after := by
      simp [run, List.foldlM_append, Option.bind_assoc]
    rw [hsplit] at hrun
    obtain ⟨t, ht, -⟩ := Option.bind_eq_some_iff.mp hrun
    refine ⟨t, ?_, ht⟩
    rw [run_concat, hs] at ht
    exact ht
  constructor
  · intro hkept before a s hbefore hs hswallows
    obtain ⟨t, hstep, ht⟩ := hnext before a s hbefore hs
    exact not_kept_of_swallows hstep hswallows (hkept _ t hbefore ht)
  · intro hno before
    -- By induction over the steps that have been taken.
    induction before using List.reverseRecOn with
    | nil =>
      intro s _ hs
      cases hs
      intro hrunning
      cases hrunning
    | append_singleton before a ih =>
      intro s hbefore hs
      have hbefore' : before <+: acts := (List.prefix_append before [a]).trans hbefore
      rw [run_concat] at hs
      obtain ⟨r, hr, hstep⟩ := Option.bind_eq_some_iff.mp hs
      exact kept_step (ih r hbefore' hr) hstep (hno before a r hbefore hr)

/-- The first socket closes and is replaced; the second closes as soon as it is there. -/
def refused : List Act :=
  [.start, .opened 0, .closed 0, .check 0, .acquire 0, .arm, .fire, .connect, .closed 1, .check 1]

theorem reconnect_kept_replaced : ∃ s, run {} refused = some s ∧ s.Kept := by
  have hother : ∀ k < 10, (run {} (refused.take k)).map (·.lock) = some (some .releasing) →
      refused[k]? = some (.closed 1) ∨ refused[k]? = some (.check 1) := by decide
  refine ⟨_, rfl, (reconnect_kept_iff refused rfl).mpr ?_ refused _ (List.prefix_refl _) rfl⟩
  rintro before a s ⟨after, hafter⟩ hs ⟨-, hlock, i, -, rfl⟩
  have htake : refused.take before.length = before := by simp [← hafter]
  have hnext : refused[before.length]? = some (.acquire i) := by simp [← hafter]
  have hlt : before.length < 10 := (List.getElem?_eq_some_iff.mp hnext).1
  have := hother before.length hlt (by rw [htake, hs, Option.map_some, hlock])
  simp [hnext] at this

/-- Its close is swallowed: the stream runs, its socket has closed, and no thread is left. -/
theorem reconnect_kept_fails :
    ∃ s, run {} (refused ++ [.acquire 1, .release]) = some s ∧ s.running = true ∧ s.ws = some 1 ∧
      s.sockets = [.handled, .handled] ∧ s.lock = none ∧ ¬s.Kept := by
  refine ⟨_, rfl, rfl, rfl, rfl, rfl, ?_⟩
  intro hkept
  have hholder := (hkept rfl 1 rfl rfl).holder rfl
  simp at hholder

end Stream

end SpotSidecar.UserStream
