import SpotSidecar.Collections.Dict
import Mathlib.Order.Lattice

/-! The confirmation tokens of the buttons: what was issued and may be pressed, and what has been
used. The clock may run backwards. -/
namespace SpotSidecar.Telegram

structure CallbackItem (τ α : Type) where
  expiry : τ
  action : String
  args : α
  deriving DecidableEq, Repr

structure CallbackStore (τ α : Type) where
  ttl : τ
  items : Dict String (CallbackItem τ α) := ∅
  used : Dict String τ := ∅

/-- A call with its clock reading. The token of an issue is the one that is drawn. -/
inductive CallbackCall (τ α : Type) where
  | issue (now : τ) (token action : String) (args : Option α)
  | consume (now : τ) (token : String)
  | cancel (now : τ) (token : String)
  deriving DecidableEq, Repr

inductive CallbackAnswer (α : Type) where
  | issued (token : String)
  | consumed (granted : Option (String × α)) (why : String)
  | canceled (ok : Bool) (why : String)
  deriving DecidableEq, Repr

def CallbackCall.issued {τ α : Type} : CallbackCall τ α → Option String
  | .issue _ token _ _ => some token
  | _ => none

namespace CallbackStore
variable {τ α : Type} [LinearOrder τ]

/-- `_cleanup` -/
def cleanup (s : CallbackStore τ α) (now : τ) : CallbackStore τ α :=
  { s with
    items := s.items.filter fun item => now ≤ item.expiry
    used := s.used.filter fun expiry => now ≤ expiry }

/-- The part of `consume` after the look at the used tokens. -/
def take (s : CallbackStore τ α) (now : τ) (token : String) :
    (Option (String × α) × String) × CallbackStore τ α :=
  let item := s.items.lookup token
  let s := cleanup { s with items := s.items.erase token } now
  match item with
  | none => ((none, "unknown callback"), s)
  | some item =>
    if item.expiry < now then ((none, "expired callback"), s)
    else ((some (item.action, item.args), "ok"),
      { s with used := AList.insert token item.expiry s.used })

def consume (s : CallbackStore τ α) (now : τ) (token : String) :
    (Option (String × α) × String) × CallbackStore τ α :=
  match s.used.lookup token with
  | some expiry =>
    if now ≤ expiry then ((none, "duplicate callback"), s)
    else take { s with used := s.used.erase token } now token
  | none => take s now token

def cancel (s : CallbackStore τ α) (now : τ) (token : String) :
    (Bool × String) × CallbackStore τ α :=
  let s := s.cleanup now
  let item := s.items.lookup token
  let s := { s with items := s.items.erase token }
  match item with
  | none => ((false, "unknown callback"), s)
  | some item =>
    if item.expiry < now then ((false, "expired callback"), s)
    else ((true, "canceled"), { s with used := AList.insert token item.expiry s.used })

/-- Every item of `s'` is an item of `s`. -/
def Within (s' s : CallbackStore τ α) : Prop :=
  s'.ttl = s.ttl ∧
    ∀ token item, s'.items.lookup token = some item → s.items.lookup token = some item

theorem cleanup_within (s : CallbackStore τ α) (now : τ) : (s.cleanup now).Within s := by
  constructor
  · rfl
  · intro token item hitem
    exact (Dict.lookup_filter.mp hitem).1

/-- What a button can find: a pending item that has not expired, which is then gone. -/
structure Found (s : CallbackStore τ α) (now : τ) (token : String) (item : CallbackItem τ α)
    (s' : CallbackStore τ α) : Prop where
  held : s.items.lookup token = some item
  live : now ≤ item.expiry
  gone : s'.items.lookup token = none

theorem take_spec (s : CallbackStore τ α) (now : τ) (token : String) :
    (s.take now token).2.Within s ∧ ∀ granted, (s.take now token).1.1 = some granted →
      ∃ item, granted = (item.action, item.args) ∧
        s.Found now token item (s.take now token).2 := by
  have hwithin : (cleanup { s with items := s.items.erase token } now).Within s := by
    constructor
    · rfl
    · intro k item hitem
      have herase := ((cleanup_within _ now).2 k item hitem)
      exact (Dict.lookup_erase_some.mp herase).2
  have hgone : (cleanup { s with items := s.items.erase token } now).items.lookup token = none := by
    cases h : (cleanup { s with items := s.items.erase token } now).items.lookup token with
    | none => rfl
    | some item =>
      have herase := (cleanup_within _ now).2 token item h
      exact absurd rfl (Dict.lookup_erase_some.mp herase).1
  unfold take
  cases hitem : s.items.lookup token with
  | none =>
    constructor
    · exact hwithin
    · intro granted hgranted
      cases hgranted
  | some item =>
    by_cases hexpired : item.expiry < now
    · simp only [hexpired, if_true]
      constructor
      · exact hwithin
      · intro granted hgranted
        cases hgranted
    · simp only [hexpired, if_false]
      constructor
      · exact hwithin
      · intro granted hgranted
        have hgranted := Option.some.inj hgranted
        exact ⟨item, hgranted.symm, hitem, not_lt.mp hexpired, hgone⟩

theorem consume_spec (s : CallbackStore τ α) (now : τ) (token : String) :
    (s.consume now token).2.Within s ∧ ∀ granted, (s.consume now token).1.1 = some granted →
      ∃ item, granted = (item.action, item.args) ∧
        s.Found now token item (s.consume now token).2 := by
  unfold consume
  cases hused : s.used.lookup token with
  | none => exact s.take_spec now token
  | some expiry =>
    by_cases hlive : now ≤ expiry
    · simp only [hlive, if_true]
      constructor
      · exact ⟨rfl, fun token item hitem => hitem⟩
      · intro granted hgranted
        cases hgranted
    · simp only [hlive, if_false]
      obtain ⟨hwithin, hgrant⟩ := take_spec { s with used := s.used.erase token } now token
      constructor
      · exact ⟨hwithin.1, hwithin.2⟩
      · intro granted hgranted
        obtain ⟨item, hitem, hfound⟩ := hgrant granted hgranted
        exact ⟨item, hitem, hfound.held, hfound.live, hfound.gone⟩

theorem cancel_spec (s : CallbackStore τ α) (now : τ) (token : String) :
    (s.cancel now token).2.Within s ∧ ((s.cancel now token).1.1 = true →
      ∃ item, s.Found now token item (s.cancel now token).2) := by
  have hwithin : Within { s.cleanup now with items := (s.cleanup now).items.erase token } s := by
    constructor
    · rfl
    · intro k item hitem
      exact (cleanup_within s now).2 k item (Dict.lookup_erase_some.mp hitem).2
  cases hitem : (s.cleanup now).items.lookup token with
  | none =>
    simp only [cancel, hitem]
    constructor
    · exact hwithin
    · intro hok
      cases hok
  | some item =>
    have hfound := (cleanup_within s now).2 token item hitem
    by_cases hexpired : item.expiry < now
    · simp only [cancel, hitem, hexpired, if_true]
      constructor
      · exact hwithin
      · intro hok
        cases hok
    · simp only [cancel, hitem, hexpired, if_false]
      constructor
      · exact hwithin
      · intro _
        exact ⟨item, hfound, not_lt.mp hexpired, AList.lookup_erase _ _⟩

variable [Add τ] [EmptyCollection α]

def issue (s : CallbackStore τ α) (now : τ) (token action : String) (args : Option α) :
    String × CallbackStore τ α :=
  let s := s.cleanup now
  let item := { expiry := now + s.ttl, action := action, args := args.getD ∅ }
  (token, { s with items := AList.insert token item s.items })

def step (s : CallbackStore τ α) : CallbackCall τ α → CallbackAnswer α × CallbackStore τ α
  | .issue now token action args =>
    let (token, s) := s.issue now token action args
    (.issued token, s)
  | .consume now token =>
    let ((granted, why), s) := s.consume now token
    (.consumed granted why, s)
  | .cancel now token =>
    let ((ok, why), s) := s.cancel now token
    (.canceled ok why, s)

/-- The calls of a run with their answers. -/
def trace (s : CallbackStore τ α) : List (CallbackCall τ α) →
    List (CallbackCall τ α × CallbackAnswer α)
  | [] => []
  | call :: calls => (call, (s.step call).1) :: trace (s.step call).2 calls

end CallbackStore

section runs
variable {τ α : Type} [Add τ] [EmptyCollection α]

/-- The call has used its token up. -/
def Spends (token : String) : CallbackCall τ α × CallbackAnswer α → Prop
  | (.consume _ t, .consumed granted _) => t = token ∧ granted.isSome = true
  | (.cancel _ t, .canceled ok _) => t = token ∧ ok = true
  | _ => False

def issuedTokens (past : List (CallbackCall τ α × CallbackAnswer α)) : List String :=
  past.filterMap fun e => e.1.issued

/-- A token that was issued with this item, and that nothing has used up since. -/
structure Pending (ttl : τ) (past : List (CallbackCall τ α × CallbackAnswer α)) (token : String)
    (item : CallbackItem τ α) : Prop where
  issued : ∃ now args, (.issue now token item.action args, .issued token) ∈ past ∧
    item.args = args.getD ∅ ∧ item.expiry = now + ttl
  unspent : ∀ e ∈ past, ¬ Spends token e

variable {ttl : τ} {past : List (CallbackCall τ α × CallbackAnswer α)}
  {token : String} {item : CallbackItem τ α} {e : CallbackCall τ α × CallbackAnswer α}

theorem Pending.mem_issuedTokens (h : Pending ttl past token item) :
    token ∈ issuedTokens past := by
  obtain ⟨now, args, hmem, -, -⟩ := h.issued
  exact List.mem_filterMap.mpr ⟨_, hmem, rfl⟩

theorem Pending.later (h : Pending ttl past token item) (he : ¬ Spends token e) :
    Pending ttl (past ++ [e]) token item := by
  constructor
  · obtain ⟨now, args, hmem, hargs, hexpiry⟩ := h.issued
    exact ⟨now, args, List.mem_append_left _ hmem, hargs, hexpiry⟩
  · intro e' he'
    rcases List.mem_append.mp he' with hpast | hlast
    · exact h.unspent e' hpast
    · rw [List.mem_singleton.mp hlast]
      exact he

namespace CallbackStore

/-- What holds between the calls: the items are pending, and only issued tokens are used up. -/
structure Sound (ttl : τ) (past : List (CallbackCall τ α × CallbackAnswer α))
    (s : CallbackStore τ α) : Prop where
  same_ttl : s.ttl = ttl
  pending : ∀ token item, s.items.lookup token = some item → Pending ttl past token item
  spent : ∀ token, ∀ e ∈ past, Spends token e → token ∈ issuedTokens past

variable {s s' : CallbackStore τ α}

/-- A call that issues nothing: whatever it uses up was pending and is gone. -/
theorem Sound.within (h : s.Sound ttl past) (hwithin : s'.Within s)
    (hspends : ∀ token, Spends token e →
      (∃ item, s.items.lookup token = some item) ∧ s'.items.lookup token = none) :
    s'.Sound ttl (past ++ [e]) := by
  constructor
  · rw [hwithin.1, h.same_ttl]
  · intro token item hitem
    apply (h.pending token item (hwithin.2 token item hitem)).later
    intro hspent
    rw [(hspends token hspent).2] at hitem
    cases hitem
  · intro token e' he' hspent
    have hold : token ∈ issuedTokens past := by
      rcases List.mem_append.mp he' with hpast | hlast
      · exact h.spent token e' hpast hspent
      · rw [List.mem_singleton.mp hlast] at hspent
        obtain ⟨⟨item, hitem⟩, -⟩ := hspends token hspent
        exact (h.pending token item hitem).mem_issuedTokens
    rw [issuedTokens, List.filterMap_append]
    exact List.mem_append_left _ hold

theorem Sound.empty (ttl : τ) : Sound ttl [] ({ ttl := ttl } : CallbackStore τ α) := by
  constructor
  · rfl
  · intro token item hitem
    cases hitem
  · intro token e he
    cases he

variable [LinearOrder τ]

theorem Sound.issue (h : s.Sound ttl past) {now : τ} {action : String} {args : Option α}
    (hfresh : token ∉ issuedTokens past) :
    (s.issue now token action args).2.Sound ttl
      (past ++ [(.issue now token action args, .issued token)]) := by
  have hclean := s.cleanup_within now
  constructor
  · exact h.same_ttl
  · intro t item hitem
    rcases Dict.lookup_insert_some.mp hitem with ⟨rfl, rfl⟩ | ⟨-, hold⟩
    · constructor
      · exact ⟨now, args, List.mem_append_right _ (List.mem_singleton_self _), rfl,
          congrArg (now + ·) h.same_ttl⟩
      · intro e he hspent
        rcases List.mem_append.mp he with hpast | hlast
        · exact hfresh (h.spent t e hpast hspent)
        · rw [List.mem_singleton.mp hlast] at hspent
          exact hspent
    · exact (h.pending t item (hclean.2 t item hold)).later (fun hspent => hspent)
  · intro t e he hspent
    rw [issuedTokens, List.filterMap_append]
    rcases List.mem_append.mp he with hpast | hlast
    · exact List.mem_append_left _ (h.spent t e hpast hspent)
    · rw [List.mem_singleton.mp hlast] at hspent
      exact hspent.elim

theorem Sound.step (h : s.Sound ttl past) (call : CallbackCall τ α)
    (hfresh : ∀ token, call.issued = some token → token ∉ issuedTokens past) :
    (s.step call).2.Sound ttl (past ++ [(call, (s.step call).1)]) := by
  cases call with
  | issue now token action args => exact h.issue (hfresh token rfl)
  | consume now token =>
    obtain ⟨hwithin, hgrant⟩ := s.consume_spec now token
    apply h.within hwithin
    intro t hspent
    obtain ⟨rfl, hsome⟩ := hspent
    obtain ⟨granted, hgranted⟩ := Option.isSome_iff_exists.mp hsome
    obtain ⟨item, -, hfound⟩ := hgrant granted hgranted
    exact ⟨⟨item, hfound.held⟩, hfound.gone⟩
  | cancel now token =>
    obtain ⟨hwithin, hcancel⟩ := s.cancel_spec now token
    apply h.within hwithin
    intro t hspent
    obtain ⟨rfl, hok⟩ := hspent
    obtain ⟨item, hfound⟩ := hcancel hok
    exact ⟨⟨item, hfound.held⟩, hfound.gone⟩

/-- The past of every entry of a trace leads to a sound store on which the entry is the step. -/
theorem Sound.trace (calls : List (CallbackCall τ α)) (h : s.Sound ttl past)
    (hfresh : (issuedTokens past ++ calls.filterMap (·.issued)).Nodup)
    {before later : List (CallbackCall τ α × CallbackAnswer α)}
    (htrace : s.trace calls = before ++ e :: later) :
    ∃ s' : CallbackStore τ α, s'.Sound ttl (past ++ before) ∧ (s'.step e.1).1 = e.2 := by
  induction calls generalizing s past before with
  | nil =>
    cases before with
    | nil => cases htrace
    | cons _ _ => cases htrace
  | cons call calls ih =>
    cases before with
    | nil =>
      have hhead : (call, (s.step call).1) = e := (List.cons.inj htrace).1
      subst hhead
      exact ⟨s, by simpa using h, rfl⟩
    | cons first before =>
      obtain ⟨hhead, htail⟩ := List.cons.inj htrace
      subst hhead
      have htokens :
          issuedTokens (past ++ [(call, (s.step call).1)]) ++ calls.filterMap (·.issued) =
          issuedTokens past ++ (call :: calls).filterMap (·.issued) := by
        cases hissued : call.issued <;> simp [issuedTokens, hissued]
      have hnew : ∀ token, call.issued = some token → token ∉ issuedTokens past := by
        intro token htoken hmem
        have hdisjoint := (List.nodup_append.mp hfresh).2.2 token hmem token
        simp [htoken] at hdisjoint
      obtain ⟨s', hs', hstep⟩ := ih (h.step call hnew) (by rw [htokens]; exact hfresh) htail
      exact ⟨s', by simpa using hs', hstep⟩

/-- What stands behind an action that is granted: its token was issued for it, has not expired by
the clock of the press, and was neither canceled nor pressed before. -/
structure Granted (ttl : τ) (past : List (CallbackCall τ α × CallbackAnswer α)) (now : τ)
    (token action : String) (args : α) : Prop where
  issued : ∃ issuedAt given, (.issue issuedAt token action given, .issued token) ∈ past ∧
    args = given.getD ∅ ∧ now ≤ issuedAt + ttl
  uncanceled : ∀ now' why, (.cancel now' token, .canceled true why) ∉ past
  unpressed : ∀ now' granted why, (.consume now' token, .consumed (some granted) why) ∉ past

/-- A button works at most once, whatever the order of the calls and the readings of the clock. -/
theorem trace_consumed (ttl : τ) (calls : List (CallbackCall τ α))
    (hfresh : (calls.filterMap (·.issued)).Nodup)
    {past later : List (CallbackCall τ α × CallbackAnswer α)} {now : τ} {token action why : String}
    {args : α}
    (htrace : ({ ttl := ttl } : CallbackStore τ α).trace calls =
      past ++ (.consume now token, .consumed (some (action, args)) why) :: later) :
    Granted ttl past now token action args := by
  obtain ⟨s, hs, hstep⟩ :=
    (Sound.empty ttl).trace calls (by simpa [issuedTokens] using hfresh) htrace
  rw [List.nil_append] at hs
  have hgranted : (s.consume now token).1.1 = some (action, args) :=
    (CallbackAnswer.consumed.inj hstep).1
  obtain ⟨item, hitem, hfound⟩ := (s.consume_spec now token).2 _ hgranted
  obtain ⟨rfl, rfl⟩ := Prod.mk.inj hitem
  have hpending := hs.pending token item hfound.held
  obtain ⟨issuedAt, given, hmem, hargs, hexpiry⟩ := hpending.issued
  constructor
  · exact ⟨issuedAt, given, hmem, hargs, hexpiry ▸ hfound.live⟩
  · intro now' why' hcancel
    exact hpending.unspent _ hcancel ⟨rfl, rfl⟩
  · intro now' granted why' hconsume
    exact hpending.unspent _ hconsume ⟨rfl, rfl⟩

/-- Pressed twice with a clock that is set back between the presses. -/
theorem trace_consumed_set_back :
    Granted (120 : ℕ) [(.issue 100 "t" "open_entry" (none : Option (List ℕ)), .issued "t")]
      40 "t" "open_entry" [] := by
  have htrace : ({ ttl := 120 } : CallbackStore ℕ (List ℕ)).trace
      [.issue 100 "t" "open_entry" none, .consume 40 "t", .consume 30 "t"] =
      [(.issue 100 "t" "open_entry" none, .issued "t")] ++
        (.consume 40 "t", .consumed (some ("open_entry", [])) "ok") ::
        [(.consume 30 "t", .consumed none "duplicate callback")] := by decide
  exact trace_consumed 120 _ (by decide) htrace

end CallbackStore
end runs
end SpotSidecar.Telegram
