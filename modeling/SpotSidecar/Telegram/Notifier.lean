import Mathlib.Data.Prod.Lex
import Mathlib.Data.String.Basic
import SpotSidecar.Collections.Feed

/-! The notifier of signals: the sidecar writes the row of a signal in two stages, and a poll of
another process announces what it reads past a cursor. -/
namespace SpotSidecar.Telegram

def inProgress : String := "IN_PROGRESS"

/-- A row of `processed_signals` -/
structure SignalRow where
  signalId : String
  pair : String
  candleTime : Option String := none
  result : String
  processedAt : String
  deriving DecidableEq, Repr

/-- Rows are read in the order of `(processed_at, signal_id)`. -/
def SignalRow.place (r : SignalRow) : String ×ₗ String := toLex (r.processedAt, r.signalId)

/-- What is written of a signal. Signals without an id are turned away before anything is. -/
structure SignalKey where
  signalId : String
  pair : String
  candleTime : Option String := none
  named : signalId ≠ "" := by decide
  deriving DecidableEq, Repr

/-- The cursor starts before the place of every signal. -/
theorem SignalKey.start_lt (s : SignalKey) (now : String) :
    (toLex ("", "") : String ×ₗ String) < toLex (now, s.signalId) := by
  have hpos : ∀ t : String, t ≠ "" → "" < t := by
    intro t ht
    rw [String.lt_iff_toList_lt]
    cases hchars : t.toList with
    | nil => exact absurd (String.toList_eq_nil_iff.mp hchars) ht
    | cons c cs => exact List.nil_lt_cons c cs
  rw [Prod.Lex.toLex_lt_toLex]
  by_cases hnow : now = ""
  · exact .inr ⟨hnow.symm, hpos _ s.named⟩
  · exact .inl (hpos _ hnow)

/-- `claim_signal` -/
def claimSignal (rows : List SignalRow) (s : SignalKey) (now : String) : List SignalRow :=
  if ∃ r ∈ rows, r.signalId = s.signalId then rows
  else rows ++ [{
    signalId := s.signalId
    pair := s.pair
    candleTime := s.candleTime
    result := inProgress
    processedAt := now }]

/-- `record_signal` -/
def recordSignal (rows : List SignalRow) (s : SignalKey) (result now : String) : List SignalRow :=
  if ∃ r ∈ rows, r.signalId = s.signalId then
    rows.map fun r =>
      if r.signalId = s.signalId then { r with result := result, processedAt := now } else r
  else rows ++ [{
    signalId := s.signalId
    pair := s.pair
    candleTime := s.candleTime
    result := result
    processedAt := now }]

/-- What the order manager records of a signal in the end. -/
inductive Verdict where
  | executed (simulation accepted : Bool) (message : String)
  | refused (reason : String)
  deriving DecidableEq, Repr

def Verdict.text : Verdict → String
  | .executed simulation accepted message =>
    (if simulation then "simulated:" else "") ++
      (if accepted then "accepted" else "rejected:" ++ message)
  | .refused reason => "rejected:" ++ reason

theorem Verdict.text_ne_empty (v : Verdict) : v.text ≠ "" := by
  intro h
  have h := congrArg String.toList h
  cases v with
  | executed simulation accepted message =>
    cases simulation <;> cases accepted <;> simp [text] at h
  | refused reason => simp [text] at h

/-! ### Messages -/

/-- What the file of a signal says of it. Metrics are texts as they are printed. -/
structure SignalPayload where
  strategy : Option String := none
  pair : Option String := none
  entryTag : Option String := none
  metrics : List (String × String) := []
  deriving DecidableEq, Repr

structure TradeView where
  lifecycleState : Option String
  averageEntryPrice : Option String
  filledQuantity : Option String
  protectedQuantity : Option String
  deriving DecidableEq, Repr

/-- `x or default` -/
def orElse (text : Option String) (default : String) : String :=
  (text.filter (· ≠ "")).getD default

/-- `safe` -/
def safe (text : Option String) : String := orElse text "—"

def isAccepted (result : String) : Bool := result = "accepted"

/-- What follows the first `rejected:` of a result that starts with it. -/
def rejectionReason (result : String) : String :=
  if "rejected:".toList <+: result.toList then
    String.ofList (result.toList.drop "rejected:".length)
  else result

/-- The lines of a message that tell the result. -/
def verdictLines (result : String) : List String :=
  if isAccepted result then ["Execution result: ACCEPTED"]
  else ["Execution result: REJECTED", "Reason: " ++ rejectionReason result]

def metricLabels : List (String × String) :=
  [("Close", "close"), ("RSI", "rsi"), ("RVOL", "rvol"), ("ADX", "adx"),
    ("5m MACD hist", "macdhist_5m")]

def metricLines (payload : SignalPayload) : List String :=
  metricLabels.filterMap fun (label, key) =>
    ((payload.metrics.lookup key).filter (· ≠ "")).map fun value => label ++ ": " ++ value

def tradeLines (trade : TradeView) : List String :=
  ["",
    "Trade state: " ++ safe trade.lifecycleState,
    "Entry price: " ++ safe trade.averageEntryPrice,
    "Filled BTC: " ++ safe trade.filledQuantity,
    "Protected BTC: " ++ safe trade.protectedQuantity]

def headingLines (row : SignalRow) (payload : SignalPayload) : List String :=
  ["📡 AUTOMATIC STRATEGY SIGNAL",
    "",
    "Strategy: " ++ orElse payload.strategy "IctSmcStrategy",
    "Pair: " ++ orElse (some row.pair) (orElse payload.pair "BTC/USDT"),
    "Candle: " ++ safe row.candleTime,
    "Signal ID: " ++ row.signalId,
    "Entry tag: " ++ safe payload.entryTag]

/-- `_signal_notification_text`, whose lines are joined and cut after 3900 characters. The trade is
what its row was read as, if it was. -/
def signalNotificationLines (row : SignalRow) (payload : SignalPayload)
    (trade : Option TradeView) : List String :=
  let result := orElse (some row.result) "unknown"
  headingLines row payload ++ verdictLines result ++ metricLines payload ++
    (if isAccepted result then (trade.map tradeLines).getD [] else []) ++
    ["", "This notification is read-only; it does not create or alter a strategy signal."]

structure Notice where
  row : SignalRow
  payload : SignalPayload := {}
  trade : Option TradeView := none
  deriving DecidableEq, Repr

def joined (lines : List String) : String := "\n".intercalate lines

/-- The message that is sent: the lines of the notification, cut after 3900 characters. -/
def Notice.text (n : Notice) : String :=
  String.ofList ((joined (signalNotificationLines n.row n.payload n.trade)).toList.take 3900)

/-- The message tells the result of its row. -/
def Notice.Tells (n : Notice) : Prop :=
  (joined (verdictLines n.row.result)).toList <:+: n.text.toList

instance (n : Notice) : Decidable n.Tells :=
  inferInstanceAs (Decidable ((joined (verdictLines n.row.result)).toList <:+: n.text.toList))

/-- A message of the row is not cut before the end of its result. -/
def SignalRow.Fits (row : SignalRow) (payload : SignalPayload) : Prop :=
  (joined (headingLines row payload ++ verdictLines row.result)).length ≤ 3900

instance (row : SignalRow) (payload : SignalPayload) : Decidable (row.Fits payload) :=
  inferInstanceAs (Decidable
    ((joined (headingLines row payload ++ verdictLines row.result)).length ≤ 3900))

theorem toList_joined_append {xs ys : List String} (hxs : xs ≠ []) (hys : ys ≠ []) :
    (joined (xs ++ ys)).toList = (joined xs).toList ++ '\n' :: (joined ys).toList := by
  rw [joined, String.intercalate_append_of_ne_nil hxs hys]
  simp [joined]

theorem verdictLines_ne_nil (result : String) : verdictLines result ≠ [] := by
  unfold verdictLines
  split <;> simp

/-- What is not cut tells the result. -/
theorem Notice.tells {n : Notice} (hresult : n.row.result ≠ "") (hfits : n.row.Fits n.payload) :
    n.Tells := by
  have hresult : orElse (some n.row.result) "unknown" = n.row.result := by
    simp [orElse, Option.filter, hresult]
  have hhead : headingLines n.row n.payload ≠ [] := by simp [headingLines]
  have hverdict := verdictLines_ne_nil n.row.result
  -- The heading and the result stand before everything that the cut may take away.
  obtain ⟨more, hlines⟩ : ∃ more, signalNotificationLines n.row n.payload n.trade =
      (headingLines n.row n.payload ++ verdictLines n.row.result) ++ more ∧ more ≠ [] := by
    rw [signalNotificationLines, hresult]
    exact ⟨_, by simp only [List.append_assoc]; rfl, by simp⟩
  have hkept : (joined (headingLines n.row n.payload ++ verdictLines n.row.result)).toList <+:
      n.text.toList := by
    rw [Notice.text, String.toList_ofList, hlines.1,
      toList_joined_append (by simp [hverdict]) hlines.2]
    apply List.prefix_take_iff.mpr
    exact ⟨List.prefix_append _ _, hfits⟩
  have hinfix : (joined (verdictLines n.row.result)).toList <:+:
      (joined (headingLines n.row n.payload ++ verdictLines n.row.result)).toList := by
    rw [toList_joined_append hhead hverdict]
    exact (List.suffix_append_of_suffix (List.suffix_cons _ _)).isInfix
  exact hinfix.trans hkept.isInfix

/-! ### The two processes -/

/-- What becomes of the sending of one message: it is not sent; it is sent, but the notifier ends
or is told otherwise before it commits; or it is sent and committed. -/
inductive Sending where
  | failed
  | uncommitted
  | committed
  deriving DecidableEq, Repr

/-- The table of the sidecar, the database of the notifier, and the rows that its poll has read and
not yet worked through. What is `sent`, of which signals the sidecar has `recorded` a result since
the notifier was set up, and which rows were `shown`, in the table at the setting up or at a poll,
nothing reads. -/
structure Notifier where
  rows : List SignalRow := []
  notified : List (String × String) := []
  bootstrapped : Bool := false
  cursor : String ×ₗ String := toLex ("", "")
  batch : List SignalRow := []
  sent : List Notice := []
  recorded : List String := []
  shown : List SignalRow := []
  deriving DecidableEq

def pollLimit : ℕ := 200

namespace Notifier
variable (w : Notifier)

def IsNotified (id : String) : Prop := ∃ n ∈ w.notified, n.1 = id

instance (id : String) : Decidable (w.IsNotified id) :=
  inferInstanceAs (Decidable (∃ n ∈ w.notified, n.1 = id))

/-- `INSERT OR IGNORE` of every signal there is -/
def bootstrap : Notifier :=
  if w.bootstrapped then w
  else { w with
    notified := w.rows.foldl (fun notified r =>
      if ∃ n ∈ notified, n.1 = r.signalId then notified
      else notified ++ [(r.signalId, r.result)]) w.notified
    bootstrapped := true
    shown := w.shown ++ w.rows }

def select : Notifier := { w with
  batch := Feed.next SignalRow.place w.cursor pollLimit w.rows
  shown := w.shown ++ w.rows }

/-- The body of the loop for one row. What raises ends the poll. -/
def announce (payload : SignalPayload) (trade : Option TradeView) (sending : Sending) : Notifier :=
  match w.batch with
  | [] => w
  | row :: rest =>
    if w.IsNotified row.signalId then { w with cursor := row.place, batch := rest }
    else
      let sent := w.sent ++ [{ row := row, payload := payload, trade := trade }]
      match sending with
      | .failed => { w with batch := [] }
      | .uncommitted => { w with batch := [], sent := sent }
      | .committed => { w with
          notified := w.notified ++ [(row.signalId, row.result)]
          cursor := row.place
          batch := rest
          sent := sent }

end Notifier

/-- What can happen, in any order. A restart of the notifier, and any failure of a poll, drops the
rows it has read. -/
inductive NotifierStep where
  | claim (signal : SignalKey) (now : String)
  | record (signal : SignalKey) (verdict : Verdict) (now : String)
  | poll
  | announce (payload : SignalPayload) (trade : Option TradeView) (sending : Sending)
  | restart
  deriving DecidableEq, Repr

def Notifier.step (w : Notifier) : NotifierStep → Notifier
  | .claim signal now => { w with rows := claimSignal w.rows signal now }
  | .record signal verdict now => { w with
      rows := recordSignal w.rows signal verdict.text now
      recorded := signal.signalId :: w.recorded }
  | .poll => w.bootstrap.select
  | .announce payload trade sending => w.announce payload trade sending
  | .restart => { w with batch := [] }

def Notifier.after (w : Notifier) (steps : List NotifierStep) : Notifier := steps.foldl step w

/-- The notifier set up beside a sidecar that has these rows. -/
def Notifier.start (rows : List SignalRow) : Notifier := ({ rows := rows } : Notifier).bootstrap

/-- A message was sent that tells this result of this signal. -/
def Notifier.Told (w : Notifier) (id result : String) : Prop :=
  ∃ n ∈ w.sent, n.row.signalId = id ∧ n.row.result = result ∧ n.Tells

/-- The final results that the cursor has passed were announced, and nothing unfinished was. -/
structure Notifier.Announced (w : Notifier) : Prop where
  passed : ∀ r ∈ w.rows, r.signalId ∈ w.recorded → r.place ≤ w.cursor → w.Told r.signalId r.result
  finished : ∀ n ∈ w.sent, n.row.result ≠ inProgress

/-- The condition on one step. No poll falls between the claim of a signal and the record of its
result, and no record follows a poll that has found the signal, or comes at a place before one that
a poll has found; the setting up counts as a poll. The message that is sent is not so long that its
result is cut. -/
def Notifier.Timely (w : Notifier) : NotifierStep → Prop
  | .poll => ∀ r ∈ w.rows, r.result = inProgress → r ∈ w.shown
  | .record signal _ now =>
    ∀ r ∈ w.shown, r.signalId ≠ signal.signalId ∧ r.place < toLex (now, signal.signalId)
  | .announce payload _ sending => sending = .committed → ∀ row ∈ w.batch.head?, row.Fits payload
  | _ => True

instance (w : Notifier) : (step : NotifierStep) → Decidable (w.Timely step)
  | .claim _ _ | .restart => inferInstanceAs (Decidable True)
  | .poll => inferInstanceAs (Decidable (∀ r ∈ w.rows, r.result = inProgress → r ∈ w.shown))
  | .record signal _ now => inferInstanceAs (Decidable
      (∀ r ∈ w.shown, r.signalId ≠ signal.signalId ∧ r.place < toLex (now, signal.signalId)))
  | .announce payload _ sending => inferInstanceAs (Decidable
      (sending = .committed → ∀ row ∈ w.batch.head?, row.Fits payload))

def Notifier.AllTimely : Notifier → List NotifierStep → Prop
  | _, [] => True
  | w, step :: steps => w.Timely step ∧ AllTimely (w.step step) steps

instance Notifier.decidableAllTimely :
    (w : Notifier) → (steps : List NotifierStep) → Decidable (w.AllTimely steps)
  | _, [] => inferInstanceAs (Decidable True)
  | w, step :: steps =>
    haveI := decidableAllTimely (w.step step) steps
    inferInstanceAs (Decidable (w.Timely step ∧ (w.step step).AllTimely steps))

/-- A result that is due will be reached by the cursor at its own row. -/
structure Notifier.Due (w : Notifier) (r : SignalRow) : Prop where
  unmarked : ¬ w.IsNotified r.signalId
  past : w.cursor < r.place
  reached : r.place ∈ w.batch.map SignalRow.place ∨ ∀ b ∈ w.batch, b.place < r.place

/-- The notifier goes by what was shown to it, and has marked what was unfinished there. -/
structure Notifier.Reading (w : Notifier) : Prop where
  bootstrapped : w.bootstrapped = true
  marked : ∀ id, w.IsNotified id → ∃ r ∈ w.shown, r.signalId = id
  unfinished : ∀ r ∈ w.shown, r.result = inProgress → w.IsNotified r.signalId
  read : w.batch ⊆ w.shown
  passed : w.cursor = toLex ("", "") ∨ ∃ r ∈ w.shown, r.place = w.cursor
  ordered : w.batch.Pairwise (Feed.Precedes SignalRow.place)

structure Notifier.Inv (w : Notifier) : Prop where
  reading : w.Reading
  due : ∀ r ∈ w.rows, r.signalId ∈ w.recorded → w.Told r.signalId r.result ∨ w.Due r
  present : ∀ id ∈ w.recorded, ∃ r ∈ w.rows, r.signalId = id
  named : ∀ r ∈ w.rows, r.signalId ∈ w.recorded → r.result ≠ ""
  same : ∀ s ∈ w.shown ++ w.rows, ∀ r ∈ w.rows, r.signalId = s.signalId →
    r.signalId ∈ w.recorded → r.result = s.result
  finished : ∀ n ∈ w.sent, n.row.result ≠ inProgress

theorem mem_claimSignal {rows : List SignalRow} {s : SignalKey} {now : String} {r : SignalRow}
    (h : r ∈ claimSignal rows s now) :
    r ∈ rows ∨ r.result = inProgress ∧ ∀ r' ∈ rows, r'.signalId ≠ r.signalId := by
  unfold claimSignal at h
  split at h
  · exact .inl h
  · next hnew =>
    push Not at hnew
    obtain h | h := List.mem_append.mp h
    · exact .inl h
    · right
      rw [List.mem_singleton.mp h]
      exact ⟨rfl, hnew⟩

theorem mem_recordSignal {rows : List SignalRow} {s : SignalKey} {result now : String}
    {r : SignalRow} (h : r ∈ recordSignal rows s result now) :
    r ∈ rows ∧ r.signalId ≠ s.signalId ∨
      r.signalId = s.signalId ∧ r.result = result ∧ r.processedAt = now := by
  unfold recordSignal at h
  split at h
  · obtain ⟨r', hr', rfl⟩ := List.mem_map.mp h
    by_cases hid : r'.signalId = s.signalId
    · right
      rw [if_pos hid]
      exact ⟨hid, rfl, rfl⟩
    · left
      rw [if_neg hid]
      exact ⟨hr', hid⟩
  · next hnew =>
    push Not at hnew
    obtain h | h := List.mem_append.mp h
    · exact .inl ⟨h, hnew r h⟩
    · right
      rw [List.mem_singleton.mp h]
      exact ⟨rfl, rfl, rfl⟩

theorem subset_claimSignal {rows : List SignalRow} {s : SignalKey} {now : String} :
    rows ⊆ claimSignal rows s now := by
  unfold claimSignal
  split
  · exact List.Subset.refl rows
  · exact List.subset_append_left _ _

theorem recordSignal_covers {rows : List SignalRow} (s : SignalKey) (result now : String)
    {r : SignalRow} (hr : r ∈ rows) :
    ∃ r' ∈ recordSignal rows s result now, r'.signalId = r.signalId := by
  unfold recordSignal
  split
  · refine ⟨_, List.mem_map_of_mem hr, ?_⟩
    split
    · rfl
    · rfl
  · exact ⟨r, List.mem_append_left _ hr, rfl⟩

theorem exists_recordSignal (rows : List SignalRow) (s : SignalKey) (result now : String) :
    ∃ r ∈ recordSignal rows s result now, r.signalId = s.signalId := by
  by_cases h : ∃ r ∈ rows, r.signalId = s.signalId
  · obtain ⟨r, hr, hid⟩ := h
    obtain ⟨r', hr', hid'⟩ := recordSignal_covers s result now hr
    exact ⟨r', hr', hid'.trans hid⟩
  · rw [recordSignal, if_neg h]
    exact ⟨_, List.mem_append_right _ (List.mem_singleton_self _), rfl⟩

namespace Notifier
variable {w : Notifier}

theorem Told.sent {id result : String} (h : w.Told id result) {w' : Notifier}
    (hsent : w.sent ⊆ w'.sent) : w'.Told id result := by
  obtain ⟨n, hn, htold⟩ := h
  exact ⟨n, hsent hn, htold⟩

/-- Rows that are dropped unread leave every result due. -/
theorem Due.dropped {r : SignalRow} (h : w.Due r) (w' : Notifier)
    (hnotified : w'.notified = w.notified) (hcursor : w'.cursor = w.cursor)
    (hbatch : w'.batch = []) : w'.Due r where
  unmarked := by
    have := h.unmarked
    unfold IsNotified at this ⊢
    rwa [hnotified]
  past := by
    rw [hcursor]
    exact h.past
  reached := by
    right
    simp [hbatch]

theorem Reading.dropped (h : w.Reading) : ({ w with batch := [] } : Notifier).Reading where
  bootstrapped := h.bootstrapped
  marked := h.marked
  unfinished := h.unfinished
  read := List.nil_subset _
  passed := h.passed
  ordered := .nil

theorem Inv.dropped (h : w.Inv) : ({ w with batch := [] } : Notifier).Inv where
  reading := h.reading.dropped
  due := fun r hr hrecorded =>
    (h.due r hr hrecorded).imp_right fun hdue => hdue.dropped _ rfl rfl rfl
  present := h.present
  named := h.named
  same := h.same
  finished := h.finished

/-- What the sidecar writes leaves the notifier as it is. -/
theorem Reading.written (h : w.Reading) (rows : List SignalRow) (recorded : List String) :
    ({ w with rows := rows, recorded := recorded } : Notifier).Reading :=
  ⟨h.bootstrapped, h.marked, h.unfinished, h.read, h.passed, h.ordered⟩

theorem Inv.claim (h : w.Inv) (s : SignalKey) (now : String) :
    (w.step (.claim s now)).Inv := by
  -- A row that the claim adds is of no signal with a result.
  have hold : ∀ r ∈ claimSignal w.rows s now, r.signalId ∈ w.recorded → r ∈ w.rows := by
    intro r hr hrecorded
    obtain hr | ⟨-, hnew⟩ := mem_claimSignal hr
    · exact hr
    · obtain ⟨r', hr', hid⟩ := h.present r.signalId hrecorded
      exact absurd hid (hnew r' hr')
  constructor
  · exact h.reading.written _ _
  · intro r hr hrecorded
    obtain htold | hdue := h.due r (hold r hr hrecorded) hrecorded
    · exact .inl htold
    · exact .inr ⟨hdue.unmarked, hdue.past, hdue.reached⟩
  · intro id hid
    obtain ⟨r, hr, hrid⟩ := h.present id hid
    exact ⟨r, subset_claimSignal hr, hrid⟩
  · intro r hr hrecorded
    exact h.named r (hold r hr hrecorded) hrecorded
  · intro s' hs' r hr hid hrecorded
    refine h.same s' ?_ r (hold r hr hrecorded) hid hrecorded
    obtain hs' | hs' := List.mem_append.mp hs'
    · exact List.mem_append_left _ hs'
    · exact List.mem_append_right _ (hold s' hs' (hid ▸ hrecorded))
  · exact h.finished

/-- A place past the cursor: it is past all that was shown. -/
theorem Reading.cursor_lt (h : w.Reading) {p : String ×ₗ String} (hstart : toLex ("", "") < p)
    (hshown : ∀ r ∈ w.shown, r.place < p) : w.cursor < p := by
  obtain hcursor | ⟨r, hr, hcursor⟩ := h.passed
  · rw [hcursor]
    exact hstart
  · rw [← hcursor]
    exact hshown r hr

theorem Inv.record (h : w.Inv) {s : SignalKey} {v : Verdict} {now : String}
    (htimely : w.Timely (.record s v now)) : (w.step (.record s v now)).Inv := by
  constructor
  · exact h.reading.written _ _
  · intro r hr hrecorded
    obtain ⟨hr, hne⟩ | ⟨hid, hresult, hat⟩ := mem_recordSignal hr
    · have hrecorded := (List.mem_cons.mp hrecorded).resolve_left hne
      obtain htold | hdue := h.due r hr hrecorded
      · exact .inl htold
      · exact .inr ⟨hdue.unmarked, hdue.past, hdue.reached⟩
    · right
      have hplace : r.place = toLex (now, s.signalId) := by
        rw [SignalRow.place, hid, hat]
      constructor
      · intro hmarked
        obtain ⟨r', hr', hid'⟩ := h.reading.marked r.signalId hmarked
        exact (htimely r' hr').1 (hid'.trans hid)
      · rw [hplace]
        exact h.reading.cursor_lt (s.start_lt now) fun r' hr' => (htimely r' hr').2
      · right
        intro b hb
        rw [hplace]
        exact (htimely b (h.reading.read hb)).2
  · intro id hid
    obtain rfl | hid := List.mem_cons.mp hid
    · exact exists_recordSignal _ _ _ _
    · obtain ⟨r, hr, hrid⟩ := h.present id hid
      obtain ⟨r', hr', hrid'⟩ := recordSignal_covers s v.text now hr
      exact ⟨r', hr', hrid'.trans hrid⟩
  · intro r hr hrecorded
    obtain ⟨hr, hne⟩ | ⟨-, hresult, -⟩ := mem_recordSignal hr
    · exact h.named r hr ((List.mem_cons.mp hrecorded).resolve_left hne)
    · rw [hresult]
      exact v.text_ne_empty
  · intro s' hs' r hr hid hrecorded
    obtain ⟨hr, hne⟩ | ⟨hrid, hresult, -⟩ := mem_recordSignal hr
    · have hrecorded := (List.mem_cons.mp hrecorded).resolve_left hne
      refine h.same s' ?_ r hr hid hrecorded
      obtain hs' | hs' := List.mem_append.mp hs'
      · exact List.mem_append_left _ hs'
      · obtain ⟨hs', -⟩ | ⟨hsid, -⟩ := mem_recordSignal hs'
        · exact List.mem_append_right _ hs'
        · exact absurd (hid.trans hsid) hne
    · obtain hs' | hs' := List.mem_append.mp hs'
      · exact absurd (hid.symm.trans hrid) (htimely s' hs').1
      · obtain ⟨-, hne⟩ | ⟨-, hresult', -⟩ := mem_recordSignal hs'
        · exact absurd (hid.symm.trans hrid) hne
        · rw [hresult, hresult']
  · exact h.finished

theorem Reading.poll (h : w.Reading) (htimely : w.Timely .poll) : w.select.Reading where
  bootstrapped := h.bootstrapped
  marked := by
    intro id hid
    obtain ⟨r, hr, hrid⟩ := h.marked id hid
    exact ⟨r, List.mem_append_left _ hr, hrid⟩
  unfinished := by
    intro r hr hresult
    obtain hr | hr := List.mem_append.mp hr
    · exact h.unfinished r hr hresult
    · exact h.unfinished r (htimely r hr hresult) hresult
  read := fun b hb => List.mem_append_right _ (Feed.mem_past.mp (List.mem_of_mem_take hb)).1
  passed := by
    refine h.passed.imp_right ?_
    rintro ⟨r, hr, hcursor⟩
    exact ⟨r, List.mem_append_left _ hr, hcursor⟩
  ordered := Feed.next_ordered

theorem Inv.poll (h : w.Inv) (htimely : w.Timely .poll) : (w.step .poll).Inv := by
  have hstep : w.step .poll = w.select := by
    rw [Notifier.step, bootstrap, if_pos h.reading.bootstrapped]
  rw [hstep]
  constructor
  · exact h.reading.poll htimely
  · intro r hr hrecorded
    obtain htold | hdue := h.due r hr hrecorded
    · exact .inl htold
    · right
      refine ⟨hdue.unmarked, hdue.past, ?_⟩
      by_cases hread : r.place ∈ w.select.batch.map SignalRow.place
      · exact .inl hread
      · right
        intro b hb
        have hcovered : r ∈ w.select.batch ∨
            ∀ b ∈ w.select.batch, Feed.Precedes SignalRow.place b r :=
          Feed.mem_next_or hr hdue.past
        obtain hmem | hbefore := hcovered
        · exact absurd (List.mem_map_of_mem hmem) hread
        · have hne : b.place ≠ r.place := by
            intro heq
            rw [← heq] at hread
            exact hread (List.mem_map_of_mem hb)
          exact lt_of_le_of_ne (hbefore b hb) hne
  · exact h.present
  · exact h.named
  · intro s hs
    obtain hs | hs := List.mem_append.mp hs
    · exact h.same s hs
    · exact h.same s (List.mem_append_right _ hs)
  · exact h.finished

/-- The cursor at the first row that is read has passed only the results of its signal. -/
theorem Due.passing {r row : SignalRow} {rest : List SignalRow} (h : w.Due r)
    (hbatch : w.batch = row :: rest)
    (hordered : (row :: rest).Pairwise (Feed.Precedes SignalRow.place))
    (hne : r.signalId ≠ row.signalId) :
    row.place < r.place ∧
      (r.place ∈ rest.map SignalRow.place ∨ ∀ b ∈ rest, b.place < r.place) := by
  have hplace : r.place ≠ row.place := by
    intro heq
    exact hne (congrArg (fun p => (ofLex p).2) heq)
  have hreached := h.reached
  rw [hbatch] at hreached
  obtain hread | hahead := hreached
  · have hread : r.place ∈ rest.map SignalRow.place :=
      (List.mem_cons.mp hread).resolve_left hplace
    obtain ⟨b, hb, hbr⟩ := List.mem_map.mp hread
    have hle : row.place ≤ b.place := List.rel_of_pairwise_cons hordered hb
    rw [hbr] at hle
    exact ⟨lt_of_le_of_ne hle hplace.symm, .inl hread⟩
  · exact ⟨hahead row (by simp), .inr fun b hb => hahead b (List.mem_cons_of_mem row hb)⟩

section Announcing
variable {row : SignalRow} {rest : List SignalRow} {payload : SignalPayload}
  {trade : Option TradeView}

theorem Reading.shown (h : w.Reading) (hbatch : w.batch = row :: rest) : row ∈ w.shown :=
  h.read (by simp [hbatch])

/-- The cursor is set to the place of the first row that was read. -/
theorem Reading.advanced (h : w.Reading) (hbatch : w.batch = row :: rest) :
    ({ w with cursor := row.place, batch := rest } : Notifier).Reading where
  bootstrapped := h.bootstrapped
  marked := h.marked
  unfinished := h.unfinished
  read := by
    intro b hb
    exact h.read (by simp [hbatch, hb])
  passed := .inr ⟨row, h.shown hbatch, rfl⟩
  ordered := by
    have hordered := h.ordered
    rw [hbatch] at hordered
    exact hordered.of_cons

/-- The row of a signal that is marked is passed over. -/
theorem Inv.passed_over (h : w.Inv) (hbatch : w.batch = row :: rest)
    (hnotified : w.IsNotified row.signalId) :
    ({ w with cursor := row.place, batch := rest } : Notifier).Inv := by
  have hordered := h.reading.ordered
  rw [hbatch] at hordered
  constructor
  · exact h.reading.advanced hbatch
  · intro r hr hrecorded
    obtain htold | hdue := h.due r hr hrecorded
    · exact .inl htold
    · right
      have hne : r.signalId ≠ row.signalId := by
        intro heq
        apply hdue.unmarked
        rw [heq]
        exact hnotified
      obtain ⟨hpast, hreached⟩ := hdue.passing hbatch hordered hne
      exact ⟨hdue.unmarked, hpast, hreached⟩
  · exact h.present
  · exact h.named
  · exact h.same
  · exact h.finished

/-- A row that was shown unfinished is marked. -/
theorem Reading.final (h : w.Reading) (hbatch : w.batch = row :: rest)
    (hnotified : ¬ w.IsNotified row.signalId) : row.result ≠ inProgress := by
  intro hresult
  exact hnotified (h.unfinished row (h.shown hbatch) hresult)

theorem Inv.finished_append (h : w.Inv) (hfinal : row.result ≠ inProgress) :
    ∀ n ∈ w.sent ++ [{ row := row, payload := payload, trade := trade }],
      n.row.result ≠ inProgress := by
  intro n hn
  obtain hn | hn := List.mem_append.mp hn
  · exact h.finished n hn
  · rw [List.mem_singleton.mp hn]
    exact hfinal

theorem Inv.uncommitted (h : w.Inv) (hfinal : row.result ≠ inProgress) :
    ({ w with
      batch := []
      sent := w.sent ++ [{ row := row, payload := payload, trade := trade }] } : Notifier).Inv := by
  constructor
  · exact ⟨h.reading.bootstrapped, h.reading.marked, h.reading.unfinished, List.nil_subset _,
      h.reading.passed, .nil⟩
  · intro r hr hrecorded
    obtain htold | hdue := h.due r hr hrecorded
    · exact .inl (htold.sent (List.subset_append_left _ _))
    · exact .inr (hdue.dropped _ rfl rfl rfl)
  · exact h.present
  · exact h.named
  · exact h.same
  · exact h.finished_append hfinal

theorem Reading.committed (h : w.Reading) (hbatch : w.batch = row :: rest) :
    ({ w with
      notified := w.notified ++ [(row.signalId, row.result)]
      cursor := row.place
      batch := rest
      sent := w.sent ++ [{ row := row, payload := payload, trade := trade }] } :
      Notifier).Reading where
  bootstrapped := h.bootstrapped
  marked := by
    rintro id ⟨n, hn, hid⟩
    obtain hn | hn := List.mem_append.mp hn
    · exact h.marked id ⟨n, hn, hid⟩
    · rw [List.mem_singleton.mp hn] at hid
      exact ⟨row, h.shown hbatch, hid⟩
  unfinished := by
    intro r hr hresult
    obtain ⟨n, hn, hid⟩ := h.unfinished r hr hresult
    exact ⟨n, List.mem_append_left _ hn, hid⟩
  read := (h.advanced hbatch).read
  passed := (h.advanced hbatch).passed
  ordered := (h.advanced hbatch).ordered

theorem Inv.committed (h : w.Inv) (hbatch : w.batch = row :: rest)
    (hfinal : row.result ≠ inProgress) (hfits : row.Fits payload) :
    ({ w with
      notified := w.notified ++ [(row.signalId, row.result)]
      cursor := row.place
      batch := rest
      sent := w.sent ++ [{ row := row, payload := payload, trade := trade }] } : Notifier).Inv := by
  have hordered := h.reading.ordered
  rw [hbatch] at hordered
  constructor
  · exact h.reading.committed hbatch
  · intro r hr hrecorded
    by_cases hid : r.signalId = row.signalId
    · left
      have hsame : r.result = row.result :=
        h.same row (List.mem_append_left _ (h.reading.shown hbatch)) r hr hid hrecorded
      have htells : ({ row := row, payload := payload, trade := trade } : Notice).Tells :=
        Notice.tells (hsame ▸ h.named r hr hrecorded) hfits
      have hmem : ({ row := row, payload := payload, trade := trade } : Notice) ∈
          w.sent ++ [{ row := row, payload := payload, trade := trade }] :=
        List.mem_append_right _ (List.mem_singleton_self _)
      exact ⟨_, hmem, hid.symm, hsame.symm, htells⟩
    · obtain htold | hdue := h.due r hr hrecorded
      · exact .inl (htold.sent (List.subset_append_left _ _))
      · right
        obtain ⟨hpast, hreached⟩ := hdue.passing hbatch hordered hid
        have hunmarked : ¬ ∃ n ∈ w.notified ++ [(row.signalId, row.result)], n.1 = r.signalId := by
          rintro ⟨n, hn, hnid⟩
          obtain hn | hn := List.mem_append.mp hn
          · exact hdue.unmarked ⟨n, hn, hnid⟩
          · rw [List.mem_singleton.mp hn] at hnid
            exact hid hnid.symm
        exact ⟨hunmarked, hpast, hreached⟩
  · exact h.present
  · exact h.named
  · exact h.same
  · exact h.finished_append hfinal

theorem Inv.announce (h : w.Inv) {sending : Sending}
    (htimely : w.Timely (.announce payload trade sending)) :
    (w.step (.announce payload trade sending)).Inv := by
  show (w.announce payload trade sending).Inv
  unfold Notifier.announce
  cases hbatch : w.batch with
  | nil => exact h
  | cons row rest =>
    dsimp only
    by_cases hnotified : w.IsNotified row.signalId
    · rw [if_pos hnotified]
      exact h.passed_over hbatch hnotified
    · rw [if_neg hnotified]
      have hfinal := h.reading.final hbatch hnotified
      cases sending with
      | failed => exact h.dropped
      | uncommitted => exact h.uncommitted hfinal
      | committed => exact h.committed hbatch hfinal (htimely rfl row (by rw [hbatch]; rfl))

end Announcing

theorem Inv.step (h : w.Inv) {step : NotifierStep} (htimely : w.Timely step) :
    (w.step step).Inv := by
  cases step with
  | claim signal now => exact h.claim signal now
  | record signal verdict now => exact h.record htimely
  | poll => exact h.poll htimely
  | announce payload trade sending => exact h.announce htimely
  | restart => exact h.dropped

theorem Inv.after (h : w.Inv) {steps : List NotifierStep} (htimely : w.AllTimely steps) :
    (w.after steps).Inv := by
  induction steps generalizing w with
  | nil => exact h
  | cons step steps ih => exact ih (h.step htimely.1) htimely.2

/-- The setting up marks every signal there is, and no other. -/
theorem marked_foldl {rows : List SignalRow} {notified : List (String × String)} {id : String} :
    (∃ n ∈ rows.foldl (fun notified r =>
      if ∃ n ∈ notified, n.1 = r.signalId then notified
      else notified ++ [(r.signalId, r.result)]) notified, n.1 = id) ↔
      (∃ n ∈ notified, n.1 = id) ∨ ∃ r ∈ rows, r.signalId = id := by
  induction rows generalizing notified with
  | nil => simp
  | cons r rows ih =>
    rw [List.foldl_cons, ih]
    split
    · next hmarked =>
      obtain ⟨n, hn, hnid⟩ := hmarked
      constructor
      · rintro (hold | ⟨r', hr', hid⟩)
        · exact .inl hold
        · exact .inr ⟨r', List.mem_cons_of_mem _ hr', hid⟩
      · rintro (hold | ⟨r', hr', hid⟩)
        · exact .inl hold
        · obtain rfl | hr' := List.mem_cons.mp hr'
          · exact .inl ⟨n, hn, hnid.trans hid⟩
          · exact .inr ⟨r', hr', hid⟩
    · simp [or_and_right, exists_or, or_assoc]

theorem Reading.start (rows : List SignalRow) : (start rows).Reading where
  bootstrapped := rfl
  marked := by
    intro id hid
    obtain ⟨n, hn, -⟩ | hshown := marked_foldl.mp hid
    · cases hn
    · exact hshown
  unfinished := fun r hr _ => marked_foldl.mpr (.inr ⟨r, hr, rfl⟩)
  read := List.nil_subset _
  passed := .inl rfl
  ordered := .nil

theorem Inv.start (rows : List SignalRow) : (start rows).Inv := by
  constructor
  · exact .start rows
  · intro r hr hrecorded
    cases hrecorded
  · intro id hid
    cases hid
  · intro r hr hrecorded
    cases hrecorded
  · intro s hs r hr hid hrecorded
    cases hrecorded
  · intro n hn
    cases hn

theorem Inv.announced (h : w.Inv) : w.Announced where
  passed := by
    intro r hr hrecorded hle
    obtain htold | hdue := h.due r hr hrecorded
    · exact htold
    · exact absurd hle (not_le_of_gt hdue.past)
  finished := h.finished

end Notifier

end SpotSidecar.Telegram
