import Mathlib.Algebra.BigOperators.Group.List.Basic
import Mathlib.Data.List.Chain
import Mathlib.Data.List.TakeWhile
import Mathlib.Data.Rat.Floor
import Mathlib.Tactic.Linarith
import SpotSidecar.State.Values

/-! The public trade stream of one symbol and its rolling windows. -/
namespace SpotSidecar.MoneyFlow

/-- `WINDOW_SECONDS` -/
def windowSeconds : List ℚ := [15, 30, 60]

/-- `max(WINDOW_SECONDS)` -/
def longestWindow : ℚ := 60

/-- A trade as the stream keeps it. -/
structure SpotTrade where
  id : ℤ
  received : ℚ
  eventTimeMs : ℤ
  quote : ℚ
  buyerIsMaker : Bool
  deriving DecidableEq, Repr

structure SpotBook where
  bestBid : ℚ
  bestAsk : ℚ
  bidQuantity : ℚ
  askQuantity : ℚ
  spreadBps : ℚ
  received : ℚ
  receivedAtEpoch : ℚ
  deriving DecidableEq, Repr

structure TradeFrame where
  a : Ident
  p : Scalar
  q : Scalar
  T : Ident
  m : Bool := false
  s : Option Symbol := none
  deriving DecidableEq, Repr

structure BookFrame where
  b : Scalar
  B : Scalar
  a : Scalar
  A : Scalar
  s : Option Symbol := none
  deriving DecidableEq, Repr

/-- `_decimal`: a finite positive decimal. -/
def positiveDecimal : Scalar → Except Exc ℚ
  | .num q => if 0 < q then .ok q else .error { kind := .value }
  | .absent => .error { kind := .key }
  | _ => .error { kind := .value }

/-- What `ingest_trade` reads before it takes the lock. -/
def TradeFrame.read (frame : TradeFrame) (now : ℚ) : Except Exc SpotTrade := do
  let identifier ← frame.a.required
  let price ← positiveDecimal frame.p
  let quantity ← positiveDecimal frame.q
  let eventTime ← frame.T.required
  if identifier < 0 ∨ eventTime ≤ 0 then
    .error { kind := .value, text := "aggregate trade identifiers or timestamps are invalid" }
  else
    return {
      id := identifier
      received := now
      eventTimeMs := eventTime
      quote := price * quantity
      buyerIsMaker := frame.m }

def BookFrame.read (frame : BookFrame) (now epoch : ℚ) : Except Exc SpotBook := do
  let bid ← positiveDecimal frame.b
  let bidQty ← positiveDecimal frame.B
  let ask ← positiveDecimal frame.a
  let askQty ← positiveDecimal frame.A
  if ask ≤ bid then
    .error { kind := .value, text := "Spot book ticker is crossed or has an invalid timestamp" }
  else
    return {
      bestBid := bid
      bestAsk := ask
      bidQuantity := bidQty
      askQuantity := askQty
      spreadBps := (ask - bid) / ((bid + ask) / 2) * 10000
      received := now
      receivedAtEpoch := epoch }

structure SpotStream where
  staleAfterSeconds : ℚ := 10
  symbol : Symbol := ""
  trades : List SpotTrade := []
  book : Option SpotBook := none
  started : Option ℚ := none
  lastMessage : Option ℚ := none
  lastMessageEpoch : Option ℚ := none
  lastAggregateId : Option ℤ := none
  duplicatesIgnored : ℕ := 0
  sequenceGapCount : ℕ := 0
  malformedFrames : ℕ := 0
  connected : Bool := false
  reconnectCount : ℕ := 0
  lastError : Option String := none
  generation : ℕ := 0
  /-- Whether there is a `_stop_event`. -/
  active : Bool := false
  stale_bounds : 2 ≤ staleAfterSeconds ∧ staleAfterSeconds ≤ 60 := by decide
  deriving DecidableEq

/-- `BTC[A-Z0-9]{3,12}` -/
def streamable (symbol : Symbol) : Bool :=
  match symbol.toList with
  | 'B' :: 'T' :: 'C' :: quote =>
    3 ≤ quote.length && quote.length ≤ 12 && quote.all fun c => c.isUpper || c.isDigit
  | _ => false

structure WindowMetrics where
  takerBuyQuote : ℚ
  takerSellQuote : ℚ
  takerBuyRatio : ℚ
  cvdQuote : ℚ
  tradeCount : ℕ
  firstAggregateId : Option ℤ
  lastAggregateId : Option ℤ
  windowSeconds : ℚ
  ready : Bool
  deriving DecidableEq, Repr

structure SpotSnapshot where
  source : String := "binance_spot_websocket"
  symbol : Symbol
  connected : Bool
  fresh : Bool
  ready : Bool
  lastMessageAgeSeconds : Option ℚ
  lastMessageAtEpoch : Option ℚ
  uptimeSeconds : ℚ
  bookTicker : Option SpotBook
  flow : WindowMetrics
  windows : List WindowMetrics
  lastAggregateId : Option ℤ
  duplicatesIgnored : ℕ
  gapCount : ℕ
  malformedFrames : ℕ
  reconnectCount : ℕ
  lastError : Option String
  deriving DecidableEq, Repr

namespace SpotStream
variable (s : SpotStream)

/-- `_reset_sample` -/
def resetSample (now : ℚ) : SpotStream :=
  { s with
    trades := []
    book := none
    started := some now
    lastMessage := none
    lastMessageEpoch := none
    lastAggregateId := none }

/-- `ensure_symbol`: the connections of the symbol before are of an older generation now. -/
def ensureSymbol (symbol : Symbol) (now : ℚ) : Except Exc SpotStream :=
  if streamable symbol = false then
    .error { kind := .value, text := "Spot stream symbol must be one BTC-base Binance symbol" }
  else if s.symbol = symbol ∧ s.active then .ok s
  else
    .ok ({ s with
      generation := s.generation + 1
      symbol := symbol
      connected := false
      lastError := none
      active := true }.resetSample now)

/-- `_on_open` -/
def onOpen (generation : ℕ) (firstConnection : Bool) (now : ℚ) : SpotStream :=
  if generation ≠ s.generation then s
  else
    let s := { s with connected := true, lastError := none }
    if firstConnection then s else s.resetSample now

/-- `_on_pong` -/
def onPong (generation : ℕ) (now epoch : ℚ) : SpotStream :=
  if generation ≠ s.generation then s
  else { s with lastMessage := some now, lastMessageEpoch := some epoch }

/-- `_on_error`, which notes the type of the error. -/
def onError (generation : ℕ) (error : String) : SpotStream :=
  if generation ≠ s.generation then s else { s with lastError := some error }

/-- `_on_close` -/
def onClose (generation : ℕ) : SpotStream :=
  if generation ≠ s.generation then s else { s with connected := false }

/-- `_prune` -/
def prune (now : ℚ) : SpotStream :=
  { s with trades := s.trades.dropWhile fun trade => trade.received < now - longestWindow }

/-- The trade is kept, as the last one. -/
def append (trade : SpotTrade) (epoch : ℚ) : SpotStream :=
  { s with
    trades := s.trades ++ [trade]
    lastAggregateId := some trade.id
    lastMessage := some trade.received
    lastMessageEpoch := some epoch }.prune trade.received

/-- Whether a frame belongs to the current connection; a direct call has no generation. -/
def concerns (generation : Option ℕ) : Bool := generation.all (· = s.generation)

def matchesSymbol (symbol : Option Symbol) : Bool := symbol.all (· = s.symbol)

/-- The part of `ingest_trade` under the lock, for a frame of this connection and symbol. -/
def take (trade : SpotTrade) (epoch : ℚ) : Bool × SpotStream :=
  let s := { s with started := some (s.started.getD trade.received) }
  match s.lastAggregateId with
  | none => (true, s.append trade epoch)
  | some last =>
    if trade.id ≤ last then (false, { s with duplicatesIgnored := s.duplicatesIgnored + 1 })
    else if trade.id ≠ last + 1 then
      (true, ({ s with sequenceGapCount := s.sequenceGapCount + 1 }.resetSample
        trade.received).append trade epoch)
    else (true, s.append trade epoch)

/-- `ingest_trade` -/
def ingestTrade (frame : TradeFrame) (generation : Option ℕ) (now epoch : ℚ) :
    Except Exc (Bool × SpotStream) := do
  let trade ← frame.read now
  if s.concerns generation = false then return (false, s)
  else if s.matchesSymbol frame.s = false then
    .error { kind := .value, text := "aggregate trade symbol mismatch" }
  else return s.take trade epoch

/-- `ingest_book` -/
def ingestBook (frame : BookFrame) (generation : Option ℕ) (now epoch : ℚ) :
    Except Exc SpotStream := do
  let book ← frame.read now epoch
  if s.concerns generation = false then return s
  else if s.matchesSymbol frame.s = false then
    .error { kind := .value, text := "book ticker symbol mismatch" }
  else return { s with
    book := some book
    lastMessage := some now
    lastMessageEpoch := some epoch }

end SpotStream

/-- The quote volume of the takers on one side. -/
def takerQuote (buyerIsMaker : Bool) (rows : List SpotTrade) : ℚ :=
  ((rows.filter (·.buyerIsMaker = buyerIsMaker)).map (·.quote)).sum

/-- `_window`, with what `snapshot` adds to it. -/
def window (rows : List SpotTrade) (seconds uptime : ℚ) : WindowMetrics :=
  let buy := takerQuote false rows
  let sell := takerQuote true rows
  let total := buy + sell
  { takerBuyQuote := buy
    takerSellQuote := sell
    takerBuyRatio := if 0 < total then buy / total else 0
    cvdQuote := buy - sell
    tradeCount := rows.length
    firstAggregateId := rows.head?.map (·.id)
    lastAggregateId := rows.getLast?.map (·.id)
    windowSeconds := seconds
    ready := seconds ≤ uptime }

namespace SpotStream
variable (s : SpotStream)

def uptime (now : ℚ) : ℚ := (s.started.map fun started => max 0 (now - started)).getD 0

/-- The metrics of one window of the trades that are kept. -/
def windowAt (now seconds : ℚ) : WindowMetrics :=
  window (s.trades.filter fun trade => now - seconds ≤ trade.received) seconds (s.uptime now)

def freshAt (now : ℚ) : Bool :=
  s.connected &&
    s.lastMessage.any (fun at_ => max 0 (now - at_) ≤ s.staleAfterSeconds) &&
    s.book.any fun book => max 0 (now - book.received) ≤ s.staleAfterSeconds

/-- `snapshot`, of the stream it has pruned. -/
def report (now : ℚ) : SpotSnapshot :=
  let selected := s.windowAt now longestWindow
  { symbol := s.symbol
    connected := s.connected
    fresh := s.freshAt now
    ready := s.freshAt now && selected.ready && 0 < selected.tradeCount
    lastMessageAgeSeconds := s.lastMessage.map fun at_ => max 0 (now - at_)
    lastMessageAtEpoch := s.lastMessageEpoch
    uptimeSeconds := s.uptime now
    bookTicker := s.book
    flow := selected
    windows := windowSeconds.map (s.windowAt now)
    lastAggregateId := s.lastAggregateId
    duplicatesIgnored := s.duplicatesIgnored
    gapCount := s.sequenceGapCount
    malformedFrames := s.malformedFrames
    reconnectCount := s.reconnectCount
    lastError := s.lastError }

def snapshot (now : ℚ) : SpotSnapshot := (s.prune now).report now

/-- `stop` -/
def stop : SpotStream :=
  { s with generation := s.generation + 1, connected := false, active := false }

end SpotStream

/-! ### Runs -/

/-- What can happen to the stream. A frame has the generation of the connection that brought it,
or none if it was handed over directly. -/
inductive SpotEvent where
  | ensureSymbol (symbol : Symbol)
  | opened (generation : ℕ) (firstConnection : Bool)
  | closed (generation : ℕ)
  | pong (generation : ℕ) (epoch : ℚ)
  | error (generation : ℕ) (error : String)
  | reconnecting
  | trade (frame : TradeFrame) (generation : Option ℕ) (epoch : ℚ)
  | book (frame : BookFrame) (generation : Option ℕ) (epoch : ℚ)
  | snapshot
  | stop
  deriving DecidableEq, Repr

structure Timed where
  now : ℚ
  event : SpotEvent
  deriving DecidableEq, Repr

/-- `_on_message`: a frame that is refused is counted, if it is of the current connection. -/
def SpotStream.malformed (s : SpotStream) (generation : Option ℕ) : SpotStream :=
  if generation = some s.generation then
    { s with malformedFrames := s.malformedFrames + 1, lastError := some "malformed_frame" }
  else s

def SpotStream.step (s : SpotStream) (e : Timed) : SpotStream :=
  match e.event with
  | .ensureSymbol symbol => (s.ensureSymbol symbol e.now).toOption.getD s
  | .opened generation firstConnection => s.onOpen generation firstConnection e.now
  | .closed generation => s.onClose generation
  | .pong generation epoch => s.onPong generation e.now epoch
  | .error generation error => s.onError generation error
  | .reconnecting => { s with reconnectCount := s.reconnectCount + 1 }
  | .trade frame generation epoch =>
    -- A connection's frame names its symbol.
    if generation.isSome ∧ frame.s = none then s.malformed generation
    else match s.ingestTrade frame generation e.now epoch with
      | .ok (_, s) => s
      | .error _ => s.malformed generation
  | .book frame generation epoch =>
    if generation.isSome ∧ frame.s = none then s.malformed generation
    else match s.ingestBook frame generation e.now epoch with
      | .ok s => s
      | .error _ => s.malformed generation
  | .snapshot => s.prune e.now
  | .stop => s.stop

/-- The trade that a frame brings to the current connection. -/
def SpotStream.heard (s : SpotStream) (frame : TradeFrame) (generation : Option ℕ) (now : ℚ) :
    Option SpotTrade :=
  if (generation.isSome ∧ frame.s = none) ∨ s.concerns generation = false ∨
      s.matchesSymbol frame.s = false then none
  else (frame.read now).toOption

/-- What has really happened: since when the connection to the symbol is open, with whether it is
the first one to it, and the trades it has brought, each as it was first received. -/
structure FlowHistory where
  openSince : Option (ℚ × Bool) := none
  received : List SpotTrade := []
  deriving DecidableEq, Repr

def FlowHistory.hear (h : FlowHistory) (trade : SpotTrade) : FlowHistory :=
  if ∃ r ∈ h.received, r.id = trade.id then h else { h with received := h.received ++ [trade] }

def FlowHistory.step (s : SpotStream) (h : FlowHistory) (e : Timed) : FlowHistory :=
  match e.event with
  | .ensureSymbol symbol =>
    if streamable symbol = false ∨ (s.symbol = symbol ∧ s.active = true) then h else {}
  | .opened generation firstConnection =>
    if generation ≠ s.generation then h
    else {
      openSince := some (e.now, firstConnection)
      received := if firstConnection then h.received else [] }
  | .closed generation => if generation ≠ s.generation then h else { h with openSince := none }
  | .trade frame generation _ => match s.heard frame generation e.now with
    | some trade => h.hear trade
    | none => h
  | .stop => { h with openSince := none }
  | _ => h

/-- The trades of a history that were received within some seconds before `now`. -/
def FlowHistory.within (h : FlowHistory) (now seconds : ℚ) : List SpotTrade :=
  h.received.filter fun trade => now - seconds ≤ trade.received

def Consecutive (trade next : SpotTrade) : Prop := next.id = trade.id + 1

instance : DecidableRel Consecutive := fun trade next => decEq next.id (trade.id + 1)

/-- What a snapshot that is ready promises. -/
structure Honest (s : SpotStream) (h : FlowHistory) (now : ℚ) : Prop where
  opened : ∃ since firstConnection, h.openSince = some (since, firstConnection) ∧
    since + longestWindow ≤ now
  gapless : (h.within now longestWindow).IsChain Consecutive
  volumes : ((s.snapshot now).windows.map fun w =>
      (w.windowSeconds, w.takerBuyQuote, w.takerSellQuote)) =
    windowSeconds.map fun seconds => (seconds, takerQuote false (h.within now seconds),
      takerQuote true (h.within now seconds))

/-- The condition on one event. A trade is later than all that were received, or one of them again.
A snapshot that finds the first connection to a symbol open comes sixty seconds after that has
opened, if it comes sixty seconds after the sample began; and no gap lies exactly at the start of
its longest window, with a trade on each side. -/
def Timed.Sound (s : SpotStream) (h : FlowHistory) (e : Timed) : Prop :=
  match e.event with
  | .trade frame generation _ => ∀ trade ∈ s.heard frame generation e.now,
      (∀ r ∈ h.received, r.id < trade.id) ∨ ∃ r ∈ h.received, r.id = trade.id
  | .snapshot =>
      (∀ opened ∈ h.openSince, opened.2 = true → ∀ started ∈ s.started,
        started + longestWindow ≤ e.now → opened.1 + longestWindow ≤ e.now) ∧
      h.received.IsChain fun trade next => Consecutive trade next ∨
        trade.received ≠ e.now - longestWindow ∨ next.received ≠ e.now - longestWindow
  | _ => True

instance (s : SpotStream) (h : FlowHistory) : (e : Timed) → Decidable (e.Sound s h)
  | ⟨now, .trade frame generation _⟩ =>
    inferInstanceAs (Decidable (∀ trade ∈ s.heard frame generation now,
      (∀ r ∈ h.received, r.id < trade.id) ∨ ∃ r ∈ h.received, r.id = trade.id))
  | ⟨now, .snapshot⟩ =>
    inferInstanceAs (Decidable ((∀ opened ∈ h.openSince, opened.2 = true → ∀ started ∈ s.started,
        started + longestWindow ≤ now → opened.1 + longestWindow ≤ now) ∧
      h.received.IsChain fun trade next => Consecutive trade next ∨
        trade.received ≠ now - longestWindow ∨ next.received ≠ now - longestWindow))
  | ⟨_, .ensureSymbol _⟩ | ⟨_, .opened _ _⟩ | ⟨_, .closed _⟩ | ⟨_, .pong _ _⟩ | ⟨_, .error _ _⟩
  | ⟨_, .reconnecting⟩ | ⟨_, .book _ _ _⟩ | ⟨_, .stop⟩ => isTrue trivial

/-- Every event of the run meets the condition where it happens. -/
def SoundRun : SpotStream × FlowHistory → List Timed → Prop
  | _, [] => True
  | (s, h), e :: events => e.Sound s h ∧ SoundRun (s.step e, h.step s e) events

instance decidableSoundRun : (start : SpotStream × FlowHistory) → (events : List Timed) →
    Decidable (SoundRun start events)
  | _, [] => isTrue trivial
  | (s, h), e :: events =>
    have := decidableSoundRun (s.step e, h.step s e) events
    inferInstanceAs (Decidable (_ ∧ _))

/-- What the stream keeps is the history since the last gap, less what is older than the longest
window. -/
structure Tracks (s : SpotStream) (h : FlowHistory) (now : ℚ) : Prop where
  ids : h.received.Pairwise fun trade next => trade.id < next.id
  times : h.received.Pairwise fun trade next => trade.received ≤ next.received
  past : ∀ trade ∈ h.received, trade.received ≤ now
  last : s.lastAggregateId = h.received.getLast?.map (·.id)
  sample : ∃ old pruned, h.received = old ++ (pruned ++ s.trades) ∧
    (pruned ++ s.trades).IsChain Consecutive ∧
    (∀ trade ∈ pruned, trade.received < now - longestWindow) ∧
    ∀ before ∈ old.getLast?, ∃ first ∈ (pruned ++ s.trades).head?,
      s.started = some first.received ∧ ¬Consecutive before first
  connected : s.connected = h.openSince.isSome
  opened : ∀ since, h.openSince = some (since, false) → ∃ started, s.started = some started ∧
    since ≤ started
  begun : ∀ started, s.started = some started → started ≤ now

theorem Tracks.later {s : SpotStream} {h : FlowHistory} {now later : ℚ} (ht : Tracks s h now)
    (hnow : now ≤ later) : Tracks s h later := by
  obtain ⟨old, pruned, hreceived, hchain, hpruned, hgap⟩ := ht.sample
  refine ⟨ht.ids, ht.times, ?_, ht.last, ⟨old, pruned, hreceived, hchain, ?_, hgap⟩, ht.connected,
    ht.opened, ?_⟩
  · intro trade htrade
    exact (ht.past trade htrade).trans hnow
  · intro trade htrade
    have := hpruned trade htrade
    linarith
  · intro started hstarted
    exact (ht.begun started hstarted).trans hnow

theorem Tracks.prune {s : SpotStream} {h : FlowHistory} {now : ℚ} (ht : Tracks s h now) :
    Tracks (s.prune now) h now := by
  obtain ⟨old, pruned, hreceived, hchain, hpruned, hgap⟩ := ht.sample
  have hsplit : pruned ++ s.trades =
      (pruned ++ s.trades.takeWhile fun trade => trade.received < now - longestWindow) ++
        (s.prune now).trades := by
    rw [List.append_assoc]
    congr 1
    exact List.takeWhile_append_dropWhile.symm
  refine ⟨ht.ids, ht.times, ht.past, ht.last,
    ⟨old, _, hreceived.trans (by rw [hsplit]), ?_, ?_, ?_⟩, ht.connected, ht.opened, ht.begun⟩
  · rw [← hsplit]
    exact hchain
  · intro trade htrade
    obtain htrade | htrade := List.mem_append.mp htrade
    · exact hpruned trade htrade
    · simpa using List.mem_takeWhile_imp htrade
  · rw [← hsplit]
    exact hgap

/-- A stream that differs from a tracked one in nothing that is tracked. -/
theorem Tracks.congr {s s' : SpotStream} {h : FlowHistory} {now : ℚ} (ht : Tracks s h now)
    (htrades : s'.trades = s.trades) (hlast : s'.lastAggregateId = s.lastAggregateId)
    (hstarted : s'.started = s.started) (hconnected : s'.connected = s.connected) :
    Tracks s' h now := by
  obtain ⟨ids, times, past, last, sample, connected, opened, begun⟩ := ht
  rw [← hlast] at last
  rw [← htrades, ← hstarted] at sample
  rw [← hconnected] at connected
  rw [← hstarted] at opened begun
  exact ⟨ids, times, past, last, sample, connected, opened, begun⟩

/-- A new sample, after which nothing has been received. -/
theorem Tracks.fresh {s : SpotStream} {now : ℚ} {openSince : Option (ℚ × Bool)}
    (hconnected : s.connected = openSince.isSome)
    (hopened : ∀ since, openSince = some (since, false) → since ≤ now) :
    Tracks (s.resetSample now) { openSince := openSince } now := by
  refine ⟨.nil, .nil, by simp, rfl, ⟨[], [], rfl, .nil, by simp, by simp⟩, hconnected, ?_, ?_⟩
  · intro since hsince
    exact ⟨now, rfl, hopened since hsince⟩
  · intro started hstarted
    cases hstarted
    exact le_rfl

/-- The sample has begun when a trade comes. -/
theorem Tracks.begin {s : SpotStream} {h : FlowHistory} {now : ℚ} (ht : Tracks s h now) :
    Tracks { s with started := some (s.started.getD now) } h now := by
  obtain ⟨ids, times, past, last, ⟨old, pruned, hreceived, hchain, hpruned, hgap⟩, connected,
    opened, begun⟩ := ht
  refine ⟨ids, times, past, last, ⟨old, pruned, hreceived, hchain, hpruned, ?_⟩, connected, ?_, ?_⟩
  · intro before hbefore
    obtain ⟨first, hfirst, hstarted, hno⟩ := hgap before hbefore
    exact ⟨first, hfirst, by rw [hstarted]; rfl, hno⟩
  · intro since hsince
    obtain ⟨started, hstarted, hle⟩ := opened since hsince
    exact ⟨started, by rw [hstarted]; rfl, hle⟩
  · intro started hstarted
    cases hsome : s.started with
    | none =>
      rw [hsome] at hstarted
      cases hstarted
      exact le_rfl
    | some began =>
      rw [hsome] at hstarted
      cases hstarted
      exact begun began hsome

/-- A new trade is received, and the stream's sample goes on or begins with it. -/
theorem Tracks.grow {s s' : SpotStream} {h : FlowHistory} {now : ℚ} {trade : SpotTrade}
    (ht : Tracks s h now) (hnow : now ≤ trade.received) (hnew : ∀ r ∈ h.received, r.id < trade.id)
    (hlast : s'.lastAggregateId = some trade.id) (hconnected : s'.connected = s.connected)
    (hstarted : ∀ started, s.started = some started → ∃ started', s'.started = some started' ∧
      started ≤ started')
    (hbegun : ∀ started, s'.started = some started → started ≤ trade.received)
    (hsample : ∃ old pruned, h.received ++ [trade] = old ++ (pruned ++ s'.trades) ∧
      (pruned ++ s'.trades).IsChain Consecutive ∧
      (∀ r ∈ pruned, r.received < trade.received - longestWindow) ∧
      ∀ before ∈ old.getLast?, ∃ first ∈ (pruned ++ s'.trades).head?,
        s'.started = some first.received ∧ ¬Consecutive before first) :
    Tracks s' { h with received := h.received ++ [trade] } trade.received := by
  have hpast : ∀ r ∈ h.received, r.received ≤ trade.received := by
    intro r hr
    exact (ht.past r hr).trans hnow
  refine ⟨?_, ?_, ?_, ?_, hsample, hconnected.trans ht.connected, ?_, hbegun⟩
  · apply List.pairwise_append.mpr
    refine ⟨ht.ids, List.pairwise_singleton _ _, ?_⟩
    simpa using hnew
  · apply List.pairwise_append.mpr
    refine ⟨ht.times, List.pairwise_singleton _ _, ?_⟩
    simpa using hpast
  · intro r hr
    obtain hr | hr := List.mem_append.mp hr
    · exact hpast r hr
    · exact (congrArg SpotTrade.received (List.mem_singleton.mp hr)).le
  · simpa using hlast
  · intro since hsince
    obtain ⟨started, hst, hle⟩ := ht.opened since hsince
    obtain ⟨started', hst', hle'⟩ := hstarted started hst
    exact ⟨started', hst', hle.trans hle'⟩

theorem Tracks.take {s : SpotStream} {h : FlowHistory} {now : ℚ} {trade : SpotTrade}
    (ht : Tracks s h now) (hnow : now ≤ trade.received) (epoch : ℚ)
    (hsound : (∀ r ∈ h.received, r.id < trade.id) ∨ ∃ r ∈ h.received, r.id = trade.id) :
    Tracks (s.take trade epoch).2 (h.hear trade) trade.received := by
  have hbegin := (ht.later hnow).begin
  have hbegun := hbegin.begun
  unfold SpotStream.take FlowHistory.hear
  dsimp only
  cases hlast : s.lastAggregateId with
  | none =>
    have hnil : h.received = [] := by simpa [hlast] using ht.last.symm
    obtain ⟨old, pruned, hreceived, -⟩ := ht.sample
    have htrades : s.trades = [] := by
      rw [hnil] at hreceived
      simpa using (List.append_eq_nil_iff.mp (List.append_eq_nil_iff.mp hreceived.symm).2).2
    rw [if_neg (by simp [hnil])]
    apply Tracks.prune
    refine hbegin.grow le_rfl (by simp [hnil]) rfl rfl (fun started hst => ⟨started, hst, le_rfl⟩)
      hbegun ?_
    exact ⟨[], [], by simp [hnil, htrades], by simp [htrades], by simp, by simp⟩
  | some last =>
    obtain ⟨r, hr, hrid⟩ : ∃ r, h.received.getLast? = some r ∧ r.id = last := by
      have hsome := ht.last
      rw [hlast] at hsome
      exact Option.map_eq_some_iff.mp hsome.symm
    have hrmem : r ∈ h.received := List.mem_of_getLast? hr
    have hmax : ∀ r' ∈ h.received, r'.id ≤ last := by
      intro r' hr'
      obtain ⟨init, hinit⟩ := List.getLast?_eq_some_iff.mp hr
      have hids := ht.ids
      rw [hinit] at hids hr'
      obtain hr' | hr' := List.mem_append.mp hr'
      · have := (List.pairwise_append.mp hids).2.2 r' hr' r (by simp)
        omega
      · rw [List.mem_singleton.mp hr']
        omega
    dsimp only
    by_cases hold : trade.id ≤ last
    · -- It was received before, on this connection.
      have hrepeat : ∃ r ∈ h.received, r.id = trade.id := by
        apply hsound.resolve_left
        intro hlater
        have := hlater r hrmem
        omega
      rw [if_pos hold, if_pos hrepeat]
      exact hbegin.congr rfl hlast.symm rfl rfl
    · have hnew : ∀ r' ∈ h.received, r'.id < trade.id := by
        intro r' hr'
        have := hmax r' hr'
        omega
      have hfirst : ¬∃ r' ∈ h.received, r'.id = trade.id := by
        rintro ⟨r', hr', hid⟩
        have := hnew r' hr'
        omega
      rw [if_neg hold, if_neg hfirst]
      by_cases hnext : trade.id = last + 1
      · rw [if_neg (not_not.mpr hnext)]
        apply Tracks.prune
        refine hbegin.grow le_rfl hnew rfl rfl (fun started hst => ⟨started, hst, le_rfl⟩)
          hbegun ?_
        obtain ⟨old, pruned, hreceived, hchain, hpruned, hgap⟩ := hbegin.sample
        refine ⟨old, pruned, ?_, ?_, hpruned, ?_⟩
        · rw [hreceived]
          simp
        · rw [← List.append_assoc]
          apply hchain.append (List.isChain_singleton _)
          intro x hx y hy
          have hxr : x = r := by
            have hlastOf : h.received.getLast? = some x := by
              rw [hreceived, List.getLast?_append, hx]
              rfl
            exact Option.some.inj (hlastOf.symm.trans hr)
          obtain rfl : y = trade := by simpa using hy.symm
          rw [hxr, Consecutive, hrid]
          exact hnext
        · intro before hbefore
          obtain ⟨first, hhead, hrest⟩ := hgap before hbefore
          refine ⟨first, ?_, hrest⟩
          rw [← List.append_assoc, List.head?_append, hhead]
          rfl
      · rw [if_pos hnext]
        apply Tracks.prune
        refine hbegin.grow le_rfl hnew rfl rfl ?_ ?_ ?_
        · intro started hst
          exact ⟨trade.received, rfl, hbegun started hst⟩
        · intro started hst
          cases hst
          exact le_rfl
        · refine ⟨h.received, [], rfl, List.isChain_singleton _, by simp, ?_⟩
          intro before hbefore
          obtain rfl : r = before := Option.some.inj (hr.symm.trans hbefore)
          refine ⟨trade, rfl, rfl, ?_⟩
          rw [Consecutive, hrid]
          exact hnext

theorem SpotStream.malformed_tracked {s : SpotStream} {h : FlowHistory} {now : ℚ}
    (ht : Tracks s h now) (generation : Option ℕ) : Tracks (s.malformed generation) h now := by
  unfold malformed
  split
  · exact ht.congr rfl rfl rfl rfl
  · exact ht

theorem TradeFrame.read_received {frame : TradeFrame} {now : ℚ} {trade : SpotTrade}
    (h : frame.read now = .ok trade) : trade.received = now := by
  unfold read at h
  obtain ⟨identifier, -, h⟩ := except_bind_eq_ok.mp h
  obtain ⟨price, -, h⟩ := except_bind_eq_ok.mp h
  obtain ⟨quantity, -, h⟩ := except_bind_eq_ok.mp h
  obtain ⟨eventTime, -, h⟩ := except_bind_eq_ok.mp h
  split at h
  · cases h
  · cases h
    rfl

/-- What a trade frame does: what the trade it brings does, or nothing that is tracked. -/
theorem Tracks.trade {s : SpotStream} {h : FlowHistory} {now : ℚ} (ht : Tracks s h now)
    (frame : TradeFrame) (generation : Option ℕ) (epoch : ℚ)
    (hsound : Timed.Sound s h ⟨now, .trade frame generation epoch⟩) :
    Tracks (s.step ⟨now, .trade frame generation epoch⟩)
      (h.step s ⟨now, .trade frame generation epoch⟩) now := by
  simp only [Timed.Sound, SpotStream.step, FlowHistory.step, SpotStream.heard] at hsound ⊢
  by_cases hnamed : generation.isSome ∧ frame.s = none
  · rw [if_pos hnamed, if_pos (.inl hnamed)]
    exact s.malformed_tracked ht generation
  · rw [if_neg hnamed]
    unfold SpotStream.ingestTrade
    cases hread : frame.read now with
    | error e =>
      have hnone : (if (generation.isSome = true ∧ frame.s = none) ∨
          s.concerns generation = false ∨ s.matchesSymbol frame.s = false then none
          else (Except.error e : Except Exc SpotTrade).toOption) = none := by
        split <;> rfl
      rw [hnone]
      exact s.malformed_tracked ht generation
    | ok trade =>
      dsimp only [Bind.bind, Except.bind]
      by_cases hconcerns : s.concerns generation = false
      · rw [if_pos hconcerns, if_pos (.inr (.inl hconcerns))]
        exact ht
      · rw [if_neg hconcerns]
        by_cases hsymbol : s.matchesSymbol frame.s = false
        · rw [if_pos hsymbol, if_pos (.inr (.inr hsymbol))]
          exact s.malformed_tracked ht generation
        · have hours : ¬((generation.isSome ∧ frame.s = none) ∨ s.concerns generation = false ∨
              s.matchesSymbol frame.s = false) := by
            simp only [not_or]
            exact ⟨hnamed, hconcerns, hsymbol⟩
          have hreceived := TradeFrame.read_received hread
          rw [if_neg hsymbol, if_neg hours]
          rw [if_neg hours, hread] at hsound
          have htake : Tracks (s.take trade epoch).2 (h.hear trade) trade.received :=
            ht.take hreceived.ge epoch (hsound trade rfl)
          rw [hreceived] at htake
          exact htake

theorem Tracks.book {s : SpotStream} {h : FlowHistory} {now : ℚ} (ht : Tracks s h now)
    (frame : BookFrame) (generation : Option ℕ) (epoch : ℚ) :
    Tracks (s.step ⟨now, .book frame generation epoch⟩) h now := by
  simp only [SpotStream.step]
  split
  · exact s.malformed_tracked ht generation
  · unfold SpotStream.ingestBook
    cases frame.read now epoch with
    | error e => exact s.malformed_tracked ht generation
    | ok book =>
      dsimp only [Bind.bind, Except.bind]
      split
      · next hok =>
        split at hok
        · cases hok
          exact ht
        · split at hok
          · cases hok
          · cases hok
            exact ht.congr rfl rfl rfl rfl
      · exact s.malformed_tracked ht generation

theorem Tracks.step {s : SpotStream} {h : FlowHistory} {now : ℚ} {e : Timed} (ht : Tracks s h now)
    (hnow : now ≤ e.now) (hsound : e.Sound s h) : Tracks (s.step e) (h.step s e) e.now := by
  have hlater := ht.later hnow
  obtain ⟨at_, event⟩ := e
  cases event with
  | ensureSymbol symbol =>
    simp only [SpotStream.step, FlowHistory.step, SpotStream.ensureSymbol]
    by_cases hstreamable : streamable symbol = false
    · rw [if_pos hstreamable, if_pos (.inl hstreamable)]
      exact hlater
    · rw [if_neg hstreamable]
      by_cases hsame : s.symbol = symbol ∧ s.active = true
      · rw [if_pos hsame, if_pos (.inr hsame)]
        exact hlater
      · rw [if_neg hsame, if_neg (not_or.mpr ⟨hstreamable, hsame⟩)]
        exact .fresh rfl (by simp)
  | opened generation firstConnection =>
    simp only [SpotStream.step, FlowHistory.step, SpotStream.onOpen]
    by_cases hours : generation ≠ s.generation
    · rw [if_pos hours, if_pos hours]
      exact hlater
    · rw [if_neg hours, if_neg hours]
      cases firstConnection with
      | false => exact .fresh rfl fun since hsince => (Prod.mk.inj (Option.some.inj hsince)).1.ge
      | true =>
        obtain ⟨ids, times, past, last, sample, -, -, begun⟩ := hlater
        exact ⟨ids, times, past, last, sample, rfl, by simp, begun⟩
  | closed generation =>
    simp only [SpotStream.step, FlowHistory.step, SpotStream.onClose]
    split
    · exact hlater
    · obtain ⟨ids, times, past, last, sample, -, -, begun⟩ := hlater
      exact ⟨ids, times, past, last, sample, rfl, by simp, begun⟩
  | pong generation epoch =>
    simp only [SpotStream.step, FlowHistory.step, SpotStream.onPong]
    split
    · exact hlater
    · exact hlater.congr rfl rfl rfl rfl
  | error generation error =>
    simp only [SpotStream.step, FlowHistory.step, SpotStream.onError]
    split
    · exact hlater
    · exact hlater.congr rfl rfl rfl rfl
  | reconnecting => exact hlater.congr rfl rfl rfl rfl
  | trade frame generation epoch => exact hlater.trade frame generation epoch hsound
  | book frame generation epoch => exact hlater.book frame generation epoch
  | snapshot => exact hlater.prune
  | stop =>
    obtain ⟨ids, times, past, last, sample, -, -, begun⟩ := hlater
    exact ⟨ids, times, past, last, sample, rfl, by simp [FlowHistory.step], begun⟩

/-! ### Ready snapshots -/

theorem le_received_of_dropWhile {floor : ℚ} {l : List SpotTrade}
    (hl : l.Pairwise fun trade next => trade.received ≤ next.received) :
    ∀ trade ∈ l.dropWhile (fun trade => trade.received < floor), floor ≤ trade.received := by
  induction l with
  | nil => simp
  | cons head rest ih =>
    obtain ⟨hhead, hrest⟩ := List.pairwise_cons.mp hl
    rw [List.dropWhile_cons]
    split
    · exact ih hrest
    · next hfloor =>
      have hfloor : floor ≤ head.received := by simpa using hfloor
      intro trade htrade
      obtain rfl | htrade := List.mem_cons.mp htrade
      · exact hfloor
      · exact hfloor.trans (hhead trade htrade)

/-- The trades of a window are those that are kept, once the sample is as old as the longest
window. -/
theorem Tracks.within {s : SpotStream} {h : FlowHistory} {now : ℚ} (ht : Tracks s h now)
    {started : ℚ} (hstarted : s.started = some started) (hold : started + longestWindow ≤ now)
    (hgaps : h.received.IsChain fun trade next => Consecutive trade next ∨
      trade.received ≠ now - longestWindow ∨ next.received ≠ now - longestWindow)
    {seconds : ℚ} (hseconds : seconds ≤ longestWindow) :
    h.within now seconds = s.trades.filter fun trade => now - seconds ≤ trade.received := by
  obtain ⟨old, pruned, hreceived, -, hpruned, hgap⟩ := ht.sample
  have htimes := ht.times
  rw [hreceived] at htimes hgaps
  obtain ⟨holdTimes, -, hcross⟩ := List.pairwise_append.mp htimes
  have holdBefore : ∀ trade ∈ old, trade.received < now - longestWindow := by
    intro trade htrade
    obtain ⟨before, hbefore⟩ : ∃ before, old.getLast? = some before := by
      cases hlast : old.getLast? with
      | none =>
        rw [List.getLast?_eq_none_iff.mp hlast] at htrade
        cases htrade
      | some before => exact ⟨before, rfl⟩
    obtain ⟨first, hfirst, hbegan, hno⟩ := hgap before hbefore
    rw [hstarted] at hbegan
    have hbegan : started = first.received := Option.some.inj hbegan
    have hfirstMem : first ∈ pruned ++ s.trades := List.mem_of_mem_head? hfirst
    have hle : trade.received ≤ before.received := by
      obtain ⟨init, rfl⟩ := List.getLast?_eq_some_iff.mp hbefore
      obtain htrade | htrade := List.mem_append.mp htrade
      · exact (List.pairwise_append.mp holdTimes).2.2 trade htrade before (by simp)
      · exact (congrArg SpotTrade.received (List.mem_singleton.mp htrade)).le
    have hlast : before.received ≤ first.received :=
      hcross before (List.mem_of_getLast? hbefore) first hfirstMem
    -- Received at the start of the window, it would have the gap beside it there.
    apply lt_of_le_of_ne
    · linarith
    · intro heq
      obtain hnext | hbeforeNe | hfirstNe :=
        (List.isChain_append.mp hgaps).2.2 before hbefore first hfirst
      · exact hno hnext
      · exact hbeforeNe (by linarith)
      · exact hfirstNe (by linarith)
  have hnone : ∀ l : List SpotTrade, (∀ trade ∈ l, trade.received < now - longestWindow) →
      l.filter (fun trade => now - seconds ≤ trade.received) = [] := by
    intro l hl
    apply List.filter_eq_nil_iff.mpr
    intro trade htrade hin
    have hin : now - seconds ≤ trade.received := by simpa using hin
    have := hl trade htrade
    linarith
  unfold FlowHistory.within
  rw [hreceived, List.filter_append, List.filter_append, hnone old holdBefore, hnone pruned hpruned]
  rfl

theorem Tracks.honest {s : SpotStream} {h : FlowHistory} {now : ℚ} (ht : Tracks s h now)
    (hsound : Timed.Sound s h ⟨now, .snapshot⟩) (hready : (s.snapshot now).ready = true) :
    Honest s h now := by
  obtain ⟨hfirst, hgaps⟩ := hsound
  have hkept := ht.prune
  simp only [SpotStream.snapshot, SpotStream.report, SpotStream.windowAt, window, Bool.and_eq_true,
    SpotStream.freshAt, decide_eq_true_eq] at hready
  obtain ⟨⟨⟨⟨hconnected, -⟩, -⟩, huptime⟩, -⟩ := hready
  obtain ⟨started, hstarted, hold⟩ : ∃ started, s.started = some started ∧
      started + longestWindow ≤ now := by
    cases hsome : s.started with
    | none =>
      simp [SpotStream.uptime, SpotStream.prune, hsome, longestWindow] at huptime
      linarith
    | some started =>
      have huptime : longestWindow ≤ max 0 (now - started) := by
        simpa [SpotStream.uptime, SpotStream.prune, hsome] using huptime
      refine ⟨started, rfl, ?_⟩
      obtain hzero | hpast := le_max_iff.mp huptime
      · norm_num [longestWindow] at hzero
      · linarith
  have hwithin : ∀ {seconds : ℚ}, seconds ≤ longestWindow →
      h.within now seconds =
        (s.prune now).trades.filter fun trade => now - seconds ≤ trade.received :=
    fun hseconds => hkept.within hstarted hold hgaps hseconds
  constructor
  · have hopen : h.openSince.isSome := by
      rw [← ht.connected]
      exact hconnected
    obtain ⟨⟨since, firstConnection⟩, hsince⟩ := Option.isSome_iff_exists.mp hopen
    refine ⟨since, firstConnection, hsince, ?_⟩
    cases firstConnection with
    | true => exact hfirst _ hsince rfl started hstarted hold
    | false =>
      obtain ⟨began, hbegan, hle⟩ := ht.opened since hsince
      rw [hstarted] at hbegan
      cases hbegan
      linarith
  · obtain ⟨old, pruned, hreceived, hchain, -, -⟩ := hkept.sample
    have htimes := hkept.times
    rw [hreceived] at htimes
    have hfloor : ∀ trade ∈ (s.prune now).trades, now - longestWindow ≤ trade.received := by
      obtain ⟨_, _, hbefore, -⟩ := ht.sample
      have hbeforeTimes := ht.times
      rw [hbefore] at hbeforeTimes
      exact le_received_of_dropWhile
        (List.pairwise_append.mp (List.pairwise_append.mp hbeforeTimes).2.1).2.1
    rw [hwithin le_rfl, List.filter_eq_self.mpr (by simpa using hfloor)]
    exact hchain.right_of_append
  · simp only [SpotStream.snapshot, SpotStream.report, List.map_map]
    apply List.map_congr_left
    intro seconds hseconds
    have hle : seconds ≤ longestWindow := by
      simp only [windowSeconds, List.mem_cons, List.not_mem_nil, or_false] at hseconds
      obtain rfl | rfl | rfl := hseconds <;> norm_num [longestWindow]
    rw [Function.comp_apply, hwithin hle]
    rfl

end SpotSidecar.MoneyFlow
