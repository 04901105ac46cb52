import SpotSidecar.Simulation.Exposure

/-! What the simulated adapter keeps in memory agrees with the tables between turns; the start
and the owner commands keep it so, wherever an act fails or the machine stops. -/
namespace SpotSidecar
open Interaction Prog

namespace Simulation

/-- Every entry that was placed was admitted. -/
def Sound (w : World) : Prop := ∀ p ∈ w.placed, p.store.Admits p.tradeId

/-- The one open position. -/
structure Holding (m : Memory) (symbol : Symbol) (p : Position) : Prop where
  held : m.positions.lookup symbol = some p
  sole : ∀ symbol', symbol' ≠ symbol → m.positions.lookup symbol' = none

/-- The row of an open position: the event of an exit would close it. -/
structure Guarded (symbol : Symbol) (stop : ℤ) (row : TradeRow) : Prop where
  traded : row.pair.symbol = symbol
  recorded : row.stopOrderId = some stop
  nonneg : 0 ≤ stop
  rank : row.lifecycle.stateRank ≤ 9

/-- What is in memory agrees with the tables. -/
inductive Agrees (s : Store) (m : Memory) : Prop where
  | idle (positions : m.positions = ∅) (flat : Flat s)
  | open (symbol : Symbol) (p : Position) (id : TradeId) (holding : Holding m symbol p)
      (alone : Alone (Guarded symbol p.stopOrderId) id s) (settled : Settled s)

/-- Between turns, and at every act of a turn that places no entry. -/
structure Inv (w : World) : Prop where
  sound : Sound w
  agrees : ∀ m, w.process = some m → Agrees w.store m

/-- Nothing that `Inv` looks at differs, nor the event table and the clock. -/
structure Same (w w' : World) : Prop where
  trades : w'.store.trades = w.store.trades
  intents : w'.store.intents = w.store.intents
  events : w'.store.events = w.store.events
  clock : w'.store.clock = w.store.clock
  now : w'.now = w.now
  placed : w'.placed = w.placed
  positions : w'.process.map (·.positions) = w.process.map (·.positions)

section same
variable {w w' w'' : World} {s s' : Store} {m m' : Memory} {α : Type}

theorem Same.refl (w : World) : Same w w := ⟨rfl, rfl, rfl, rfl, rfl, rfl, rfl⟩

theorem Same.trans (h : Same w w') (h' : Same w' w'') : Same w w'' := by
  constructor
  · exact h'.trades.trans h.trades
  · exact h'.intents.trans h.intents
  · exact h'.events.trans h.events
  · exact h'.clock.trans h.clock
  · exact h'.now.trans h.now
  · exact h'.placed.trans h.placed
  · exact h'.positions.trans h.positions

theorem Flat.congr (h : Flat s) (htrades : s'.trades = s.trades)
    (hintents : s'.intents = s.intents) :
    Flat s' := by
  constructor
  · rw [activeTradeRows_congr htrades]
    exact h.trades
  · rw [Store.unresolvedIntents, hintents]
    exact h.intents

theorem Holding.congr {symbol : Symbol} {p : Position} (h : Holding m symbol p)
    (hpositions : m'.positions = m.positions) : Holding m' symbol p := by
  constructor
  · rw [hpositions]
    exact h.held
  · rw [hpositions]
    exact h.sole

theorem Alone.congr {L : TradeRow → Prop} {id : TradeId} (h : Alone L id s)
    (htrades : s'.trades = s.trades) (hclock : s'.clock = s.clock) : Alone L id s' := by
  have htrade : ∀ id', s'.trade id' = s.trade id' := fun id' => by
    unfold Store.trade
    rw [htrades]
  constructor
  · intro id' row hrow
    exact h.others id' row ((htrade id').symm.trans hrow)
  · rw [htrade, hclock]
    exact h.own

theorem Agrees.congr (h : Agrees s m) (htrades : s'.trades = s.trades)
    (hintents : s'.intents = s.intents) (hclock : s'.clock = s.clock)
    (hpositions : m'.positions = m.positions) : Agrees s' m' := by
  cases h with
  | idle hnone hflat => exact .idle (hpositions.trans hnone) (hflat.congr htrades hintents)
  | «open» symbol p id hholding halone hsettled =>
    exact .open symbol p id (hholding.congr hpositions) (halone.congr htrades hclock)
      (hsettled.congr hintents)

theorem Inv.same (h : Inv w) (hsame : Same w w') : Inv w' := by
  constructor
  · unfold Sound
    rw [hsame.placed]
    exact h.sound
  · intro m' hm'
    have hpositions := hsame.positions
    rw [hm'] at hpositions
    obtain ⟨m, hm, heq⟩ := Option.map_eq_some_iff.mp hpositions.symm
    exact (h.agrees m hm).congr hsame.trades hsame.intents hsame.clock heq.symm

/-- A program that changes nothing `Inv` looks at. -/
def Calm (m : Sim α) : Prop := ∀ w, Keeps Act.exec (Same w) m

/-- What does not change along `Same`, a calm program keeps. -/
theorem Calm.keeps {m : Sim α} (h : Calm m) {P : World → Prop}
    (hP : ∀ w w', Same w w' → P w → P w') : Keeps Act.exec P m := by
  intro w hw
  refine wp_mono ?_ (h w w (.refl w))
  intro o w' hsame
  rcases o with a | e | _
  · exact hP w w' hsame hw
  · exact hP w w' hsame hw
  · exact hP w w' hsame hw

/-- An act fails and changes nothing, or it does what it is for. -/
theorem exec_cases {γ : Type} (op : Act γ) (w : World) :
    (∃ e, op.exec γ w = (.error e, w.spend)) ∨ op.exec γ w = op.answer γ w.spend := by
  unfold Act.exec
  cases w.failures.head?.join with
  | some e => exact .inl ⟨e, rfl⟩
  | none => exact .inr rfl

/-- An invariant that failures to come do not matter to is kept by an act that keeps it where it
does not fail. -/
theorem keeps_act {γ : Type} {I : World → Prop} {op : Act γ} (hspend : ∀ w, I w → I w.spend)
    (h : ∀ w, I w → I (op.answer γ w).2) : Keeps Act.exec I (.perform op) := by
  refine .perform fun w hw => ?_
  rcases exec_cases op w with ⟨e, heq⟩ | heq
  · rw [heq]
    exact hspend w hw
  · rw [heq]
    exact h _ (hspend w hw)

theorem Same.spend (w : World) : Same w w.spend := ⟨rfl, rfl, rfl, rfl, rfl, rfl, rfl⟩

theorem calm_act {γ : Type} {op : Act γ} (h : ∀ w, Same w (op.answer γ w).2) : Calm (.perform op) :=
  fun _ => keeps_act (fun w' hw => hw.trans (.spend w')) fun w' hw => hw.trans (h w')

theorem Calm.bind {β : Type} {m : Sim α} {f : α → Sim β} (hm : Calm m) (hf : ∀ a, Calm (f a)) :
    Calm (m >>= f) := fun w => Keeps.bind (hm w) fun a => hf a w

theorem Calm.pure {a : α} : Calm (Pure.pure a : Sim α) := fun _ => Keeps.pure

theorem calm_theStore : Calm theStore := calm_act fun w => .refl w

theorem calm_setData (d : SidecarData) : Calm (.perform (.setData d)) :=
  calm_act fun _ => ⟨rfl, rfl, rfl, rfl, rfl, rfl, rfl⟩

theorem calm_save : Calm (.perform .save) := calm_act fun w => .refl w

theorem calm_theMemory : Calm theMemory := calm_act fun w => by
  simp only [Act.answer]
  split <;> exact .refl w

/-- One condition for an act that fails and for a machine that is stopped. -/
theorem triple_act {γ : Type} {op : Act γ} {P C : World → Prop} {Q : γ → World → Prop}
    (hspend : ∀ w, P w → P w.spend) (hC : ∀ w, P w → C w)
    (hok : ∀ w a w', P w → op.answer γ w = (.ok a, w') → Q a w')
    (herror : ∀ w e w', P w → op.answer γ w = (.error e, w') → C w') :
    Triple Act.exec P (.perform op) Q (fun _ => C) C := by
  refine .perform hC (fun w a w' hw heq => ?_) fun w e w' hw heq => ?_
  · rcases exec_cases op w with ⟨e', herr⟩ | hanswer
    · rw [herr] at heq
      cases heq
    · exact hok _ a w' (hspend w hw) (hanswer ▸ heq)
  · rcases exec_cases op w with ⟨e', herr⟩ | hanswer
    · rw [herr] at heq
      obtain ⟨-, rfl⟩ := Prod.mk.inj heq
      exact hC _ (hspend w hw)
    · exact herror _ e w' (hspend w hw) (hanswer ▸ heq)

theorem triple_theMemory {P C : World → Prop} (hspend : ∀ w, P w → P w.spend)
    (hC : ∀ w, P w → C w) :
    Triple Act.exec P theMemory (fun m w => P w ∧ w.process = some m) (fun _ => C) C := by
  refine triple_act hspend hC (fun w m w' hw heq => ?_) fun w e w' hw heq => ?_
  · cases hm : w.process with
    | none => simp [Act.answer, hm] at heq
    | some m' =>
      simp only [Act.answer, hm] at heq
      obtain ⟨hok, rfl⟩ := Prod.mk.inj heq
      exact ⟨hw, hm.trans (congrArg some (Except.ok.inj hok))⟩
  · simp only [Act.answer] at heq
    split at heq
    · cases heq
    · obtain ⟨-, rfl⟩ := Prod.mk.inj heq
      exact hC _ hw

theorem calm_setMemory {f : Memory → Memory} (hf : ∀ m, (f m).positions = m.positions) :
    Calm (setMemory f) := by
  intro w
  refine Triple.bind (triple_theMemory (fun w' hw => hw.trans (.spend w')) fun _ hw => hw) ?_
  intro m
  refine .perform_same (fun _ hw => hw.1) fun w' hw => ?_
  have hset : Same w { w'.spend with process := some (f m) } := by
    obtain ⟨hsame, hm⟩ := hw
    refine ⟨hsame.trades, hsame.intents, hsame.events, hsame.clock, hsame.now, hsame.placed, ?_⟩
    rw [← hsame.positions, hm]
    exact congrArg some (hf m)
  rcases exec_cases (.setMemory (f m)) w' with ⟨e, heq⟩ | heq
  · rw [heq]
    exact hw.1.trans (.spend w')
  · rw [heq]
    exact hset

theorem calm_setEnabled (on : Bool) : Calm (setEnabled on) := calm_setMemory fun _ => rfl

theorem calm_setEntries (value : Bool) (reason : String) : Calm (setEntries value reason) := by
  refine calm_theStore.bind fun s => ?_
  refine (calm_setData _).bind fun _ => ?_
  exact calm_save

theorem Calm.attempt {m : Sim α} (h : Calm m) : Calm m.attempt := fun w => Keeps.attempt (h w)

theorem calm_disarm (reason : String) : Calm (disarm reason) := by
  refine (calm_setEntries _ _).attempt.bind fun persisted => ?_
  refine (calm_setEnabled _).attempt.bind fun disabled => ?_
  intro w
  split
  · exact Keeps.pure
  · exact Keeps.raise

theorem calm_pause (reason : String) : Calm (pause reason) := by
  refine (calm_setEntries _ _).bind fun _ => ?_
  exact (calm_setEnabled _).attempt.bind fun _ => .pure

theorem calm_mirrorPositions (status : String) : Calm (mirrorPositions status) := by
  refine calm_theStore.bind fun s => ?_
  refine Calm.bind (calm_act fun w => .refl w) fun now => ?_
  refine (calm_setData _).bind fun _ => ?_
  refine calm_save.bind fun _ => ?_
  exact calm_theMemory.bind fun _ => .pure

theorem calm_verifiedReconcile : Calm verifiedReconcile := by
  refine calm_theStore.bind fun s => ?_
  exact (calm_mirrorPositions _).bind fun _ => .pure

theorem calm_ofExcept (r : Except Exc α) : Calm (Prog.ofExcept r) := fun _ => Keeps.ofExcept

theorem calm_registerPair (symbol : Symbol) (pair : Pair) : Calm (registerPair symbol pair) := by
  refine calm_theStore.bind fun s => ?_
  refine (calm_ofExcept _).bind fun s => ?_
  refine (calm_setData _).bind fun _ => ?_
  exact calm_save

theorem calm_startup : Calm startup := by
  apply Calm.bind
  · exact calm_setMemory fun _ => rfl
  · intro _
    refine calm_verifiedReconcile.bind fun v => ?_
    intro w
    exact Keeps.ite (calm_disarm _ w) Keeps.raise

theorem calm_verifyFlatForSwitch : Calm verifyFlatForSwitch := by
  refine calm_theMemory.bind fun m => ?_
  refine calm_theStore.bind fun s => ?_
  intro w
  exact Keeps.ite Keeps.pure (Keeps.ite Keeps.pure (Keeps.ite Keeps.pure Keeps.pure))

end same

section events
variable {s : Store} {symbol : Symbol} {stop : ℤ} {row : TradeRow}

theorem Event.proposes_rank {e : Event} {l : Lifecycle} (h : e.proposes = some l) :
    l.stateRank ≤ 9 := by
  unfold SpotSidecar.Event.proposes at h
  split at h
  · split_ifs at h <;> cases h <;> decide
  · split_ifs at h <;> cases h <;> decide
  · cases h

theorem applyEvent_rank (e : Event) (key : EventKey) (now : ℕ) (h : row.lifecycle.stateRank ≤ 9) :
    (applyEvent row e key now).lifecycle.stateRank ≤ 9 := by
  rw [applyEvent_lifecycle]
  split
  · rcases row.lifecycle.advance_eq_or e.proposes with hold | hnew
    · rw [hold]
      exact h
    · exact Event.proposes_rank hnew
  · exact h

theorem Guarded.applyEvent (h : Guarded symbol stop row) (e : Event) (key : EventKey) (now : ℕ) :
    Guarded symbol stop (applyEvent row e key now) :=
  ⟨h.traded, h.recorded, h.nonneg, applyEvent_rank e key now h.rank⟩

/-- The event of an exit closes the row of the position. -/
theorem Guarded.exit {p : Position} (h : Guarded symbol p.stopOrderId row) (ts : ℤ)
    (key : EventKey) (now : ℕ) :
    row.matchesEvent (p.exitEvent symbol ts).orderId (p.exitEvent symbol ts).orderListId
        (p.exitEvent symbol ts).symbol = true ∧
      (SpotSidecar.applyEvent row (p.exitEvent symbol ts) key now).lifecycle.terminal = true := by
  obtain ⟨htraded, hrecorded, hnonneg, hrank⟩ := h
  constructor
  · have hclause : p.stopOrderId ≠ -1 := by omega
    simp [TradeRow.matchesEvent, Position.exitEvent, htraded, hrecorded, Ident.clause, hclause,
      Ident.equals, Ident.column]
  · rw [applyEvent_lifecycle]
    simp only [Position.exitEvent, if_true]
    cases hl : row.lifecycle <;> simp_all [Lifecycle.advance, SpotSidecar.Event.proposes,
      Lifecycle.terminal, Lifecycle.stateRank, SpotSidecar.Event.protective]

theorem Flat.record (h : Flat s) (e : Event) : Flat (s.recordExchangeEvent e).2 := by
  have hclosed := closed_iff.mp h.trades
  constructor
  · exact closed_iff.mpr fun id row hrow => recordExchangeEvent_closed (hclosed id) hrow
  · rw [Store.unresolvedIntents, Store.recordExchangeEvent_intents]
    exact h.intents

theorem Agrees.record {m : Memory} (h : Agrees s m) (e : Event) :
    Agrees (s.recordExchangeEvent e).2 m := by
  cases h with
  | idle hnone hflat => exact .idle hnone (hflat.record e)
  | «open» symbol p id hholding halone hsettled =>
    refine .open symbol p id hholding
      (halone.record fun row key now hrow => hrow.applyEvent e key now) ?_
    exact hsettled.congr (Store.recordExchangeEvent_intents s e)

end events

section commands
variable {w : World} {α : Type}

theorem Inv.spend (h : Inv w) : Inv w.spend := h.same (.spend w)

/-- `Inv`, where the open positions are known. -/
def At (d : Dict Symbol Position) (w : World) : Prop :=
  Inv w ∧ w.process.map (·.positions) = some d

theorem At.same {d : Dict Symbol Position} {w' : World} (h : At d w) (hsame : Same w w') :
    At d w' := ⟨h.1.same hsame, hsame.positions.trans h.2⟩

theorem Inv.record (h : Inv w) (e : Event) :
    Inv { w with store := (w.store.recordExchangeEvent e).2 } :=
  ⟨h.sound, fun m hm => (h.agrees m hm).record e⟩

theorem keeps_emit (d : Dict Symbol Position) (e : Event) : Keeps Act.exec (At d) (emit e) := by
  refine Keeps.bind (keeps_act (fun w hw => hw.same (.spend w)) fun w hw => ?_) fun isNew => ?_
  · exact ⟨hw.1.record e, hw.2⟩
  · refine Keeps.ite (keeps_act (fun w hw => hw.same (.spend w)) fun w hw => hw) Keeps.pure

theorem triple_milliseconds {P : World → Prop} (hspend : ∀ w, P w → P w.spend)
    (hP : ∀ w, P w → Inv w) :
    Triple Act.exec P milliseconds (fun ts w => P w ∧ ts = ⌊w.now * 1000⌋) (fun _ => Inv) Inv := by
  refine .bind (Q := fun now w => P w ∧ now = w.now)
    (triple_act hspend hP (fun w a w' hw heq => ?_) fun w e w' hw heq => ?_) fun now => ?_
  · obtain ⟨hok, rfl⟩ := Prod.mk.inj heq
    exact ⟨hw, (Except.ok.inj hok).symm⟩
  · cases heq
  · refine .pure fun w hw => ?_
    rw [← hw.2]
    exact ⟨hw.1, rfl⟩

/-- Where a position is held, it is the one that is looked up. -/
theorem Holding.lookup {m : Memory} {symbol symbol' : Symbol} {p p' : Position}
    (h : Holding m symbol p) (hlookup : m.positions.lookup symbol' = some p') :
    symbol' = symbol ∧ p' = p := by
  by_cases hsymbol : symbol' = symbol
  · rw [hsymbol, h.held] at hlookup
    exact ⟨hsymbol, (Option.some.inj hlookup).symm⟩
  · rw [h.sole symbol' hsymbol] at hlookup
    cases hlookup

theorem Agrees.opened {s : Store} {m : Memory} {symbol : Symbol} {p : Position} (h : Agrees s m)
    (hlookup : m.positions.lookup symbol = some p) :
    Holding m symbol p ∧ Settled s ∧ ∃ id, Alone (Guarded symbol p.stopOrderId) id s := by
  cases h with
  | idle hnone hflat =>
    rw [hnone, AList.lookup_empty] at hlookup
    cases hlookup
  | «open» symbol' p' id hholding halone hsettled =>
    obtain ⟨rfl, rfl⟩ := hholding.lookup hlookup
    exact ⟨hholding, hsettled, _, halone⟩

/-- A write of the positions that the tables bear out. -/
theorem triple_setPositions {P : World → Prop} {f : Memory → Memory}
    (hspend : ∀ w, P w → P w.spend) (hP : ∀ w, P w → Inv w)
    (hset : ∀ w m, P w → w.process = some m → Agrees w.store (f m)) :
    Triple Act.exec P (setMemory f) (fun _ => Inv) (fun _ => Inv) Inv := by
  refine .bind (triple_theMemory hspend hP) fun m => ?_
  refine triple_act (fun w hw => ⟨hspend w hw.1, hw.2⟩) (fun w hw => hP w hw.1)
    (fun w a w' hw heq => ?_) fun w e w' hw heq => ?_
  · obtain ⟨-, rfl⟩ := Prod.mk.inj heq
    refine ⟨(hP w hw.1).sound, fun m' hm' => ?_⟩
    obtain rfl := Option.some.inj hm'
    exact hset w m hw.1 hw.2
  · cases heq

theorem keeps_convert (symbol : Symbol) (mode : String) :
    Keeps Act.exec Inv (convert symbol mode) := by
  refine Triple.bind (triple_theMemory (fun w hw => hw.spend) fun _ hw => hw) fun m => ?_
  cases hlookup : m.positions.lookup symbol with
  | none =>
    simp only
    exact .pure fun w hw => hw.1
  | some position =>
    simp only
    have hat : ∀ w, Inv w ∧ w.process = some m → At m.positions w := fun w hw =>
      ⟨hw.1, by rw [hw.2]; rfl⟩
    refine Triple.weaken ?_ hat
    refine Triple.bind (triple_milliseconds (fun w hw => hw.same (.spend w)) fun w hw => hw.1) ?_
    intro ts
    refine Triple.bind (Q := fun _ => At m.positions) ((keeps_emit _ _).conseq (fun w hw => hw.1)
      (fun _ _ hw => hw) (fun _ _ hw => hw.1) fun _ hw => hw.1) fun _ => ?_
    refine Triple.bind (Q := fun _ => At m.positions) ((keeps_emit _ _).conseq (fun w hw => hw)
      (fun _ _ hw => hw) (fun _ _ hw => hw.1) fun _ hw => hw.1) fun _ => ?_
    refine Triple.bind (triple_setPositions (fun w hw => hw.same (.spend w)) (fun w hw => hw.1)
      fun w m' hw hm' => ?_) fun _ => .pure fun _ hw => hw
    have hpositions : m'.positions = m.positions := by
      have h := hw.2
      rw [hm'] at h
      exact Option.some.inj h
    obtain ⟨hholding, hsettled, id, halone⟩ :=
      (hw.1.agrees m' hm').opened (hpositions ▸ hlookup)
    refine .open symbol _ id ⟨AList.lookup_insert _, ?_⟩ halone hsettled
    intro symbol' hsymbol
    exact (AList.lookup_insert_ne hsymbol).trans (hholding.sole symbol' hsymbol)

/-- The event of an exit was not recorded before. -/
def Fresh (symbol : Symbol) (w : World) : Prop :=
  ∀ m p, w.process = some m → m.positions.lookup symbol = some p →
    w.store.events.any (·.key = (p.exitEvent symbol ⌊w.now * 1000⌋).key) = false

theorem Fresh.same {symbol : Symbol} {w' : World} (h : Fresh symbol w) (hsame : Same w w') :
    Fresh symbol w' := by
  intro m' p hm' hlookup
  have hpositions := hsame.positions
  rw [hm'] at hpositions
  obtain ⟨m, hm, heq⟩ := Option.map_eq_some_iff.mp hpositions.symm
  rw [hsame.events, hsame.now]
  exact h m p hm (heq ▸ hlookup)

/-- The record of an exit leaves no row open. -/
theorem Agrees.exit {s : Store} {m : Memory} {symbol : Symbol} {p : Position} {ts : ℤ}
    (h : Agrees s m) (hlookup : m.positions.lookup symbol = some p)
    (hfresh : s.events.any (·.key = (p.exitEvent symbol ts).key) = false) :
    (s.recordExchangeEvent (p.exitEvent symbol ts)).2.activeTradeRows = [] := by
  obtain ⟨-, -, id, halone⟩ := h.opened hlookup
  rw [closed_iff]
  intro id' row hrow
  by_cases hid : id' = id
  · obtain ⟨old, hold, -, hguarded⟩ := halone.own
    have hexit := hguarded.exit ts (p.exitEvent symbol ts).key (s.clock + 1)
    rw [Store.recordExchangeEvent_trade, hfresh, if_neg Bool.false_ne_true, hid, hold,
      Option.map_some, if_pos hexit.1] at hrow
    obtain rfl := Option.some.inj hrow
    exact hexit.2
  · exact recordExchangeEvent_closed (fun old hold => halone.others id' old hold hid) hrow

theorem triple_emergencyExit (symbol : Symbol) :
    Triple Act.exec (fun w => Inv w ∧ Fresh symbol w) (emergencyExit symbol) (fun _ => Inv)
      (fun _ => Inv) Inv := by
  refine Triple.bind (triple_theMemory (fun w hw => ⟨hw.1.spend, hw.2.same (.spend w)⟩)
    fun _ hw => hw.1) fun m => ?_
  cases hlookup : m.positions.lookup symbol with
  | none =>
    simp only
    exact .pure fun w hw => hw.1.1
  | some position =>
    simp only
    have hat : ∀ w, (Inv w ∧ Fresh symbol w) ∧ w.process = some m →
        At m.positions w ∧ Fresh symbol w := fun w hw =>
      ⟨⟨hw.1.1, by rw [hw.2]; rfl⟩, hw.1.2⟩
    have hsame : ∀ w w', Same w w' → At m.positions w ∧ Fresh symbol w →
        At m.positions w' ∧ Fresh symbol w' := fun w w' hsame hw =>
      ⟨hw.1.same hsame, hw.2.same hsame⟩
    have hpositions : ∀ w m', At m.positions w → w.process = some m' →
        m'.positions = m.positions := by
      intro w m' hw hm'
      have h := hw.2
      rw [hm'] at h
      exact Option.some.inj h
    refine Triple.weaken ?_ hat
    refine Triple.bind (Q := fun _ w => At m.positions w ∧ Fresh symbol w)
      (((calm_setEnabled false).keeps hsame).conseq (fun _ hw => hw) (fun _ _ hw => hw)
        (fun _ _ hw => hw.1.1) fun _ hw => hw.1.1) fun _ => ?_
    refine Triple.bind (triple_milliseconds (fun w hw => hsame w _ (.spend w) hw)
      fun w hw => hw.1.1) fun ts => ?_
    refine Triple.bind (Q := fun _ w => At m.positions w ∧ w.store.activeTradeRows = [])
      ?_ fun _ => ?_
    · unfold emit
      refine .bind (Q := fun _ w => At m.positions w ∧ w.store.activeTradeRows = [])
        (triple_act (fun w hw => ⟨hsame w _ (.spend w) hw.1, hw.2⟩) (fun w hw => hw.1.1.1)
          (fun w a w' hw heq => ?_) fun w e w' hw heq => ?_) fun isNew => ?_
      · obtain ⟨-, rfl⟩ := Prod.mk.inj heq
        obtain ⟨⟨hatm, hfresh⟩, rfl⟩ := hw
        refine ⟨⟨hatm.1.record _, hatm.2⟩, ?_⟩
        obtain ⟨m', hm', heq⟩ := Option.map_eq_some_iff.mp hatm.2
        have hlookup' : m'.positions.lookup symbol = some position := heq ▸ hlookup
        exact (hatm.1.agrees m' hm').exit hlookup' (hfresh m' position hm' hlookup')
      · cases heq
      · refine .ite (fun _ => ?_) fun _ => .pure fun _ hw => hw
        refine triple_act (fun w hw => ⟨hw.1.same (.spend w), hw.2⟩) (fun w hw => hw.1.1)
          (fun w a w' hw heq => ?_) fun w e w' hw heq => ?_
        · obtain ⟨-, rfl⟩ := Prod.mk.inj heq
          exact hw
        · cases heq
    · refine Triple.bind (triple_setPositions (fun w hw => ⟨hw.1.same (.spend w), hw.2⟩)
        (fun w hw => hw.1.1) fun w m' hw hm' => ?_) fun _ => .pure fun _ hw => hw
      have hlookup' : m'.positions.lookup symbol = some position :=
        (hpositions w m' hw.1 hm').symm ▸ hlookup
      obtain ⟨hholding, hsettled, -⟩ := (hw.1.1.agrees m' hm').opened hlookup'
      refine .idle (Dict.eq_empty_of_lookup fun symbol' => ?_) ⟨hw.2, settled_iff.mp hsettled⟩
      by_cases hsymbol : symbol' = symbol
      · rw [hsymbol]
        exact AList.lookup_erase _ _
      · exact (AList.lookup_erase_ne hsymbol).trans (hholding.sole symbol' hsymbol)

/-- A command keeps the invariant, also where some of its acts fail and where it is stopped. -/
theorem triple_processCommand (c : Command) :
    Triple Act.exec (fun w => Inv w ∧ ∀ symbol, c = .emergencyExit symbol → Fresh symbol w)
      (processCommand c) (fun _ => Inv) (fun _ => Inv) Inv := by
  have hcalm : ∀ {β : Type} {m : Sim β}, Calm m → Keeps Act.exec Inv m := fun hm =>
    hm.keeps fun _ _ hsame hw => hw.same hsame
  cases c with
  | entries enabled =>
    refine Triple.weaken ?_ fun w hw => hw.1
    cases enabled with
    | true => exact hcalm ((calm_setEnabled true).bind fun _ => calm_setEntries _ _)
    | false => exact hcalm (calm_disarm _)
  | setMode mode =>
    refine Triple.weaken ?_ fun w hw => hw.1
    exact hcalm (calm_theStore.bind fun s => (calm_setData _).bind fun _ => calm_save)
  | reconcile =>
    refine Triple.weaken ?_ fun w hw => hw.1
    exact hcalm (calm_verifiedReconcile.bind fun _ => .pure)
  | completePairSwitch pair =>
    refine Triple.weaken ?_ fun w hw => hw.1
    refine Keeps.bind (hcalm (calm_disarm _)) fun _ => ?_
    refine Keeps.bind (hcalm calm_verifyFlatForSwitch) fun v => ?_
    exact Keeps.ite (hcalm (calm_registerPair _ _)) Keeps.pure
  | emergencyExit symbol =>
    refine Triple.weaken (R := fun w => Inv w ∧ Fresh symbol w) ?_
      fun w hw => ⟨hw.1, hw.2 symbol rfl⟩
    refine Triple.bind (Q := fun _ w => Inv w ∧ Fresh symbol w)
      (((calm_disarm _).keeps fun w w' hsame hw => ⟨hw.1.same hsame, hw.2.same hsame⟩).conseq
        (fun _ hw => hw) (fun _ _ hw => hw) (fun _ _ hw => hw.1) fun _ hw => hw.1) fun _ => ?_
    exact Triple.bind (triple_emergencyExit symbol) fun _ => .pure fun _ hw => hw
  | convert symbol mode =>
    refine Triple.weaken ?_ fun w hw => hw.1
    refine Keeps.bind (hcalm (calm_disarm _)) fun _ => ?_
    exact Keeps.bind (keeps_convert symbol mode) fun _ => Keeps.pure

end commands

end Simulation
end SpotSidecar
