import SpotSidecar.Simulation.Agreement

/-! Entries of the simulated adapter are placed where the live adapter would place them, in every
run in which each start finds flat tables and no submission is ambiguous or interrupted. -/
namespace SpotSidecar.Simulation
open Interaction Prog
variable {α β : Type} {digest : Digest} {sig : Signal}

/-- A condition on the store, the memory of the process that runs and the faults to come. -/
abbrev Cond := Store → Memory → List Fault → Prop

/-- No act to come fails, every entry placed was admitted, and a process runs in the condition. -/
structure Going (P : Cond) (w : World) : Prop where
  clean : ∀ f ∈ w.failures, f = none
  sound : Sound w
  here : ∃ m, w.process = some m ∧ P w.store m w.faults

/-- From `P`, with no act that fails, the program ends in `Q`, or raises where all is in order. -/
def Surely (P : Cond) (m : Sim α) (Q : α → Cond) : Prop :=
  Triple Act.exec (Going P) m (fun a => Going (Q a)) (fun _ => Inv) Sound

section rules
variable {P P' : Cond} {Q Q' : α → Cond} {R : β → Cond} {m : Sim α}

theorem Surely.bind {f : α → Sim β} (hm : Surely P m Q) (hf : ∀ a, Surely (Q a) (f a) R) :
    Surely P (m >>= f) R := Triple.bind hm hf

theorem Surely.pure {a : α} (h : ∀ s m f, P s m f → Q a s m f) : Surely P (Pure.pure a) Q :=
  Triple.pure fun _ hw => ⟨hw.clean, hw.sound, hw.here.imp fun _ h' => ⟨h'.1, h _ _ _ h'.2⟩⟩

theorem Surely.weaken (h : Surely P' m Q) (hP : ∀ s m f, P s m f → P' s m f) : Surely P m Q :=
  Triple.weaken h fun _ hw =>
    ⟨hw.clean, hw.sound, hw.here.imp fun _ h' => ⟨h'.1, hP _ _ _ h'.2⟩⟩

theorem Surely.post (h : Surely P m Q') (hQ : ∀ a s m f, Q' a s m f → Q a s m f) :
    Surely P m Q :=
  Triple.post h fun a _ hw =>
    ⟨hw.clean, hw.sound, hw.here.imp fun _ h' => ⟨h'.1, hQ a _ _ _ h'.2⟩⟩

theorem Surely.ite {c : Prop} [Decidable c] {m' : Sim α} (h : c → Surely P m Q)
    (h' : ¬c → Surely P m' Q) : Surely P (if c then m else m') Q := Triple.ite h h'

theorem Surely.ofExcept {r : Except Exc α} {a : α} (hr : ∀ s m f, P s m f → r = .ok a)
    (h : ∀ s m f, P s m f → Q a s m f) : Surely P (Prog.ofExcept r) Q := by
  intro w hw
  obtain ⟨m, hm, hP⟩ := hw.here
  rw [hr _ _ _ hP]
  exact ⟨hw.clean, hw.sound, m, hm, h _ _ _ hP⟩

/-- A value that is known. -/
theorem Surely.known {r : Except Exc α} {a : α} {g : α → Sim β} (hr : r = .ok a)
    (h : Surely P (g a) R) : Surely P (Prog.ofExcept r >>= g) R := by
  rw [hr]
  exact h

/-- An act that cannot fail by itself. -/
theorem Surely.act {op : Act α}
    (h : ∀ w m, Sound w → w.process = some m → P w.store m w.faults → ∃ a w' m',
      op.answer α w = (.ok a, w') ∧ w'.failures = w.failures ∧ Sound w' ∧ w'.process = some m' ∧
        Q a w'.store m' w'.faults) : Surely P (.perform op) Q := by
  have hanswer : ∀ w, Going P w → ∃ a w', op.exec α w = (.ok a, w') ∧ Going (Q a) w' := by
    intro w hw
    obtain ⟨m, hm, hP⟩ := hw.here
    have hhead : w.failures.head?.join = none := by
      cases hfailures : w.failures with
      | nil => rfl
      | cons f rest => exact hw.clean f (hfailures ▸ List.mem_cons_self)
    obtain ⟨a, w', m', heq, hfailures, hsound, hm', hQ⟩ := h w.spend m hw.sound hm hP
    refine ⟨a, w', ?_, ?_, hsound, m', hm', hQ⟩
    · unfold Act.exec
      rw [hhead]
      exact heq
    · intro f hf
      rw [hfailures] at hf
      exact hw.clean f (List.mem_of_mem_tail hf)
  refine .perform (fun w hw => hw.sound) (fun w a w' hw heq => ?_) fun w e w' hw heq => ?_
  · obtain ⟨b, v, hexec, hgoing⟩ := hanswer w hw
    rw [hexec] at heq
    obtain ⟨hok, rfl⟩ := Prod.mk.inj heq
    exact Except.ok.inj hok ▸ hgoing
  · obtain ⟨b, v, hexec, -⟩ := hanswer w hw
    rw [hexec] at heq
    cases heq

/-- An act that only writes the store. -/
theorem Surely.write {op : Act α} (h : ∀ s m f, P s m f → ∃ a s', Q a s' m f ∧
    ∀ w : World, w.store = s → op.answer α w = (.ok a, { w with store := s' })) :
    Surely P (.perform op) Q := by
  refine .act fun w m hsound hm hP => ?_
  obtain ⟨a, s', hQ, hop⟩ := h _ _ _ hP
  exact ⟨a, _, m, hop w rfl, rfl, hsound, hm, hQ⟩

/-- An act that changes neither the store nor the memory nor the faults. -/
theorem Surely.idle {op : Act α} (h : ∀ w : World, ∃ a w', op.answer α w = (.ok a, w') ∧
    w'.failures = w.failures ∧ w'.placed = w.placed ∧ w'.process = w.process ∧
      w'.store = w.store ∧ w'.faults = w.faults) : Surely P (.perform op) fun _ => P := by
  refine .act fun w m hsound hm hP => ?_
  obtain ⟨a, w', hop, hfailures, hplaced, hprocess, hstore, hfaults⟩ := h w
  refine ⟨a, w', m, hop, hfailures, ?_, hprocess.trans hm, ?_⟩
  · unfold Sound
    rw [hplaced]
    exact hsound
  · rw [hstore, hfaults]
    exact hP

theorem Surely.memory : Surely P theMemory fun m s m' f => m' = m ∧ P s m' f :=
  .act fun w m hsound hm hP => ⟨m, w, m, by simp only [Act.answer, hm], rfl, hsound, hm, rfl, hP⟩

theorem Surely.setMemory {g : Memory → Memory} :
    Surely P (setMemory g) fun _ s m f => ∃ m', m = g m' ∧ P s m' f := by
  refine Surely.bind .memory fun m => .act fun w m' hsound hm hP => ?_
  exact ⟨(), { w with process := some (g m) }, g m, rfl, rfl, hsound, rfl, m', by rw [hP.1], hP.2⟩

theorem Surely.store : Surely P theStore fun s' s m f => s = s' ∧ P s m f :=
  .write fun s _ _ hP => ⟨s, s, ⟨rfl, hP⟩, by rintro w rfl; rfl⟩

theorem Surely.milliseconds : Surely P milliseconds fun _ => P :=
  Surely.bind (.idle fun w => ⟨_, w, rfl, rfl, rfl, rfl, rfl, rfl⟩) fun _ => .pure fun _ _ _ h => h

theorem Surely.upsert {id : TradeId} {pair : Pair} {fields : TradeFields}
    (h : ∀ s m f, P s m f → P' (s.upsertTrade id pair fields) m f) :
    Surely P (upsert id pair fields) fun _ => P' :=
  .write fun s m f hP => ⟨(), s.upsertTrade id pair fields, h s m f hP, by rintro w rfl; rfl⟩

theorem Surely.emit {e : Event} (h : ∀ s m f, P s m f → P' (s.recordExchangeEvent e).2 m f) :
    Surely P (emit e) fun _ => P' := by
  refine Surely.bind (Q := fun _ => P') (.write fun s m f hP =>
    ⟨(s.recordExchangeEvent e).1, (s.recordExchangeEvent e).2, h s m f hP, by rintro w rfl; rfl⟩) ?_
  intro isNew
  refine .ite (fun _ => ?_) fun _ => .pure fun _ _ _ hP => hP
  exact .idle fun w => ⟨_, w, rfl, rfl, rfl, rfl, rfl, rfl⟩

theorem Going.inv {w : World} (h : Going P w) (hP : ∀ s m f, P s m f → Agrees s m) : Inv w := by
  obtain ⟨m, hm, hholds⟩ := h.here
  refine ⟨h.sound, fun m' hm' => ?_⟩
  rw [hm] at hm'
  obtain rfl := Option.some.inj hm'
  exact hP _ _ _ hholds

end rules

section place
variable {s s' : Store} {m : Memory} {L L' : TradeRow → Prop} {state : IntentState}

/-- The row of a signal whose entry has no fill. -/
def Entering (pair : Pair) (row : TradeRow) : Prop :=
  row.pair = pair ∧ (row.lifecycle = .signalApproved ∨ row.lifecycle.terminal = true)

/-- The row of a signal whose entry is being filled. -/
def Filling (pair : Pair) (row : TradeRow) : Prop :=
  row.pair = pair ∧ row.lifecycle.stateRank ≤ 9

theorem Entering.filling {pair : Pair} {row : TradeRow} (h : Entering pair row) :
    Filling pair row := by
  refine ⟨h.1, ?_⟩
  rcases h.2 with hl | hl
  · rw [hl]
    decide
  · cases hlife : row.lifecycle <;> rw [hlife] at hl <;> first | decide | cases hl

/-- Events that propose a closed lifecycle or none leave an entry without a fill. -/
theorem Entering.applyEvent {pair : Pair} {row : TradeRow} (h : Entering pair row) {e : Event}
    (he : ∀ l, e.proposes = some l → l.terminal = true) (key : EventKey) (now : ℕ) :
    Entering pair (SpotSidecar.applyEvent row e key now) := by
  refine ⟨h.1, ?_⟩
  rw [applyEvent_lifecycle]
  split
  · rcases row.lifecycle.advance_eq_or e.proposes with hold | hnew
    · rw [hold]
      exact h.2
    · exact .inr (he _ hnew)
  · exact h.2

theorem Filling.applyEvent {pair : Pair} {row : TradeRow} (h : Filling pair row) (e : Event)
    (key : EventKey) (now : ℕ) : Filling pair (SpotSidecar.applyEvent row e key now) :=
  ⟨h.1, applyEvent_rank e key now h.2⟩

variable (digest sig) in
/-- Nothing is open but the row of the signal, and nothing unresolved but its intent. -/
structure Working (L : TradeRow → Prop) (state : IntentState) (s : Store) (m : Memory) : Prop where
  unheld : m.positions = ∅
  alone : Alone L sig.id s
  busy : Busy (digest sig.id sig.pair.symbol) state s
  paired : s.pairForSymbol sig.pair.symbol = .ok sig.pair

theorem pairForSymbol_congr {symbol : Symbol} (h : s'.data = s.data) :
    s'.pairForSymbol symbol = s.pairForSymbol symbol := by
  unfold Store.pairForSymbol
  rw [h]

theorem Working.upsert (h : Working digest sig L state s m) {fields : TradeFields}
    (hL : ∀ row now, L row → L' (row.set fields now)) :
    Working digest sig L' state (s.upsertTrade sig.id sig.pair fields) m := by
  constructor
  · exact h.unheld
  · exact h.alone.upsert hL
  · exact h.busy.congr (Store.upsertTrade_intents s _ _ _)
  · rw [pairForSymbol_congr (upsertTrade_data s _ _ _)]
    exact h.paired

theorem Working.record (h : Working digest sig L state s m) {e : Event}
    (hL : ∀ row key now, L row → L (applyEvent row e key now)) :
    Working digest sig L state (s.recordExchangeEvent e).2 m := by
  constructor
  · exact h.unheld
  · exact h.alone.record hL
  · exact h.busy.congr (Store.recordExchangeEvent_intents s e)
  · rw [pairForSymbol_congr (recordExchangeEvent_data s e)]
    exact h.paired

theorem Working.mono (h : Working digest sig L state s m) (hL : ∀ row, L row → L' row) :
    Working digest sig L' state s m :=
  ⟨h.unheld, h.alone.mono hL, h.busy, h.paired⟩

variable (sig) in
/-- An entry that was placed and has no fill. -/
structure Unfilled (s : Store) (m : Memory) : Prop where
  unheld : m.positions = ∅
  alone : Alone (Entering sig.pair) sig.id s
  settled : Settled s
  paired : s.pairForSymbol sig.pair.symbol = .ok sig.pair

theorem surely_finish {P : Cond} {state' : IntentState} {orderId listId : Ident}
    {error : Option String} {Q : Cond} (hfinished : state'.finished = true)
    (hresolved : state'.unresolved = false)
    (h : ∀ s m f, P s m f → Working digest sig L state s m)
    (hQ : ∀ s s' m f, P s m f → Spares s s' → Settled s' → Q s' m f) :
    Surely P (finish (digest sig.id sig.pair.symbol) state' orderId listId error) fun _ => Q := by
  refine .write fun s m f hP => ?_
  obtain ⟨s', hfinish, hspares, hsettled⟩ :=
    (h s m f hP).busy.finish hfinished hresolved orderId listId error
  refine ⟨(), s', hQ s s' m f hP hspares hsettled, ?_⟩
  rintro w rfl
  simp only [Act.answer, hfinish]

theorem surely_emit {e : Event} (hL : ∀ row key now, L row → L (applyEvent row e key now)) :
    Surely (fun s m _ => Working digest sig L state s m) (emit e)
      fun _ s m _ => Working digest sig L state s m :=
  .emit fun _ _ _ hw => hw.record hL

theorem surely_upsert (L' : TradeRow → Prop) {fields : TradeFields}
    (hL : ∀ row now, L row → L' (row.set fields now)) :
    Surely (fun s m _ => Working digest sig L state s m) (upsert sig.id sig.pair fields)
      fun _ s m _ => Working digest sig L' state s m :=
  .upsert fun _ _ _ hw => hw.upsert hL

theorem surely_rejectEntry (x : Entry) :
    Surely (fun s m _ => Working digest sig (Entering sig.pair) .submitting s m)
      (rejectEntry x (digest sig.id sig.pair.symbol))
      fun v s m _ => v.1 = false ∧ Unfilled sig s m := by
  have hrejected : ∀ l, (x.report 2 .rejected 0 0 1).proposes = some l → l.terminal = true := by
    intro l hl
    simp [Event.proposes, Entry.report, Event.ended, Event.executed, Scalar.nonneg?] at hl
    rw [← hl]
    rfl
  refine (surely_emit fun row key now hrow => hrow.applyEvent hrejected key now).bind fun _ => ?_
  refine Surely.bind (surely_finish (Q := fun s m _ => Unfilled sig s m) rfl rfl
    (fun _ _ _ hw => hw) fun s s' m f hw hspares hsettled => ?_) fun _ => ?_
  · refine ⟨hw.unheld, hw.alone.spared hspares, hsettled, ?_⟩
    rw [pairForSymbol_congr hspares.data]
    exact hw.paired
  · exact .pure fun _ _ _ hw => ⟨rfl, hw⟩

theorem surely_emitFill (x : Entry) (isPartial : Bool) (filled : ℚ) :
    Surely (fun s m _ => Working digest sig (Filling sig.pair) .submitting s m)
      (emitFill x sig.pair isPartial filled)
      fun _ s m _ => Working digest sig (Filling sig.pair) .submitting s m := by
  have hemit : ∀ e, Surely (fun s m _ => Working digest sig (Filling sig.pair) .submitting s m)
      (emit e) fun _ s m _ => Working digest sig (Filling sig.pair) .submitting s m :=
    fun e => surely_emit fun row key now hrow => hrow.applyEvent e key now
  unfold emitFill
  refine (hemit _).bind fun _ => ?_
  cases isPartial with
  | true => exact (hemit _).bind fun _ => (hemit _).bind fun _ => hemit _
  | false => exact (hemit _).bind fun _ => hemit _

theorem surely_fillEntry (x : Entry) (isPartial : Bool) (hsymbol : x.symbol = sig.pair.symbol) :
    Surely (fun s m _ => Working digest sig (Entering sig.pair) .submitting s m)
      (fillEntry x sig.id sig.pair (digest sig.id sig.pair.symbol) isPartial)
      fun v s m _ => v.1 = true ∧ Agrees s m := by
  refine Surely.weaken ?_ fun s m f hw => hw.mono fun row hrow => hrow.filling
  refine (surely_emitFill x isPartial _).bind fun _ => ?_
  have hguard : ∀ row fields now, Filling sig.pair row → fields.lifecycle = none →
      fields.stopOrderId = some (some x.protectionOrderId) →
      Guarded sig.pair.symbol x.protectionOrderId (row.set fields now) := by
    intro row fields now hrow hlifecycle hstop
    constructor
    · rw [← hrow.1]
      rfl
    · simp [TradeRow.set, hstop]
    · simp only [Entry.protectionOrderId, Entry.entryOrderId]
      omega
    · simpa [TradeRow.set, hlifecycle] using hrow.2
  refine (surely_upsert (Guarded sig.pair.symbol x.protectionOrderId)
    fun row now hrow => hguard row _ now hrow rfl rfl).bind fun _ => ?_
  refine Surely.bind (surely_finish (Q := fun s m _ => m.positions = ∅ ∧ Settled s ∧
    Alone (Guarded sig.pair.symbol x.protectionOrderId) sig.id s) rfl rfl (fun _ _ _ hw => hw)
    fun s s' m f hw hspares hsettled => ⟨hw.unheld, hsettled, hw.alone.spared hspares⟩) fun _ => ?_
  refine Surely.setMemory.bind fun _ => .pure ?_
  rintro s m f ⟨m', rfl, hempty, hsettled, halone⟩
  refine ⟨rfl, .open sig.pair.symbol
    (x.position sig.pair isPartial (if isPartial then 1 / 2 else 1))
    sig.id ⟨?_, ?_⟩ halone hsettled⟩
  · rw [← hsymbol]
    exact AList.lookup_insert _
  · intro symbol' hne
    rw [← hsymbol] at hne
    refine (AList.lookup_insert_ne hne).trans ?_
    rw [hempty]
    exact AList.lookup_empty _

/-- `submit` once the intent is marked, where the outcome is not ambiguous. -/
theorem surely_submitFaulted (x : Entry) (fault : Fault) (hsymbol : x.symbol = sig.pair.symbol)
    (hfault : fault ≠ .timeout) :
    Surely (fun s m _ => Working digest sig (Entering sig.pair) .submitting s m)
      (submitFaulted x sig.id sig.pair (digest sig.id sig.pair.symbol) fault)
      fun v s m _ => (v.1 = true → Agrees s m) ∧ (v.1 = false → Unfilled sig s m) := by
  unfold submitFaulted
  rw [if_neg hfault]
  refine (surely_upsert (Entering sig.pair) fun row now hrow => hrow).bind fun _ => ?_
  have hnew : ∀ l, (x.report 1 .new 0 0 0).proposes = some l → l.terminal = true := by
    intro l hl
    simp [Event.proposes, Entry.report, Event.ended] at hl
  refine (surely_emit fun row key now hrow => hrow.applyEvent hnew key now).bind fun _ => ?_
  refine .ite (fun _ => ?_) fun _ => ?_
  · refine (surely_rejectEntry x).post fun v s m f hw => ⟨fun hv => ?_, fun _ => hw.2⟩
    rw [hw.1] at hv
    cases hv
  · refine (surely_fillEntry x _ hsymbol).post fun v s m f hw => ⟨fun _ => hw.2, fun hv => ?_⟩
    rw [hw.1] at hv
    cases hv

variable (digest sig) in
/-- The tables once the signal has its row, where no position is open. -/
structure Opening (s : Store) (m : Memory) : Prop where
  unheld : m.positions = ∅
  alone : Alone (Entering sig.pair) sig.id s
  settled : Settled s
  paired : s.pairForSymbol sig.pair.symbol = .ok sig.pair
  unplanned : s.intent (digest sig.id sig.pair.symbol) = none

theorem surely_intent :
    Surely (fun s m _ => Opening digest sig s m) (intent digest sig.id sig.pair.symbol)
      fun id s m _ => id = digest sig.id sig.pair.symbol ∧
        Working digest sig (Entering sig.pair) .prepared s m := by
  unfold Simulation.intent
  refine Surely.bind (Q := fun isNew s m _ => isNew = true ∧
    Working digest sig (Entering sig.pair) .prepared s m) (.act fun w m hsound hm hw => ?_)
    fun isNew => ?_
  · obtain ⟨s', hprepare, hspares, hbusy⟩ :=
      hw.settled.prepare (d := entryDraft digest sig.id sig.pair.symbol) hw.unplanned rfl
    refine ⟨true, { w with store := s', placed := ⟨sig.id, w.store⟩ :: w.placed }, m, ?_, rfl, ?_,
      hm, rfl, hw.unheld, hw.alone.spared hspares, hbusy, ?_⟩
    · simp only [Act.answer, hprepare]
      rfl
    · intro p hp
      rcases List.mem_cons.mp hp with rfl | hp
      · exact hw.alone.admits hw.settled
      · exact hsound p hp
    · rw [pairForSymbol_congr hspares.data]
      exact hw.paired
  · cases isNew with
    | true => exact .pure fun _ _ _ hw => ⟨rfl, hw.2⟩
    | false =>
      intro w hw
      obtain ⟨m, -, hfalse, -⟩ := hw.here
      cases hfalse

/-- The entry of a signal, where its outcome will not be ambiguous. -/
theorem surely_place :
    Surely (fun s m f => Opening digest sig s m ∧ f.head? ≠ some .timeout)
      (place digest sig.id sig.pair.symbol sig.pair)
      fun v s m _ => (v.1 = true → Agrees s m) ∧ (v.1 = false → Unfilled sig s m) := by
  refine Surely.bind (Q := fun _ s m f => Opening digest sig s m ∧ f.head? ≠ some .timeout)
    (Surely.setMemory.post fun _ s m f hw => ?_) fun _ => ?_
  · obtain ⟨m', rfl, hopening, hfault⟩ := hw
    exact ⟨⟨hopening.unheld, hopening.alone, hopening.settled, hopening.paired,
      hopening.unplanned⟩, hfault⟩
  refine Surely.bind (Surely.memory.post (Q := fun _ s m f => Opening digest sig s m ∧
    f.head? ≠ some .timeout) fun _ _ _ _ hw => hw.2) fun m => ?_
  refine Surely.bind (Q := fun fault s m _ => Opening digest sig s m ∧ fault ≠ .timeout)
    (.act fun w m hsound hm hw => ?_) fun fault => ?_
  · cases hfaults : w.faults with
    | nil =>
      refine ⟨.none, w, m, ?_, rfl, hsound, hm, hw.1, by decide⟩
      simp only [Act.answer, hfaults]
    | cons fault plan =>
      refine ⟨fault, { w with faults := plan }, m, ?_, rfl, hsound, hm, hw.1, ?_⟩
      · simp only [Act.answer, hfaults]
      · rw [hfaults] at hw
        simpa using hw.2
  refine Surely.milliseconds.bind fun ts => ?_
  refine Surely.bind (Q := fun id s m _ => (id = digest sig.id sig.pair.symbol ∧ fault ≠ .timeout) ∧
    Working digest sig (Entering sig.pair) .prepared s m) ?_ fun id => ?_
  · intro w hw
    obtain ⟨m', hm', -, hfault⟩ := hw.here
    have hintent : Surely (fun s m _ => Opening digest sig s m)
        (Simulation.intent digest sig.id sig.pair.symbol) fun id s m _ =>
          (id = digest sig.id sig.pair.symbol ∧ fault ≠ .timeout) ∧
            Working digest sig (Entering sig.pair) .prepared s m :=
      surely_intent.post fun _ _ _ _ hw => ⟨⟨hw.1, hfault⟩, hw.2⟩
    exact (hintent.weaken fun _ _ _ h => h.1) w hw
  intro w hw
  obtain ⟨m', hm', ⟨rfl, hfault⟩, -⟩ := hw.here
  suffices h : Surely (fun s m _ => Working digest sig (Entering sig.pair) .prepared s m)
      (.perform (.markIntentSubmitting (digest sig.id sig.pair.symbol)) >>= fun _ =>
        submitFaulted ⟨m.counter, sig.pair.symbol, ts⟩ sig.id sig.pair
          (digest sig.id sig.pair.symbol) fault)
      (fun v s m _ => (v.1 = true → Agrees s m) ∧ (v.1 = false → Unfilled sig s m)) from
    (h.weaken fun _ _ _ h => h.2) w hw
  refine Surely.bind (Q := fun _ s m _ => Working digest sig (Entering sig.pair) .submitting s m)
    (.write fun s m f hw => ?_) fun _ => surely_submitFaulted _ fault rfl hfault
  obtain ⟨s', hmark, hspares, hbusy⟩ := hw.busy.mark
  refine ⟨(), s', ⟨hw.unheld, hw.alone.spared hspares, hbusy, ?_⟩, ?_⟩
  · rw [pairForSymbol_congr hspares.data]
    exact hw.paired
  · rintro w rfl
    simp only [Act.answer, hmark]

end place

section signal
variable {s s' : Store} {m : Memory} {f : List Fault}

variable (digest sig) in
/-- What a signal finds that the adapter has not seen, and a fault that leaves its outcome clear. -/
structure Ready (s : Store) (m : Memory) (f : List Fault) : Prop where
  agrees : Agrees s m
  untraded : s.trade sig.id = none
  unplanned : s.intent (digest sig.id sig.pair.symbol) = none
  certain : m.enabled = true → m.positions = ∅ → f.head? ≠ some .timeout

variable (digest sig) in
/-- The tables once the signal has its row: nothing else differs from where it was `Ready`. -/
structure Approved (s : Store) (m : Memory) (f : List Fault) : Prop where
  before : ∃ s₀, Ready digest sig s₀ m f ∧ s.intents = s₀.intents ∧ s₀.clock < s.clock ∧
    ∀ id, id ≠ sig.id → s.trade id = s₀.trade id
  own : ∃ row, s.trade sig.id = some row ∧ row.pair = sig.pair ∧
    row.lifecycle = .signalApproved ∧ row.updatedAt = s.clock
  paired : s.pairForSymbol sig.pair.symbol = .ok sig.pair

theorem Ready.data (h : Ready digest sig s m f) (d : SidecarData) :
    Ready digest sig { s with data := d } m f :=
  ⟨h.agrees.congr rfl rfl rfl rfl, h.untraded, h.unplanned, h.certain⟩

theorem Signal.symbol_ne (sig : Signal) : sig.pair.symbol ≠ "" := by
  unfold Pair.symbol
  rw [sig.base]
  intro h
  have hlength := congrArg String.length h
  simp at hlength

theorem surely_registerPair :
    Surely (Ready digest sig) (registerPair sig.pair.symbol sig.pair)
      fun _ s m f => Ready digest sig s m f ∧
        s.pairForSymbol sig.pair.symbol = .ok sig.pair := by
  refine Surely.store.bind fun s' => ?_
  have hregister : s'.registerSymbolPair sig.pair.symbol sig.pair =
      .ok { s' with data := { s'.data with
        symbolPairs := (sig.pair.symbol, sig.pair) ::
          s'.data.symbolPairs.filter (·.1 ≠ sig.pair.symbol) } } := by
    unfold Store.registerSymbolPair
    rw [if_neg]
    rintro (hempty | hne)
    · exact sig.symbol_ne hempty
    · exact hne rfl
  refine Surely.bind (Surely.ofExcept (Q := fun r s m f => r = { s' with data := { s'.data with
    symbolPairs := (sig.pair.symbol, sig.pair) ::
      s'.data.symbolPairs.filter (·.1 ≠ sig.pair.symbol) } } ∧ Ready digest sig s m f)
    (fun _ _ _ _ => hregister) fun _ _ _ hw => ⟨rfl, hw.2⟩) fun r => ?_
  refine Surely.bind (Q := fun _ s m f => Ready digest sig s m f ∧
    s.pairForSymbol sig.pair.symbol = .ok sig.pair)
    (.write fun s m f hw => ⟨(), { s with data := r.data }, ⟨hw.2.data _, ?_⟩, ?_⟩) fun _ => ?_
  · obtain ⟨rfl, -⟩ := hw
    simp [Store.pairForSymbol]
  · rintro w rfl
    rfl
  · exact .idle fun w => ⟨_, w, rfl, rfl, rfl, rfl, rfl, rfl⟩

theorem Ready.approve (h : Ready digest sig s m f)
    (hpaired : s.pairForSymbol sig.pair.symbol = .ok sig.pair) (fields : TradeFields)
    (hlifecycle : fields.lifecycle = some .signalApproved) :
    Approved digest sig (s.upsertTrade sig.id sig.pair fields) m f := by
  constructor
  · refine ⟨s, h, Store.upsertTrade_intents s _ _ _, ?_, fun id hid => ?_⟩
    · rw [clock_upsertTrade]
      exact Nat.lt_succ_self _
    · rw [Store.upsertTrade_trade, if_neg hid]
  · refine ⟨_, by rw [Store.upsertTrade_trade, if_pos rfl], ?_, ?_, ?_⟩
    · rw [h.untraded]
      rfl
    · simp [TradeRow.set, hlifecycle]
    · rw [clock_upsertTrade]
      rfl
  · rw [pairForSymbol_congr (upsertTrade_data s _ _ _)]
    exact hpaired

/-- Every open row besides that of the signal was there before, and was written earlier. -/
theorem Approved.latest (h : Approved digest sig s m f) {row r : TradeRow}
    (hrow : s.trade sig.id = some row) (hstamp : row.updatedAt = s.clock)
    (hr : r ∈ s.activeTradeRows) (hne : r ≠ row) : r.updatedAt < row.updatedAt := by
  obtain ⟨s₀, hready, -, hclock, htrade⟩ := h.before
  obtain ⟨hmem, hopen⟩ := mem_activeTradeRows.mp hr
  have hlookup := Store.trade_of_mem hmem
  have hid : r.tradeId ≠ sig.id := by
    intro heq
    rw [heq, hrow] at hlookup
    exact hne (Option.some.inj hlookup).symm
  rw [htrade _ hid] at hlookup
  cases hready.agrees with
  | idle hnone hflat =>
    have hclosed := closed_iff.mp hflat.trades _ _ hlookup
    rw [hopen] at hclosed
    cases hclosed
  | «open» symbol p id hholding halone hsettled =>
    obtain ⟨own, hown, hearlier, -⟩ := halone.own
    have hsame : r = own := by
      have hactive := halone.active (mem_activeTradeRows.mpr ⟨(Store.trade_mem hlookup).1, hopen⟩)
      rw [hown] at hactive
      exact (Option.some.inj hactive).symm
    rw [hstamp, hsame]
    omega

theorem Approved.current (h : Approved digest sig s m f) :
    ∃ row, s.activeTradeForSymbol sig.pair.symbol = .ok (some row) ∧
      row.lifecycle = .signalApproved := by
  obtain ⟨row, hrow, hpair, happroved, hstamp⟩ := h.own
  have hactive : row ∈ s.activeTradeRows := by
    rw [mem_activeTradeRows, happroved]
    exact ⟨(Store.trade_mem hrow).1, rfl⟩
  refine ⟨row, ?_, happroved⟩
  unfold Store.activeTradeForSymbol
  rw [h.paired, Except.map, activeTradeForPair_latest hactive hpair fun r hr hne =>
    h.latest hrow hstamp hr hne]

/-- Closing the row of the signal brings back what was there before it. -/
theorem Approved.close (h : Approved digest sig s m f) {fields : TradeFields}
    (hlifecycle : fields.lifecycle = some .entryRejected) :
    Agrees (s.upsertTrade sig.id sig.pair fields) m := by
  obtain ⟨s₀, hready, hintents, hclock, htrade⟩ := h.before
  have hown : ∀ row, (s.upsertTrade sig.id sig.pair fields).trade sig.id = some row →
      row.lifecycle.terminal = true := by
    intro row hrow
    rw [Store.upsertTrade_trade, if_pos rfl] at hrow
    obtain rfl := Option.some.inj hrow
    simp [TradeRow.set, hlifecycle, Lifecycle.terminal]
  have hother : ∀ id, id ≠ sig.id →
      (s.upsertTrade sig.id sig.pair fields).trade id = s₀.trade id := by
    intro id hid
    rw [Store.upsertTrade_trade, if_neg hid, htrade id hid]
  have hintents' : (s.upsertTrade sig.id sig.pair fields).intents = s₀.intents :=
    (Store.upsertTrade_intents s _ _ _).trans hintents
  cases hready.agrees with
  | idle hnone hflat =>
    refine .idle hnone ⟨closed_iff.mpr fun id row hrow => ?_, ?_⟩
    · by_cases hid : id = sig.id
      · exact hown row (hid ▸ hrow)
      · exact closed_iff.mp hflat.trades id row ((hother id hid).symm.trans hrow)
    · rw [Store.unresolvedIntents, hintents']
      exact hflat.intents
  | «open» symbol p id hholding halone hsettled =>
    obtain ⟨row, hrow, hstamp, hguarded⟩ := halone.own
    have hid : id ≠ sig.id := by
      rintro rfl
      rw [hready.untraded] at hrow
      cases hrow
    refine .open symbol p id hholding ⟨fun id' row' hrow' hne => ?_, ?_⟩
      (hsettled.congr hintents')
    · by_cases hid' : id' = sig.id
      · exact hown row' (hid' ▸ hrow')
      · exact halone.others id' row' ((hother id' hid').symm.trans hrow') hne
    · refine ⟨row, (hother id hid).trans hrow, ?_, hguarded⟩
      rw [clock_upsertTrade]
      omega

theorem Approved.opening (h : Approved digest sig s m f) (hnone : m.positions = ∅) :
    Opening digest sig s m := by
  obtain ⟨s₀, hready, hintents, hclock, htrade⟩ := h.before
  obtain ⟨row, hrow, hpair, happroved, hstamp⟩ := h.own
  have hflat : Flat s₀ := by
    cases hready.agrees with
    | idle _ hflat => exact hflat
    | «open» symbol p id hholding halone hsettled =>
      have hheld := hholding.held
      rw [hnone, AList.lookup_empty] at hheld
      cases hheld
  constructor
  · exact hnone
  · refine ⟨fun id row' hrow' hid => ?_, row, hrow, hstamp.le, hpair, .inl happroved⟩
    exact closed_iff.mp hflat.trades id row' ((htrade id hid).symm.trans hrow')
  · exact (settled_iff.mpr hflat.intents).congr hintents
  · exact h.paired
  · unfold Store.intent
    rw [hintents]
    exact hready.unplanned

theorem tradeIdOf_signal (s : Store) (pair : Pair) (sig : Signal) :
    tradeIdOf s pair (some sig.id) = sig.id ∧ sig.id ≠ "" := by
  have hne : sig.id ≠ "" := by
    intro h
    have htoken := sig.token
    rw [h] at htoken
    revert htoken
    decide
  refine ⟨?_, hne⟩
  simp [tradeIdOf, Option.filter, hne]

theorem surely_submit :
    Surely (Approved digest sig) (submit digest sig.pair.symbol (some sig.id))
      fun v s m f => (v.1 = true → Agrees s m) ∧
        (v.1 = false → Approved digest sig s m f ∨ Unfilled sig s m) := by
  have hrefuse : ∀ (P : Cond) (message : String), (∀ s m f, P s m f → Approved digest sig s m f) →
      Surely P (Pure.pure (false, message) : Sim Verdict) fun v s m f =>
        (v.1 = true → Agrees s m) ∧
          (v.1 = false → Approved digest sig s m f ∨ Unfilled sig s m) := by
    intro P message hP
    refine .pure fun s m f hw => ⟨fun hv => ?_, fun _ => .inl (hP s m f hw)⟩
    cases hv
  unfold submit
  refine Surely.memory.bind fun m => ?_
  refine .ite (fun _ => hrefuse _ _ fun _ _ _ hw => hw.2) fun harmed => ?_
  have henabled : m.enabled = true := by
    by_contra hoff
    simp [hoff] at harmed
  refine Surely.store.bind fun s' => ?_
  intro w hw
  obtain ⟨m', hm', hstore, -, happroved⟩ := hw.here
  have hpaired : s'.pairForSymbol sig.pair.symbol = .ok sig.pair := hstore ▸ happroved.paired
  refine Surely.known hpaired ?_ w hw
  obtain ⟨hid, hne⟩ := tradeIdOf_signal s' sig.pair sig
  simp only [hid]
  rw [if_neg hne]
  refine .ite (fun _ => hrefuse _ _ fun _ _ _ hw => hw.2.2) fun hlength => ?_
  have hnone : m.positions = ∅ := by
    apply AList.ext
    exact List.eq_nil_of_length_eq_zero (by omega)
  refine (surely_place.weaken ?_).post ?_
  · rintro s m'' f ⟨-, rfl, happroved⟩
    obtain ⟨s₀, hready, -⟩ := happroved.before
    exact ⟨happroved.opening hnone, hready.certain henabled hnone⟩
  · intro v s m'' f hv
    exact ⟨hv.1, fun hfalse => .inr (hv.2 hfalse)⟩

/-- After a submission that was not accepted the row of the signal is closed. -/
theorem surely_closeUnsubmitted :
    Surely (fun s m f => Approved digest sig s m f ∨ Unfilled sig s m) (closeUnsubmitted sig)
      fun _ s m _ => Agrees s m := by
  unfold closeUnsubmitted
  refine Surely.store.bind fun s' => ?_
  intro w hw
  obtain ⟨m, hm, rfl, happroved | hunfilled⟩ := hw.here
  · obtain ⟨row, hcurrent, hrow⟩ := happroved.current
    have hclose : Surely (Approved digest sig) (upsert sig.id sig.pair
        { lifecycle := some .entryRejected, reconciliationStatus := some "ENTRY_NOT_SUBMITTED" })
        fun _ s m _ => Agrees s m := .upsert fun s m f h => h.close rfl
    refine Surely.known hcurrent ?_ w ⟨hw.clean, hw.sound, m, hm, happroved⟩
    rw [if_pos (by simp [hrow])]
    exact hclose
  · obtain ⟨row, hrow, hstamp, hpair, hlifecycle⟩ := hunfilled.alone.own
    have hgoing : Going (fun s m _ => s = w.store ∧ Unfilled sig s m) w :=
      ⟨hw.clean, hw.sound, m, hm, rfl, hunfilled⟩
    by_cases hopen : row.lifecycle.terminal = true
    · have hclosed : w.store.activeTradeRows = [] := by
        rw [closed_iff]
        intro id row' hrow'
        by_cases hid : id = sig.id
        · rw [hid, hrow] at hrow'
          exact Option.some.inj hrow' ▸ hopen
        · exact hunfilled.alone.others id row' hrow' hid
      have hcurrent : w.store.activeTradeForSymbol sig.pair.symbol = .ok none := by
        unfold Store.activeTradeForSymbol Store.activeTradeForPair
        rw [hunfilled.paired, hclosed]
        rfl
      refine Surely.known hcurrent ?_ w hgoing
      rw [if_neg (by simp)]
      refine .pure fun s m' f h => ?_
      obtain ⟨rfl, hunfilled'⟩ := h
      exact .idle hunfilled'.unheld ⟨hclosed, settled_iff.mp hunfilled'.settled⟩
    · have happroved : row.lifecycle = .signalApproved := by
        rcases hlifecycle with h | h
        · exact h
        · exact absurd h hopen
      have hactive : row ∈ w.store.activeTradeRows :=
        mem_activeTradeRows.mpr ⟨(Store.trade_mem hrow).1, by simpa using hopen⟩
      have hcurrent : w.store.activeTradeForSymbol sig.pair.symbol = .ok (some row) := by
        unfold Store.activeTradeForSymbol
        rw [hunfilled.paired, Except.map, activeTradeForPair_latest hactive hpair fun r hr hne =>
          absurd (Option.some.inj ((hunfilled.alone.active hr).symm.trans hrow)) hne]
      refine Surely.known hcurrent ?_ w hgoing
      rw [if_pos (by simp [happroved])]
      refine .upsert fun s m' f h => .idle h.2.unheld ?_
      have halone : Alone (fun row => row.lifecycle.terminal = true) sig.id (s.upsertTrade sig.id
          sig.pair { lifecycle := some .entryRejected
                     reconciliationStatus := some "ENTRY_NOT_SUBMITTED" }) :=
        h.2.alone.upsert fun _ _ _ => rfl
      refine ⟨halone.closed fun _ h => h, ?_⟩
      rw [Store.unresolvedIntents, Store.upsertTrade_intents]
      exact settled_iff.mp h.2.settled

theorem surely_submitSignal :
    Surely (Ready digest sig) (submitSignal digest sig) fun _ s m _ => Agrees s m := by
  have hidle : ∀ (P : Cond) (result : String),
      Surely P (.perform (.recordGuard sig.id result)) (fun _ => P) ∧
        Surely P (.perform (.recordSignal sig.id result)) (fun _ => P) := fun P result =>
    ⟨.idle fun w => ⟨_, w, rfl, rfl, rfl, rfl, rfl, rfl⟩,
      .idle fun w => ⟨_, _, rfl, rfl, rfl, rfl, rfl, rfl⟩⟩
  refine surely_registerPair.bind fun _ => ?_
  refine Surely.store.bind fun s' => ?_
  refine Surely.bind (Q := fun _ => Approved digest sig) (.upsert fun s m f hw =>
    hw.2.1.approve hw.2.2 _ rfl) fun _ => ?_
  refine surely_submit.bind fun v => ?_
  refine (hidle _ _).1.bind fun _ => (hidle _ _).2.bind fun _ => ?_
  rcases v with ⟨accepted, message⟩
  cases accepted with
  | true => exact .pure fun s m f hw => hw.1 rfl
  | false =>
    refine Surely.bind (surely_closeUnsubmitted.weaken fun s m f hw => hw.2 rfl) fun _ => ?_
    exact .pure fun _ _ _ hw => hw

/-- A signal leaves all in order, or the machine is stopped and every entry placed was admitted. -/
theorem triple_processSignal :
    Triple Act.exec (Going (Ready digest sig)) (processSignal digest sig) (fun _ => Inv)
      (fun _ => Inv) Sound := by
  have hkeeps : ∀ {γ : Type} {m : Sim γ}, Keeps Act.exec Inv m →
      Triple Act.exec (Going (Ready digest sig)) m (fun _ => Inv) (fun _ => Inv) Sound :=
    fun hm => hm.conseq (fun _ hw => hw.inv fun _ _ _ h => h.agrees) (fun _ _ hw => hw)
      (fun _ _ hw => hw) fun _ hw => hw.sound
  refine Triple.bind (Q := fun _ => Going (Ready digest sig))
    (Surely.idle fun w => ⟨_, w, rfl, rfl, rfl, rfl, rfl, rfl⟩) fun prior => ?_
  cases prior with
  | some result =>
    refine .ite (fun _ => hkeeps ?_) fun _ => hkeeps .pure
    refine Keeps.bind ((calm_pause _).keeps fun w w' hsame hw => hw.same hsame) fun _ => .pure
  | none =>
    refine Triple.bind (Surely.store.post fun _ _ _ _ hw => hw.2) fun s => ?_
    refine .ite (fun _ => hkeeps ?_) fun _ => ?_
    · refine Keeps.bind (keeps_act (fun w hw => hw.spend) fun w hw =>
        ⟨hw.sound, hw.agrees⟩) fun _ => .pure
    · refine Triple.bind (Q := fun _ => Going (Ready digest sig))
        (Surely.act fun w m hsound hm hw => ?_) fun isNew => .ite (fun _ => ?_) fun _ =>
          hkeeps .pure
      · simp only [Act.answer]
        split
        · exact ⟨true, _, m, rfl, rfl, hsound, hm, hw⟩
        · exact ⟨false, _, m, rfl, rfl, hsound, hm, hw⟩
      · exact Triple.post surely_submitSignal fun _ _ hw => hw.inv fun _ _ _ h => h

end signal

/-- A start finds flat tables; a signal has an id that no trade and no intent has, none of its acts
fails, and what an armed adapter without a position draws for it leaves its outcome clear; the event
of an exit is new. -/
def Meets (digest : Digest) (w : World) (t : Turn) : Prop :=
  match t.task with
  | .start => Flat w.store
  | .signal sig =>
    (∀ f ∈ t.failures, f = none) ∧
      w.store.trade sig.id = none ∧ w.store.intent (digest sig.id sig.pair.symbol) = none ∧
      ∀ m, w.process = some m → m.enabled = true → m.positions = ∅ →
        w.faults.head? ≠ some .timeout
  | .command (.emergencyExit symbol) => Fresh symbol { w with now := t.now }
  | _ => True

/-- Every turn of a run meets the condition where it begins. -/
def AllMeet (digest : Digest) : World → List Turn → Prop
  | _, [] => True
  | w, t :: turns => Meets digest w t ∧ AllMeet digest (step digest w t) turns

theorem inv_after {w : World} {t : Turn}
    (h : Triple Act.exec (fun v => v = { w with now := t.now, failures := t.failures })
      (program digest t.task) (fun _ => Inv) (fun _ => Sound) Sound) : Inv (w.after digest t) := by
  have hrun := wp_run (h _ rfl) t.budget
  have hstopped : ∀ v : World, Sound v → Inv { v with process := none } := fun v hv =>
    ⟨hv, fun m hm => by cases hm⟩
  unfold World.after
  rcases heq : (program digest t.task).run Act.exec t.budget
      { w with now := t.now, failures := t.failures } with ⟨o, v⟩
  rw [heq] at hrun
  cases o with
  | done _ => exact hrun
  | raised _ => exact hstopped v hrun
  | crashed => exact hstopped v hrun

theorem inv_step {w : World} {t : Turn} (hw : Inv w) (ht : Meets digest w t) :
    Inv (step digest w t) := by
  have hbegin : Inv { w with now := t.now, failures := t.failures } := ⟨hw.sound, hw.agrees⟩
  rcases t with ⟨task, now, failures, budget⟩
  cases task with
  | inject faults => exact ⟨hw.sound, hw.agrees⟩
  | start =>
    have hstart : Keeps Act.exec Inv startup :=
      calm_startup.keeps fun w w' hsame hw => hw.same hsame
    refine inv_after (hstart.conseq ?_ (fun _ _ hw => hw) (fun _ _ hw => hw.sound)
      fun _ hw => hw.sound)
    rintro v rfl
    refine ⟨hw.sound, fun m hm => ?_⟩
    obtain rfl := Option.some.inj hm
    exact .idle rfl ht
  | command c =>
    simp only [step]
    split
    · have hcommand : Triple Act.exec
          (fun v => v = { w with now := now, failures := failures }) (processCommand c)
          (fun _ => Inv) (fun _ => Inv) Sound := by
        refine (triple_processCommand c).conseq ?_ (fun _ _ hw => hw) (fun _ _ hw => hw)
          fun _ hw => hw.sound
        rintro v rfl
        refine ⟨hbegin, fun symbol hc => ?_⟩
        subst hc
        exact ht
      exact inv_after (Triple.handle hcommand fun _ => .pure fun _ hw => hw)
    · exact hw
  | signal sig =>
    simp only [step]
    split
    · next hrunning =>
      have hsignal : Triple Act.exec
          (fun v => v = { w with now := now, failures := failures })
          (processSignal digest sig >>= fun _ => Pure.pure ()) (fun _ => Inv) (fun _ => Inv)
          Sound := by
        refine Triple.bind ?_ fun _ => .pure fun _ hw => hw
        refine triple_processSignal.weaken ?_
        rintro v rfl
        obtain ⟨hclean, htrade, hintent, hfault⟩ := ht
        obtain ⟨m, hm⟩ := Option.isSome_iff_exists.mp hrunning
        exact ⟨hclean, hw.sound, m, hm, hw.agrees m hm, htrade, hintent, hfault m hm⟩
      refine inv_after (Triple.handle hsignal fun _ => ?_)
      exact ((calm_disarm _).keeps fun w w' hsame hw => hw.same hsame).conseq (fun _ hw => hw)
        (fun _ _ hw => hw) (fun _ _ hw => hw.sound) fun _ hw => hw.sound
    · exact hw

theorem inv_runTurns {w : World} {turns : List Turn} (hw : Inv w)
    (hturns : AllMeet digest w turns) : Inv (runTurns digest w turns) := by
  induction turns generalizing w with
  | nil => exact hw
  | cons t turns ih => exact ih (inv_step hw hturns.1) hturns.2

/-- What a simulated run promises: an entry is placed where the tables admit it, and while a
process runs no two trades are open. -/
structure Exclusive (w : World) : Prop where
  admitted : ∀ p ∈ w.placed, p.store.Admits p.tradeId
  single : w.process.isSome = true →
    ∀ row ∈ w.store.activeTradeRows, ∀ row' ∈ w.store.activeTradeRows, row = row'

theorem Inv.exclusive {w : World} (h : Inv w) : Exclusive w := by
  refine ⟨h.sound, fun hrunning row hrow row' hrow' => ?_⟩
  obtain ⟨m, hm⟩ := Option.isSome_iff_exists.mp hrunning
  cases h.agrees m hm with
  | idle hnone hflat =>
    rw [hflat.trades] at hrow
    cases hrow
  | «open» symbol p id hholding halone hsettled =>
    exact Option.some.inj ((halone.active hrow).symm.trans (halone.active hrow'))

/-- Where every turn of a run meets the condition, the run places entries as the live adapter
would, from any durable state. -/
theorem run_exclusive (digest : Digest) (w : World) (hprocess : w.process = none)
    (hplaced : w.placed = []) (turns : List Turn) (hturns : AllMeet digest w turns) :
    Exclusive (runTurns digest w turns) := by
  refine (inv_runTurns ⟨?_, ?_⟩ hturns).exclusive
  · unfold Sound
    rw [hplaced]
    exact fun p hp => by cases hp
  · intro m hm
    rw [hprocess] at hm
    cases hm

/-- Two signals after a start and the command that arms. -/
def twoSignals : List Turn :=
  [{ task := .start, budget := 100 },
   { task := .command (.entries true), budget := 100 },
   { task := .signal ⟨"a", ⟨"BTC", "USDC"⟩, by decide, rfl⟩, budget := 100 },
   { task := .signal ⟨"bb", ⟨"BTC", "USDC"⟩, by decide, rfl⟩, budget := 100 }]

theorem run_exclusive_twoSignals :
    Exclusive (runTurns (fun id _ => id.length) {} twoSignals) := by
  refine run_exclusive _ _ rfl rfl _ ?_
  have hplain : ∀ faults : List Fault, faults = [] → faults.head? ≠ some .timeout := by simp
  refine ⟨⟨rfl, rfl⟩, trivial, ⟨by simp, rfl, rfl, fun _ _ _ _ => hplain _ rfl⟩,
    ⟨by simp, ?_, ?_, fun _ _ _ _ => hplain _ ?_⟩, trivial⟩
  · decide
  · decide
  · decide

/-- The first entry times out; the second is placed while the first is nonterminal and its intent
is unresolved. -/
theorem run_exclusive_fails :
    ¬ ∀ (digest : Digest) (w : World), w.process = none → w.placed = [] → ∀ turns,
      Exclusive (runTurns digest w turns) := by
  intro h
  have hrun := (h (fun id _ => id.length) { faults := [.timeout] } rfl rfl twoSignals).admitted
  revert hrun
  decide

end SpotSidecar.Simulation
