import SpotSidecar.Telegram.Poll

/-! What the polling process keeps: every update that Telegram has sent and that is behind the
offset was claimed, but for those behind an older offset that somebody has brought in. -/
namespace SpotSidecar.Telegram
open Interaction Prog
variable {σ : Type} {env : Env σ} {w : World σ}

/-- An update behind the offset was claimed, or an older offset that was imported is ahead of it. -/
def Accounted (w : World σ) (id : ℤ) : Prop := id ∈ w.claims ∨ ∃ k ∈ w.imported, id < k

/-- The last id that was sent; `-1` before the first. -/
def lastSent (sent : List ℤ) : ℤ := sent.getLast?.getD (-1)

structure Sound (w : World σ) : Prop where
  ahead : Ahead w.db w.claims
  sorted : w.sent.Pairwise (· < ·)
  confirmed : w.confirmed ≤ w.db.next
  cached : w.cached ≤ w.db.next
  passed : ∀ id ∈ w.sent, id < w.db.next → Accounted w id
  reach : w.db.next ≤ lastSent w.sent + 1 ∨ ∃ k ∈ w.imported, w.db.next ≤ k
  handled : w.handled ⊆ w.claims ∧ w.handled.Nodup
  own : w.foreign = false → w.imported = [] ∧ ∀ k, w.legacy = .offset k → k ≤ w.db.next

/-- The rest of an answer: no update that is still to be claimed is missing before one of it. -/
structure Due (rest : List ℤ) (w : World σ) : Prop where
  sorted : rest.Pairwise (· < ·)
  sent : ∀ x ∈ rest, x ∈ w.sent
  complete : ∀ id ∈ w.sent, w.db.next ≤ id → ∀ x ∈ rest, id < x → id ∈ rest

theorem Due.nil (w : World σ) : Due [] w where
  sorted := .nil
  sent _ h := absurd h List.not_mem_nil
  complete _ _ _ _ h := absurd h List.not_mem_nil

/-- The process within an answer of which the rest is still to be handled. -/
structure Ready (rest : List ℤ) (w : World σ) : Prop where
  sound : Sound w
  due : Due rest w

theorem Sound.ready (h : Sound w) : Ready [] w := ⟨h, .nil w⟩

theorem mem_le_lastSent {sent : List ℤ} (h : sent.Pairwise (· < ·)) {id : ℤ} (hid : id ∈ sent) :
    id ≤ lastSent sent := by
  rcases List.eq_nil_or_concat sent with rfl | ⟨before, last, rfl⟩
  · exact absurd hid List.not_mem_nil
  · have hlast : lastSent (before.concat last) = last := by
      rw [lastSent, List.concat_eq_append, List.getLast?_concat, Option.getD_some]
    rw [hlast]
    rw [List.concat_eq_append] at h hid
    rcases List.mem_append.mp hid with hid | hid
    · exact ((List.pairwise_append.mp h).2.2 id hid last List.mem_cons_self).le
    · exact (List.mem_singleton.mp hid).le

/-- New updates come after all others. -/
theorem extend_spec (gaps : List ℕ) {sent : List ℤ} (h : sent.Pairwise (· < ·)) :
    (extend sent gaps).Pairwise (· < ·) ∧ lastSent sent ≤ lastSent (extend sent gaps) ∧
      ∀ id ∈ extend sent gaps, id ∈ sent ∨ lastSent sent < id := by
  induction gaps generalizing sent with
  | nil => exact ⟨h, le_rfl, fun id hid => .inl hid⟩
  | cons gap gaps ih =>
    set new := lastSent sent + 1 + gap with hnew
    have hlast : lastSent (sent ++ [new]) = new := by
      rw [lastSent, List.getLast?_concat, Option.getD_some]
    have hsorted : (sent ++ [new]).Pairwise (· < ·) := by
      refine List.pairwise_append.mpr ⟨h, List.pairwise_singleton _ _, ?_⟩
      intro a ha b hb
      have hle := mem_le_lastSent h ha
      rw [List.mem_singleton.mp hb]
      omega
    obtain ⟨hpair, hle, hmem⟩ := ih hsorted
    rw [hlast] at hle hmem
    refine ⟨hpair, ?_, fun id hid => ?_⟩
    · have hle' : new ≤ lastSent (extend sent (gap :: gaps)) := hle
      omega
    · rcases hmem id hid with hold | hlt
      · rcases List.mem_append.mp hold with hold | hid
        · exact .inl hold
        · rw [List.mem_singleton.mp hid]
          exact .inr (by omega)
      · exact .inr (by omega)

/-- The answer of a collaborator alone changes nothing of this. -/
theorem Sound.answered (h : Sound w) (e : σ) : Sound { w with env := e } :=
  ⟨h.ahead, h.sorted, h.confirmed, h.cached, h.passed, h.reach, h.handled, h.own⟩

theorem Ready.answered {rest : List ℤ} (h : Ready rest w) (e : σ) :
    Ready rest { w with env := e } :=
  ⟨h.sound.answered e, h.due.sorted, h.due.sent, h.due.complete⟩

/-- The same database under the same records, whatever the process does with it. -/
theorem Ready.of_db {rest : List ℤ} {w' : World σ} (h : Ready rest w)
    (hahead : Ahead w'.db w.claims) (hnext : w'.db.next = w.db.next)
    (hclaims : w'.claims = w.claims)
    (hsent : w'.sent = w.sent) (hconfirmed : w'.confirmed = w.confirmed)
    (hcached : w'.cached = w.cached) (hlegacy : w'.legacy = w.legacy)
    (himported : w'.imported = w.imported) (hhandled : w'.handled = w.handled)
    (hforeign : w'.foreign = w.foreign) : Ready rest w' := by
  obtain ⟨hs, hd⟩ := h
  constructor
  · exact {
      ahead := hclaims ▸ hahead
      sorted := hsent ▸ hs.sorted
      confirmed := by rw [hnext, hconfirmed]; exact hs.confirmed
      cached := by rw [hnext, hcached]; exact hs.cached
      passed := by
        rw [hnext, hsent]
        intro id hid hlt
        rw [Accounted, hclaims, himported]
        exact hs.passed id hid hlt
      reach := by rw [hnext, hsent, himported]; exact hs.reach
      handled := by rw [hhandled, hclaims]; exact hs.handled
      own := by rw [hforeign, hlegacy, himported, hnext]; exact hs.own }
  · exact {
      sorted := hd.sorted
      sent := hsent ▸ hd.sent
      complete := by rw [hnext, hsent]; exact hd.complete }

/-- An access to the database or to a file, from what does not depend on the collaborators. -/
theorem triple_access {γ : Type} {op : Deed γ} (f : World σ → Except Exc γ × World σ)
    {P : World σ → Prop} {Q : γ → World σ → Prop}
    (hop : ∀ w, op.exec env γ w = w.access env f) (henv : ∀ w e, P w → P { w with env := e })
    (hP : ∀ w, P w → Sound w) (hok : ∀ w a w', P w → f w = (.ok a, w') → Q a w')
    (herr : ∀ w e w', P w → f w = (.error e, w') → Sound w') :
    Triple (Deed.exec env) P (.perform op) Q (fun _ => Sound) Sound := by
  refine Triple.perform hP (fun w a w' hw heq => ?_) fun w e w' hw heq => ?_
  · rw [hop, World.access] at heq
    split at heq
    · exact hok _ a w' (henv w _ hw) heq
    · cases heq
  · rw [hop, World.access] at heq
    split at heq
    · exact herr _ e w' (henv w _ hw) heq
    · obtain ⟨-, rfl⟩ := Prod.mk.inj heq
      exact (hP w hw).answered _

section acts
variable {rest : List ℤ}

theorem triple_offset : Triple (Deed.exec env) (Ready rest) (.perform .offset)
    (fun n w => Ready rest w ∧ n ≤ w.db.next) (fun _ => Sound) Sound := by
  refine triple_access (fun w => (w.db.offsetUnlocked, w)) (fun _ => rfl)
    (fun w e hw => hw.answered e) (fun w hw => hw.sound) ?_ ?_
  · intro w n w' hw heq
    obtain ⟨hn, rfl⟩ := Prod.mk.inj heq
    have hnext := Ahead.next_of_offset (Database.offsetUnlocked_ok hn).1
    exact ⟨hw, hnext.ge⟩
  · intro w e w' hw heq
    obtain ⟨-, rfl⟩ := Prod.mk.inj heq
    exact hw.sound

theorem triple_setCached (n : ℤ) : Triple (Deed.exec env) (fun w => Ready rest w ∧ n ≤ w.db.next)
    (.perform (.setCached n)) (fun _ w => Ready rest w ∧ n ≤ w.db.next) (fun _ => Sound) Sound := by
  refine Triple.perform (fun w hw => hw.1.sound) (fun w a w' hw heq => ?_) fun w e w' hw heq => ?_
  · obtain ⟨-, rfl⟩ := Prod.mk.inj heq
    obtain ⟨⟨hs, hd⟩, hn⟩ := hw
    exact ⟨⟨⟨hs.ahead, hs.sorted, hs.confirmed, hn, hs.passed, hs.reach, hs.handled, hs.own⟩,
      hd.sorted, hd.sent, hd.complete⟩, hn⟩
  · cases heq

theorem triple_refreshOffset : Triple (Deed.exec env) (Ready rest) refreshOffset
    (fun n w => Ready rest w ∧ n ≤ w.db.next) (fun _ => Sound) Sound :=
  .bind triple_offset fun n => .bind (triple_setCached n) fun _ => .pure fun _ hw => hw

theorem triple_complete (id : ℤ) (state : UpdateState) (error : String) :
    Triple (Deed.exec env) (Ready rest) (.perform (.complete id state error))
      (fun _ => Ready rest) (fun _ => Sound) Sound := by
  refine triple_access _ (fun w => by rw [Deed.exec]) (fun w e hw => hw.answered e)
    (fun w hw => hw.sound) ?_ ?_
  · intro w a w' hw heq
    dsimp only at heq
    split at heq
    · next db hdb =>
      obtain ⟨-, rfl⟩ := Prod.mk.inj heq
      obtain ⟨hnext, hahead⟩ := hw.sound.ahead.complete hdb
      exact hw.of_db hahead hnext rfl rfl rfl rfl rfl rfl rfl rfl
    · cases heq
  · intro w e w' hw heq
    dsimp only at heq
    split at heq
    · cases heq
    · obtain ⟨-, rfl⟩ := Prod.mk.inj heq
      exact hw.sound.answered _

/-- Of an answer, the update to be claimed next is the first one that is not behind the offset. -/
theorem Ready.accounted {id : ℤ} (h : Ready (id :: rest) w) {x : ℤ} (hx : x ∈ w.sent)
    (hlt : x < id) : Accounted w x := by
  by_contra hnot
  have hle : w.db.next ≤ x := by
    by_contra hle
    exact hnot (h.sound.passed x hx (by omega))
  have hmem := h.due.complete x hx hle id List.mem_cons_self hlt
  rcases List.mem_cons.mp hmem with rfl | hmem
  · omega
  · have := (List.pairwise_cons.mp h.due.sorted).1 x hmem
    omega

/-- A successful claim takes the next update of the answer off the rest of it. -/
theorem Ready.claimed {id : ℤ} (h : Ready (id :: rest) w) {db : Database} {e : σ}
    (hle : w.db.next ≤ id) (hnext : db.next = id + 1) (hahead : Ahead db (id :: w.claims)) :
    Ready rest { w with db := db, env := e, claims := id :: w.claims } := by
  have hs := h.sound
  have hd := h.due
  constructor
  · exact {
      ahead := hahead
      sorted := hs.sorted
      confirmed := by
        have := hs.confirmed
        show w.confirmed ≤ db.next
        omega
      cached := by
        have := hs.cached
        show w.cached ≤ db.next
        omega
      passed := by
        intro x hx hlt
        replace hlt : x < db.next := hlt
        rcases lt_or_eq_of_le (show x ≤ id by omega) with hlt | rfl
        · rcases h.accounted hx hlt with hclaim | himported
          · exact .inl (List.mem_cons_of_mem _ hclaim)
          · exact .inr himported
        · exact .inl List.mem_cons_self
      reach := by
        have := mem_le_lastSent hs.sorted (hd.sent id List.mem_cons_self)
        left
        show db.next ≤ lastSent w.sent + 1
        omega
      handled := ⟨fun x hx => List.mem_cons_of_mem _ (hs.handled.1 hx), hs.handled.2⟩
      own := fun hforeign => by
        obtain ⟨hnil, hlegacy⟩ := hs.own hforeign
        refine ⟨hnil, fun k hk => ?_⟩
        have := hlegacy k hk
        show k ≤ db.next
        omega }
  · exact {
      sorted := (List.pairwise_cons.mp hd.sorted).2
      sent := fun x hx => hd.sent x (List.mem_cons_of_mem _ hx)
      complete := by
        intro y hy hley x hx hlt
        replace hley : db.next ≤ y := hley
        rcases List.mem_cons.mp (hd.complete y hy (by omega) x (List.mem_cons_of_mem _ hx) hlt)
          with rfl | hmem
        · omega
        · exact hmem }

/-- An update of the answer that is behind the offset is left out. -/
theorem Ready.passed_over {id : ℤ} (h : Ready (id :: rest) w) (hlt : id < w.db.next) :
    Ready rest w where
  sound := h.sound
  due := {
    sorted := (List.pairwise_cons.mp h.due.sorted).2
    sent := fun x hx => h.due.sent x (List.mem_cons_of_mem _ hx)
    complete := by
      intro y hy hle x hx hltx
      rcases List.mem_cons.mp (h.due.complete y hy hle x (List.mem_cons_of_mem _ hx) hltx)
        with rfl | hmem
      · omega
      · exact hmem }

theorem triple_claim (id : ℤ) : Triple (Deed.exec env) (Ready (id :: rest)) (.perform (.claim id))
    (fun isNew w => Ready rest w ∧ (isNew = true → id ∈ w.claims ∧ id ∉ w.handled))
    (fun _ => Sound) Sound := by
  refine triple_access _ (fun w => by rw [Deed.exec]) (fun w e hw => hw.answered e)
    (fun w hw => hw.sound) ?_ ?_
  · intro w isNew w' hw heq
    dsimp only at heq
    split at heq
    · next isNew' db hdb =>
      obtain ⟨hok, rfl⟩ := Prod.mk.inj heq
      obtain rfl := Except.ok.inj hok
      rcases hw.sound.ahead.claim hdb with ⟨rfl, hle, hnext, hahead⟩ | ⟨rfl, hlt, rfl⟩
      · refine ⟨hw.claimed hle hnext hahead, fun _ => ⟨List.mem_cons_self, fun hmem => ?_⟩⟩
        have := hw.sound.ahead.below id (hw.sound.handled.1 hmem)
        omega
      · exact ⟨(hw.passed_over hlt).answered _, fun h => by cases h⟩
    · cases heq
  · intro w e w' hw heq
    dsimp only at heq
    split at heq
    · cases heq
    · obtain ⟨-, rfl⟩ := Prod.mk.inj heq
      exact hw.sound.answered _

theorem Ready.handled {id : ℤ} (h : Ready rest w) (hclaim : id ∈ w.claims) (hnew : id ∉ w.handled)
    (e : σ) : Ready rest { w with env := e, handled := id :: w.handled } := by
  obtain ⟨hs, hd⟩ := h
  constructor
  · exact {
      hs.answered e with
      handled := ⟨List.cons_subset.mpr ⟨hclaim, hs.handled.1⟩,
        List.nodup_cons.mpr ⟨hnew, hs.handled.2⟩⟩ }
  · exact ⟨hd.sorted, hd.sent, hd.complete⟩

/-- An update is handled when it has just been claimed. -/
theorem triple_handle (id : ℤ) : Triple (Deed.exec env)
    (fun w => Ready rest w ∧ id ∈ w.claims ∧ id ∉ w.handled) (.perform (.handle id))
    (fun _ => Ready rest) (fun _ => Ready rest) Sound := by
  refine Triple.perform (fun w hw => hw.1.sound) (fun w a w' hw heq => ?_) fun w e w' hw heq => ?_
  · obtain ⟨-, rfl⟩ := Prod.mk.inj heq
    exact hw.1.handled hw.2.1 hw.2.2 _
  · obtain ⟨-, rfl⟩ := Prod.mk.inj heq
    exact hw.1.handled hw.2.1 hw.2.2 _

/-- Reading the database, the audit log and the health file keep everything. -/
theorem triple_aside {γ : Type} (a : World σ → Except Exc γ) {op : Deed γ}
    (hop : ∀ w, op.exec env γ w = w.access env fun w => (a w, w)) :
    Triple (Deed.exec env) (Ready rest) (.perform op) (fun _ => Ready rest) (fun _ => Sound)
      Sound := by
  refine triple_access _ hop (fun w e hw => hw.answered e) (fun w hw => hw.sound) ?_ ?_
  · intro w a w' hw heq
    obtain ⟨-, rfl⟩ := Prod.mk.inj heq
    exact hw
  · intro w e w' hw heq
    obtain ⟨-, rfl⟩ := Prod.mk.inj heq
    exact hw.sound

theorem triple_writeOffset (n : ℤ) : Triple (Deed.exec env) (fun w => Ready rest w ∧ n ≤ w.db.next)
    (.perform (.writeOffset n)) (fun _ => Ready rest) (fun _ => Sound) Sound := by
  refine triple_access _ (fun w => by rw [Deed.exec]) (fun w e hw => ⟨hw.1.answered e, hw.2⟩)
    (fun w hw => hw.1.sound) ?_ ?_
  · intro w a w' hw heq
    obtain ⟨-, rfl⟩ := Prod.mk.inj heq
    obtain ⟨⟨hs, hd⟩, hle⟩ := hw
    constructor
    · exact {
        hs with
        own := fun hforeign => by
          refine ⟨(hs.own hforeign).1, fun k hk => ?_⟩
          obtain rfl := LegacyFile.offset.inj hk
          exact hle }
    · exact ⟨hd.sorted, hd.sent, hd.complete⟩
  · intro w e w' hw heq
    cases heq

theorem Sound.extended (h : Sound w) (gaps : List ℕ) (e : σ) :
    Sound { w with env := e, sent := extend w.sent gaps } := by
  obtain ⟨hsorted, hlast, hmem⟩ := extend_spec gaps h.sorted
  have hpassed : ∀ id ∈ extend w.sent gaps, id < w.db.next → Accounted w id := by
    intro id hid hlt
    rcases hmem id hid with hold | hnew
    · exact h.passed id hold hlt
    · rcases h.reach with hreach | ⟨k, hk, hle⟩
      · omega
      · exact .inr ⟨k, hk, by omega⟩
  have hreach :
      w.db.next ≤ lastSent (extend w.sent gaps) + 1 ∨ ∃ k ∈ w.imported, w.db.next ≤ k := by
    rcases h.reach with hreach | himported
    · exact .inl (by omega)
    · exact .inr himported
  exact ⟨h.ahead, hsorted, h.confirmed, h.cached, hpassed, hreach, h.handled, h.own⟩

theorem Sound.heard (h : Sound w) {requested : ℤ} (hle : requested ≤ w.db.next)
    (answer : PollAnswer × σ) : Sound (w.hearing requested answer) := by
  have hextended := h.extended answer.1.gaps answer.2
  rw [World.hearing]
  split
  · exact { hextended with confirmed := max_le hextended.confirmed hle }
  · exact hextended

/-- The first updates of all that Telegram has not forgotten. -/
theorem Sound.due_take (h : Sound w) (count : ℕ) :
    Due ((w.sent.filter (w.confirmed ≤ ·)).take count) w := by
  set kept := w.sent.filter (w.confirmed ≤ ·) with hkept
  have hsorted : kept.Pairwise (· < ·) := h.sorted.sublist List.filter_sublist
  constructor
  · exact hsorted.sublist (List.take_sublist _ _)
  · intro x hx
    exact List.mem_of_mem_filter (List.mem_of_mem_take hx)
  · intro id hid hle x hx hlt
    have hmem : id ∈ kept := by
      have := h.confirmed
      exact List.mem_filter.mpr ⟨hid, decide_eq_true (by omega)⟩
    rw [← List.take_append_drop count kept] at hsorted hmem
    rcases List.mem_append.mp hmem with hmem | hdrop
    · exact hmem
    · have := (List.pairwise_append.mp hsorted).2.2 x hx id hdrop
      omega

/-- An answer of Telegram from an offset that is not ahead of the one in the database. -/
theorem triple_getUpdates (requested : ℤ) :
    Triple (Deed.exec env) (fun w => Sound w ∧ requested ≤ w.db.next)
      (.perform (.getUpdates requested)) Ready (fun _ => Sound) Sound := by
  have hheard : ∀ w : World σ, Sound w ∧ requested ≤ w.db.next →
      Sound (w.hearing requested (env.poll w.env)) := fun w hw => hw.1.heard hw.2 _
  refine Triple.perform (fun w hw => hw.1) (fun w updates w' hw heq => ?_)
    fun w e w' hw heq => ?_
  · rw [Deed.exec] at heq
    split at heq
    · cases heq
    · obtain ⟨hupdates, rfl⟩ := Prod.mk.inj heq
      obtain rfl := Except.ok.inj hupdates
      split
      · exact ⟨hheard w hw, (hheard w hw).due_take _⟩
      · exact (hheard w hw).ready
  · rw [Deed.exec] at heq
    split at heq
    · obtain ⟨-, rfl⟩ := Prod.mk.inj heq
      exact hheard w hw
    · cases heq

theorem triple_cached : Triple (Deed.exec env) Sound (.perform .cached)
    (fun n w => Sound w ∧ n ≤ w.db.next) (fun _ => Sound) Sound := by
  refine Triple.perform (fun w hw => hw) (fun w n w' hw heq => ?_) fun w e w' hw heq => ?_
  · obtain ⟨hn, rfl⟩ := Prod.mk.inj heq
    obtain rfl := Except.ok.inj hn
    exact ⟨hw, hw.cached⟩
  · cases heq

theorem Sound.initialized (h : Sound w) {db : Database} {now : ℚ} {n : ℕ}
    (hopen : w.db.initializeStore w.legacy now = .ok (n, db)) (opened : Option ℕ) (e : σ) :
    Sound { w with
      db := db
      opened := opened
      env := e
      imported := if w.db.next < db.next then db.next :: w.imported else w.imported } := by
  obtain ⟨hahead, hle, hcase⟩ := h.ahead.initializeStore hopen
  have hcached : w.cached ≤ db.next := h.cached.trans hle
  have hconfirmed : w.confirmed ≤ db.next := h.confirmed.trans hle
  by_cases hraised : w.db.next < db.next
  · rw [if_pos hraised]
    refine ⟨hahead, h.sorted, hconfirmed, hcached, ?_, ?_, h.handled, ?_⟩
    · intro id _ hlt
      exact .inr ⟨db.next, List.mem_cons_self, hlt⟩
    · exact .inr ⟨db.next, List.mem_cons_self, le_rfl⟩
    · intro hforeign
      obtain ⟨-, hlegacy⟩ := h.own hforeign
      rcases hcase with hsame | ⟨hoffset, -⟩
      · omega
      · have := hlegacy _ hoffset
        omega
  · have hnext : db.next = w.db.next := by omega
    rw [if_neg hraised]
    refine ⟨hahead, h.sorted, hconfirmed, hcached, ?_, ?_, h.handled, ?_⟩
    · intro id hid hlt
      replace hlt : id < db.next := hlt
      exact h.passed id hid (by omega)
    · show db.next ≤ _ ∨ ∃ k ∈ w.imported, db.next ≤ k
      rw [hnext]
      exact h.reach
    · show w.foreign = false → w.imported = [] ∧ ∀ k, w.legacy = .offset k → k ≤ db.next
      rw [hnext]
      exact h.own

/-- Opening the store, an older offset that is ahead is imported. -/
theorem triple_initializeStore (retention : ℤ) : Triple (Deed.exec env) Sound
    (.perform (.initializeStore retention)) (fun _ => Sound) (fun _ => Sound) Sound := by
  refine triple_access _ (fun w => by rw [Deed.exec]) (fun w e hw => hw.answered e)
    (fun w hw => hw) ?_ ?_
  · intro w a w' hw heq
    dsimp only at heq
    split at heq
    · next n db hdb =>
      obtain ⟨-, rfl⟩ := Prod.mk.inj heq
      exact hw.initialized hdb _ _
    · cases heq
  · intro w e w' hw heq
    dsimp only at heq
    split at heq
    · cases heq
    · obtain ⟨-, rfl⟩ := Prod.mk.inj heq
      exact hw.answered _

variable {redact : String → String}

/-- One update of an answer: however it ends, none before it is passed over. -/
theorem triple_handleUpdate (id : ℤ) : Triple (Deed.exec env) (Ready (id :: rest))
    (handleUpdate redact id) (fun _ => Ready rest) (fun _ => Sound) Sound := by
  refine .bind (triple_claim id) fun isNew => .ite (fun hnew => ?_) fun _ => ?_
  · refine .bind ((Triple.attempt (Q := fun _ => Ready rest) (triple_handle id)).weaken
      fun w hw => ⟨hw.1, hw.2 hnew⟩) fun handled => ?_
    cases handled with
    | error e => exact .bind (triple_complete id _ _) fun _ => .raise fun w hw => hw.sound
    | ok a =>
      refine .bind (triple_complete id _ _) fun _ => .bind triple_refreshOffset fun _ => ?_
      exact .pure fun w hw => hw.1
  · exact (triple_aside (fun _ => .ok ()) fun w => by rw [Deed.exec]).weaken fun w hw => hw.1

theorem triple_handleUpdates (updates : List ℤ) : Triple (Deed.exec env) (Ready updates)
    (each (handleUpdate redact) updates) (fun _ => Ready []) (fun _ => Sound) Sound := by
  induction updates with
  | nil => exact .pure fun w hw => hw
  | cons id updates ih =>
    exact .bind (triple_handleUpdate id) fun _ => .bind ih fun _ => .pure fun w hw => hw

/-- What the end of a turn writes to the health file. -/
theorem triple_reported {ok : Bool} : Triple (Deed.exec env) (Ready [])
    (do let _ ← .perform .uncertainCount; .perform (.writeHealth ok) : Polling Unit)
    (fun _ => Sound) (fun _ => Sound) Sound := by
  refine .bind (triple_aside (fun w => .ok w.db.uncertainCount) fun w => by rw [Deed.exec])
    fun _ => ?_
  refine (triple_aside (fun _ => .ok ()) fun w => by rw [Deed.exec]).post ?_
  exact fun _ w hw => hw.sound

theorem triple_pollUpdates : Triple (Deed.exec env) Sound (pollUpdates redact) (fun _ => Sound)
    (fun _ => Sound) Sound := by
  refine .bind triple_cached fun previous => .bind (triple_getUpdates previous) fun updates => ?_
  refine .bind (triple_handleUpdates updates) fun _ => .bind triple_refreshOffset fun offset => ?_
  refine .ite (fun _ => ?_) fun _ => triple_reported.weaken fun w hw => hw.1
  exact .bind (triple_writeOffset offset) fun _ => triple_reported

theorem triple_reportFailure : Triple (Deed.exec env) Sound reportFailure (fun _ => Sound)
    (fun _ => Sound) Sound := by
  refine .bind (triple_offset.weaken fun w hw => hw.ready) fun _ => ?_
  exact triple_reported.weaken fun w hw => hw.1

theorem keeps_iteration : Keeps (Deed.exec env) Sound (iteration redact) :=
  .handle triple_pollUpdates fun _ => triple_reportFailure

theorem keeps_start (retention : ℤ) : Keeps (Deed.exec env) Sound (start retention) := by
  refine Triple.bind (triple_initializeStore retention) fun _ => ?_
  exact Triple.bind (triple_refreshOffset.weaken fun w hw => hw.ready) fun _ =>
    .pure fun w hw => hw.1.sound

end acts

theorem Sound.begun (h : Sound w) (legacy : Option LegacyFile) : Sound (w.begin legacy) where
  ahead := h.ahead
  sorted := h.sorted
  confirmed := h.confirmed
  cached := h.cached
  passed := h.passed
  reach := h.reach
  handled := h.handled
  own hforeign := by
    cases legacy with
    | none =>
      rw [World.begin, Option.isSome_none, Bool.or_false] at hforeign
      exact h.own hforeign
    | some file =>
      rw [World.begin, Option.isSome_some, Bool.or_true] at hforeign
      cases hforeign

theorem Sound.concluded (h : Sound w) (o : Outcome Exc Unit) : Sound (w.conclude o) := by
  unfold World.conclude
  split
  · exact h
  · exact ⟨h.ahead, h.sorted, h.confirmed, h.cached, h.passed, h.reach, h.handled, h.own⟩

theorem sound_step {redact : String → String} (h : Sound w) (s : Step) :
    Sound (step redact env w s) := by
  cases s with
  | start legacy retention budget =>
    exact ((keeps_start retention).run budget (h.begun legacy)).concluded _
  | turn budget =>
    rw [step]
    split
    · exact (keeps_iteration.run budget h).concluded _
    · exact h

theorem Sound.new (e : σ) : Sound ({ env := e } : World σ) where
  ahead := .start
  sorted := .nil
  confirmed := le_rfl
  cached := le_rfl
  passed _ h := absurd h List.not_mem_nil
  reach := .inl (le_refl (0 : ℤ))
  handled := ⟨List.nil_subset _, List.nodup_nil⟩
  own _ := ⟨rfl, fun _ h => by cases h⟩

variable (redact : String → String) (env) (e : σ)

theorem sound_runSteps (steps : List Step) : Sound (runSteps redact env e steps) := by
  unfold runSteps
  generalize hw : ({ env := e } : World σ) = w
  have h : Sound w := hw ▸ Sound.new e
  clear hw
  induction steps generalizing w with
  | nil => exact h
  | cons s steps ih => exact ih _ (sound_step h s)

/-- The older offset file that somebody else has put there before a step. -/
def Step.brought : Step → Option LegacyFile
  | .start legacy _ _ => legacy
  | .turn _ => none

theorem foreign_access {γ : Type} {f : World σ → Except Exc γ × World σ}
    (hf : ∀ w, (f w).2.foreign = w.foreign) (w : World σ) :
    (w.access env f).2.foreign = w.foreign := by
  rw [World.access]
  split
  · rw [hf]
  · rfl

/-- Nothing that the process does is the deed of somebody else. -/
theorem foreign_exec {γ : Type} (op : Deed γ) (w : World σ) :
    (op.exec env γ w).2.foreign = w.foreign := by
  cases op with
  | initializeStore retention =>
    refine foreign_access env (fun w => ?_) w
    dsimp only
    split <;> rfl
  | claim id =>
    refine foreign_access env (fun w => ?_) w
    dsimp only
    split <;> rfl
  | complete id state error =>
    refine foreign_access env (fun w => ?_) w
    dsimp only
    split <;> rfl
  | getUpdates requested =>
    have hheard : (w.hearing requested (env.poll w.env)).foreign = w.foreign := by
      rw [World.hearing]
      dsimp only
      split <;> rfl
    rw [← hheard, Deed.exec]
    split <;> rfl
  | cached => rfl
  | setCached n => rfl
  | handle id => rfl
  | offset => exact foreign_access env (fun w => rfl) w
  | uncertainCount => exact foreign_access env (fun w => rfl) w
  | audit id => exact foreign_access env (fun w => rfl) w
  | writeOffset n => exact foreign_access env (fun w => rfl) w
  | writeHealth ok => exact foreign_access env (fun w => rfl) w

theorem foreign_run (m : Polling Unit) (budget : ℕ) (w : World σ) :
    ((m.run (Deed.exec env) budget w).2.conclude (m.run (Deed.exec env) budget w).1).foreign =
      w.foreign := by
  have hkeeps := keeps_of_exec (I := fun w' : World σ => w'.foreign = w.foreign)
    (fun op w' hw => (foreign_exec env op w').trans hw) m
  have hrun := hkeeps.run budget rfl
  unfold World.conclude
  split
  · exact hrun
  · exact hrun

theorem foreign_step (w : World σ) (s : Step) :
    (step redact env w s).foreign = (w.foreign || s.brought.isSome) := by
  cases s with
  | start legacy retention budget => exact foreign_run env _ _ _
  | turn budget =>
    have hsame : (step redact env w (.turn budget)).foreign = w.foreign := by
      rw [step]
      split
      · exact foreign_run env _ _ _
      · rfl
    rw [hsame, Step.brought, Option.isSome_none, Bool.or_false]

theorem foreign_runSteps (steps : List Step) (h : ∀ s ∈ steps, s.brought = none) :
    (runSteps redact env e steps).foreign = false := by
  unfold runSteps
  generalize hw : ({ env := e } : World σ) = w
  have hown : w.foreign = false := by rw [← hw]
  clear hw
  induction steps generalizing w with
  | nil => exact hown
  | cons s steps ih =>
    refine ih (fun s' hs' => h s' (List.mem_cons_of_mem _ hs')) _ ?_
    rw [foreign_step, hown, h s List.mem_cons_self]
    rfl

/-- Over the life of a database every update is claimed once and the offset stays ahead of all that
are claimed; over every run of the process no update is handled twice, and each update that is
behind the offset, of the database or of Telegram, was claimed or is behind an imported offset. -/
theorem updates_claimed_once :
    (∀ ops later : List StoreOp,
      let r := StoreRun.after ops
      let r' := StoreRun.after (ops ++ later)
      r'.claims.Nodup ∧ r.claims <:+ r'.claims ∧ r.db.next ≤ r'.db.next ∧
        ∀ id ∈ r.claims, id < r.db.next ∧
          ∀ retention now db, r'.db.claim retention id now ≠ .ok (true, db)) ∧
    ∀ steps : List Step,
      let w := runSteps redact env e steps
      w.handled.Nodup ∧ w.handled ⊆ w.claims ∧ w.claims.Nodup ∧
        (∀ id ∈ w.sent, id < max w.db.next w.confirmed →
          id ∈ w.claims ∨ ∃ k ∈ w.imported, id < k) ∧
        ((∀ s ∈ steps, s.brought = none) →
          ∀ id ∈ w.sent, id < max w.db.next w.confirmed → id ∈ w.claims) := by
  constructor
  · intro ops later r r'
    have hahead := StoreRun.ahead_after ops
    have hlater : r' = later.foldl StoreRun.step r := List.foldl_append
    have hahead' := StoreRun.ahead_after (ops ++ later)
    have hsuffix : r.claims <:+ r'.claims := hlater ▸ StoreRun.claims_suffix later r
    have hle : r.db.next ≤ r'.db.next := hlater ▸ (StoreRun.ahead_foldl later hahead).2
    refine ⟨hahead'.nodup, hsuffix, hle, fun id hid => ⟨hahead.below id hid, ?_⟩⟩
    intro retention now db hclaim
    have hbelow := hahead'.below id (hsuffix.subset hid)
    rcases hahead'.claim hclaim with ⟨-, hnew, -⟩ | ⟨hfalse, -⟩
    · exact absurd hbelow (not_lt.mpr hnew)
    · cases hfalse
  · intro steps w
    have hsound : Sound w := sound_runSteps env redact e steps
    have hpassed : ∀ id ∈ w.sent, id < max w.db.next w.confirmed → Accounted w id := by
      intro id hid hlt
      rw [max_eq_left hsound.confirmed] at hlt
      exact hsound.passed id hid hlt
    refine ⟨hsound.handled.2, hsound.handled.1, hsound.ahead.nodup, hpassed, ?_⟩
    intro hown id hid hlt
    have hnone := (hsound.own (foreign_runSteps env redact e steps hown)).1
    rcases hpassed id hid hlt with hclaim | ⟨k, hk, -⟩
    · exact hclaim
    · rw [hnone] at hk
      exact absurd hk List.not_mem_nil

/-- Two updates of which the first cannot be handled: the next turn claims the second. -/
example :
    let env : Env ℕ := {
      io := fun n => (.ok (), n)
      time := fun n => (0, n)
      poll := fun n => ({ gaps := if n = 0 then [0, 0] else [] }, n + 1)
      handle :=
        fun id n => (if id = 0 then .error { kind := .runtime, text := "" } else .ok (), n) }
    let w := runSteps id env 0 [.start none 100 9, .turn 9, .turn 99]
    (w.sent, w.claims, w.handled, w.db.next) = ([0, 1], [1, 0], [1, 0], 2) := by
  decide +kernel

end SpotSidecar.Telegram
