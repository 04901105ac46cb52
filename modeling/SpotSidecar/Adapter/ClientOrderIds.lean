import SpotSidecar.State.Values
import SpotSidecar.Text.Hex
import SpotSidecar.Text.Records

/-! The generator of client order ids: a checked prefix, a role, the clock, a counter that wraps
around and random digits, cut to the length the exchange accepts. -/
namespace SpotSidecar

/-- `[A-Z0-9_-]` -/
def SafeChar (c : Char) : Prop :=
  ('A' ≤ c ∧ c ≤ 'Z') ∨ ('0' ≤ c ∧ c ≤ '9') ∨ c = '_' ∨ c = '-'

instance : DecidablePred SafeChar := fun c => by unfold SafeChar; infer_instance

/-- `_SAFE` -/
def SafePart (s : String) : Prop :=
  1 ≤ s.toList.length ∧ s.toList.length ≤ 12 ∧ ∀ c ∈ s.toList, SafeChar c

instance : DecidablePred SafePart := fun s =>
  have : Decidable (∀ c ∈ s.toList, SafeChar c) := List.decidableBAll SafeChar s.toList
  instDecidableAnd

/-- `str.upper`; `other` has the capitals of the characters outside ASCII. -/
def upperText (other : Char → String) (s : String) : String :=
  String.ofList (s.toList.flatMap fun c => if c.toNat < 128 then [c.toUpper] else (other c).toList)

structure ClientOrderIds where
  idPrefix : String
  counter : ℕ := 0
  safe : SafePart idPrefix
  counter_lt : counter < 0x10000

/-- What one call gets: the role, the clock in nanoseconds and six random bytes. -/
structure IdDraw where
  role : String
  timeNs : ℤ
  entropy : Fin (2 ^ 48)
  deriving DecidableEq

namespace ClientOrderIds

/-- `__init__` -/
def create (other : Char → String) (text : String) : Except Exc ClientOrderIds :=
  let text := upperText other text
  if h : SafePart text then .ok { idPrefix := text, safe := h, counter_lt := by decide }
  else .error { kind := .value, text := "client-order prefix must match [A-Z0-9_-]{1,12}" }

/-- The text before it is cut. -/
def compose (idPrefix role : String) (stamp counter entropy : ℕ) : List Char :=
  idPrefix.toList ++ '-' :: (role.toList ++ '-' ::
    (Hex.digits Hex.upper 8 stamp ++ Hex.digits Hex.upper 4 counter ++
      Hex.digits Hex.upper 12 entropy))

def bump (ids : ClientOrderIds) : ClientOrderIds :=
  { ids with counter := (ids.counter + 1) % 0x10000, counter_lt := by omega }

def new (other : Char → String) (ids : ClientOrderIds) (draw : IdDraw) :
    Except Exc (String × ClientOrderIds) :=
  let role := upperText other draw.role
  if SafePart role then
    let ids := ids.bump
    let stamp := (draw.timeNs % 2 ^ 32).toNat
    let value := compose ids.idPrefix role stamp ids.counter draw.entropy
    .ok (String.ofList (value.take 36), ids)
  else .error { kind := .value, text := "client-order role must match [A-Z0-9_-]{1,12}" }

/-- Consecutive calls. -/
def news (other : Char → String) (ids : ClientOrderIds) :
    List IdDraw → Except Exc (List String × ClientOrderIds)
  | [] => .ok ([], ids)
  | draw :: draws => do
    let (value, ids) ← ids.new other draw
    let (values, ids) ← ids.news other draws
    return (value :: values, ids)

end ClientOrderIds

/-- The roles of the order requests and of the emergency exit. -/
def clientRoles : List String :=
  ["ENTRYLIST", "ENTRY", "TRAIL", "TP", "STOP", "PROTECT", "EMERGENCY"]

namespace ClientOrderIds
variable {ids : ClientOrderIds}

/-- A role that the adapter uses is its own capitals, has no hyphen, and leaves room for the
counter. -/
theorem clientRoles_spec (other : Char → String) {role : String} (h : role ∈ clientRoles) :
    upperText other role = role ∧ SafePart role ∧ '-' ∉ role.toList ∧ role.toList.length ≤ 9 := by
  have hupper : ∀ role ∈ clientRoles,
      (role.toList.all fun c => decide (c.toNat < 128) && decide (c.toUpper = c)) = true := by
    decide
  have hrest : ∀ role ∈ clientRoles,
      SafePart role ∧ '-' ∉ role.toList ∧ role.toList.length ≤ 9 := by decide
  refine ⟨?_, hrest role h⟩
  have hmap : (role.toList.flatMap fun c =>
      if c.toNat < 128 then [c.toUpper] else (other c).toList) = role.toList := by
    have hpoint : ∀ c ∈ role.toList,
        (if c.toNat < 128 then [c.toUpper] else (other c).toList) = [c] := by
      intro c hc
      have hall := List.all_eq_true.mp (hupper role h) c hc
      rw [Bool.and_eq_true] at hall
      have hascii : c.toNat < 128 := of_decide_eq_true hall.1
      have hself : c.toUpper = c := of_decide_eq_true hall.2
      rw [if_pos hascii, hself]
    rw [List.flatMap_congr hpoint]
    simp
  rw [upperText, hmap, String.ofList_toList]

/-- The cut falls into the random digits: the counter is kept whole for the longest prefix and the
longest role. -/
theorem take_compose {idPrefix role : String} (hpre : idPrefix.toList.length ≤ 12)
    (hrole : role.toList.length ≤ 9) (stamp counter entropy : ℕ) :
    (compose idPrefix role stamp counter entropy).take 36 =
      idPrefix.toList ++ '-' :: (role.toList ++ '-' ::
        (Hex.digits Hex.upper 8 stamp ++ (Hex.digits Hex.upper 4 counter ++
          (Hex.digits Hex.upper 12 entropy).take
            (22 - idPrefix.toList.length - role.toList.length)))) := by
  obtain ⟨p, hp⟩ : ∃ p, 36 - idPrefix.toList.length = p + 1 :=
    ⟨35 - idPrefix.toList.length, by omega⟩
  obtain ⟨r, hr⟩ : ∃ r, p - role.toList.length = r + 1 :=
    ⟨p - role.toList.length - 1, by omega⟩
  have hcut : r - 8 - 4 = 22 - idPrefix.toList.length - role.toList.length := by omega
  rw [compose, List.take_append, List.take_of_length_le (by omega), hp, List.take_succ_cons,
    List.take_append, List.take_of_length_le (by omega), hr, List.take_succ_cons,
    List.append_assoc, List.take_append, List.take_of_length_le (by rw [Hex.length_digits]; omega),
    List.take_append, List.take_of_length_le (by simp only [Hex.length_digits]; omega)]
  simp only [Hex.length_digits, hcut]

theorem take_compose_inj {idPrefix role role' : String} (hpre : idPrefix.toList.length ≤ 12)
    (hrole : role ∈ clientRoles) (hrole' : role' ∈ clientRoles)
    {stamp stamp' counter counter' entropy entropy' : ℕ} (hcounter : counter < 16 ^ 4)
    (hcounter' : counter' < 16 ^ 4)
    (h : (compose idPrefix role stamp counter entropy).take 36 =
      (compose idPrefix role' stamp' counter' entropy').take 36) :
    counter = counter' := by
  obtain ⟨-, -, hhyphen, hlength⟩ := clientRoles_spec (fun _ => "") hrole
  obtain ⟨-, -, hhyphen', hlength'⟩ := clientRoles_spec (fun _ => "") hrole'
  rw [take_compose hpre hlength, take_compose hpre hlength'] at h
  have hrest := (List.cons.inj (List.append_cancel_left h)).2
  obtain ⟨-, hdigits⟩ := Records.append_separator_inj hhyphen hhyphen' hrest
  obtain ⟨-, htail⟩ := List.append_inj hdigits (by simp)
  obtain ⟨hfour, -⟩ := List.append_inj htail (by simp)
  exact Hex.digits_inj (fun _ _ => Hex.upper_inj) hcounter hcounter' hfour

theorem safeChar_digits {w n : ℕ} {c : Char} (h : c ∈ Hex.digits Hex.upper w n) : SafeChar c := by
  obtain ⟨d, hd, rfl⟩ := Hex.mem_digits h
  have hall : ∀ d < 16, SafeChar (Hex.upper d) := by decide
  exact hall d hd

theorem safeChar_compose {idPrefix role : String} (hpre : SafePart idPrefix)
    (hrole : SafePart role) {stamp counter entropy : ℕ} {c : Char}
    (h : c ∈ compose idPrefix role stamp counter entropy) : SafeChar c := by
  have hhyphen : SafeChar '-' := by decide
  simp only [compose, List.mem_append, List.mem_cons] at h
  rcases h with h | rfl | h | rfl | (h | h) | h
  · exact hpre.2.2 c h
  · exact hhyphen
  · exact hrole.2.2 c h
  · exact hhyphen
  · exact safeChar_digits h
  · exact safeChar_digits h
  · exact safeChar_digits h

/-- `value` is what the call after `i` others returns. -/
def Minted (ids : ClientOrderIds) (i : ℕ) (value : String) : Prop :=
  ∃ role ∈ clientRoles, ∃ stamp entropy, value = String.ofList
    ((compose ids.idPrefix role stamp ((ids.counter + i + 1) % 0x10000) entropy).take 36)

theorem Minted.safe {i : ℕ} {value : String} (h : ids.Minted i value) :
    value.length ≤ 36 ∧ ∀ c ∈ value.toList, SafeChar c := by
  obtain ⟨role, hrole, stamp, entropy, rfl⟩ := h
  constructor
  · rw [String.length_ofList]
    exact List.length_take_le _ _
  · intro c hc
    rw [String.toList_ofList] at hc
    exact safeChar_compose ids.safe (clientRoles_spec (fun _ => "") hrole).2.1
      (List.mem_of_mem_take hc)

theorem Minted.ne {i j : ℕ} {value value' : String} (h : ids.Minted i value)
    (h' : ids.Minted j value') (hij : i < j) (hj : j < 0x10000) : value ≠ value' := by
  obtain ⟨role, hrole, stamp, entropy, rfl⟩ := h
  obtain ⟨role', hrole', stamp', entropy', rfl⟩ := h'
  intro heq
  have hlists := congrArg String.toList heq
  rw [String.toList_ofList, String.toList_ofList] at hlists
  have hcounters := take_compose_inj ids.safe.2.1 hrole hrole' (by omega) (by omega) hlists
  omega

theorem new_ok (other : Char → String) (ids : ClientOrderIds) {draw : IdDraw}
    (hrole : draw.role ∈ clientRoles) :
    ∃ value, ids.new other draw = .ok (value, ids.bump) ∧ ids.Minted 0 value := by
  obtain ⟨hupper, hsafe, -, -⟩ := clientRoles_spec other hrole
  refine ⟨_, ?_, draw.role, hrole, (draw.timeNs % 2 ^ 32).toNat, draw.entropy, rfl⟩
  unfold new
  simp only [hupper, hsafe, if_true]
  rfl

theorem Minted.of_bump {i : ℕ} {value : String} (h : ids.bump.Minted i value) :
    ids.Minted (i + 1) value := by
  obtain ⟨role, hrole, stamp, entropy, rfl⟩ := h
  have hcounter : (ids.bump.counter + i + 1) % 0x10000 = (ids.counter + (i + 1) + 1) % 0x10000 := by
    show ((ids.counter + 1) % 0x10000 + i + 1) % 0x10000 = _
    omega
  exact ⟨role, hrole, stamp, entropy, by rw [hcounter]; rfl⟩

theorem news_ok (other : Char → String) (ids : ClientOrderIds) (draws : List IdDraw)
    (hroles : ∀ draw ∈ draws, draw.role ∈ clientRoles) :
    ∃ values last, ids.news other draws = .ok (values, last) ∧ values.length = draws.length ∧
      ∀ i (h : i < values.length), ids.Minted i values[i] := by
  induction draws generalizing ids with
  | nil => exact ⟨[], ids, rfl, rfl, fun i h => absurd h (Nat.not_lt_zero i)⟩
  | cons draw draws ih =>
    obtain ⟨value, hnew, hvalue⟩ := new_ok other ids
      (hroles draw List.mem_cons_self)
    obtain ⟨values, last, hnews, hlength, hvalues⟩ := ih ids.bump
      (fun d hd => hroles d (List.mem_cons_of_mem draw hd))
    refine ⟨value :: values, last, ?_, by simp [hlength], ?_⟩
    · simp only [news, hnew, bind, Except.bind, hnews]
      rfl
    · intro i hi
      cases i with
      | zero => exact hvalue
      | succ i => exact (hvalues i (Nat.lt_of_succ_lt_succ hi)).of_bump

/-- No two of 65536 consecutive ids are equal, whatever the clock and the random bytes are. -/
theorem news_distinct (other : Char → String) (ids : ClientOrderIds) (draws : List IdDraw)
    (hroles : ∀ draw ∈ draws, draw.role ∈ clientRoles) (hlength : draws.length ≤ 65536) :
    ∃ values last, ids.news other draws = .ok (values, last) ∧ values.length = draws.length ∧
      values.Nodup ∧ ∀ value ∈ values, value.length ≤ 36 ∧ ∀ c ∈ value.toList, SafeChar c := by
  obtain ⟨values, last, hnews, hvalues, hminted⟩ := news_ok other ids draws hroles
  refine ⟨values, last, hnews, hvalues, ?_, ?_⟩
  · rw [List.nodup_iff_pairwise_ne, List.pairwise_iff_getElem]
    intro i j hi hj hij
    exact (hminted i hi).ne (hminted j hj) hij (by omega)
  · intro value hvalue
    obtain ⟨i, hi, rfl⟩ := List.mem_iff_getElem.mp hvalue
    exact (hminted i hi).safe

/-- Two roles at one instant with the same random bytes, where the counter wraps around and the
prefix is a longest one. -/
theorem news_distinct_wrapped :
    ∃ values last, news (fun _ => "") ⟨"ABCDEFGHIJ-_", 0xFFFE, by decide, by decide⟩
      [⟨"ENTRYLIST", 1, 0⟩, ⟨"TP", 1, 0⟩] = .ok (values, last) ∧ values.length = 2 ∧
        values.Nodup ∧ ∀ value ∈ values, value.length ≤ 36 ∧ ∀ c ∈ value.toList, SafeChar c :=
  news_distinct _ _ _ (by decide) (by decide)

end ClientOrderIds
end SpotSidecar
