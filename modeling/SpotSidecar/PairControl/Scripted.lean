import SpotSidecar.PairControl.Controller

/-! A controller of two pairs, and a file system whose next failures are written down. -/
namespace SpotSidecar.PairControl

/-- The white space of `str.strip` among the characters of ASCII. -/
def isSpace (c : Char) : Bool :=
  c.toNat = 32 || (9 ≤ c.toNat && c.toNat ≤ 13) || (28 ≤ c.toNat && c.toNat ≤ 31)

theorem isCode_toNat {c : Char} (h : isCode c = true) : 48 ≤ c.toNat ∧ c.toNat ≤ 90 := by
  unfold isCode at h
  have hupper : c.isUpper = decide (c.val ≥ 'A'.val ∧ c.val ≤ 'Z'.val) := rfl
  simp only [hupper, Char.isDigit, Bool.or_eq_true, Bool.and_eq_true, decide_eq_true_eq, ge_iff_le,
    UInt32.le_iff_toNat_le] at h
  have h0 : ('0'.val).toNat = 48 := rfl
  have h9 : ('9'.val).toNat = 57 := rfl
  have hA : ('A'.val).toNat = 65 := rfl
  have hZ : ('Z'.val).toNat = 90 := rfl
  change 48 ≤ c.val.toNat ∧ c.val.toNat ≤ 90
  omega

/-- The text rules for ASCII. -/
def TextRules.ascii : TextRules where
  clean text := (((text.dropWhile isSpace).reverse.dropWhile isSpace).reverse).map Char.toUpper
  clean_plain text h := by
    have hnat : ∀ c ∈ text, 47 ≤ c.toNat ∧ c.toNat ≤ 90 := by
      intro c hc
      rcases h c hc with hcode | rfl
      · have := isCode_toNat hcode
        omega
      · decide
    have hspace : ∀ c ∈ text, isSpace c = false := by
      intro c hc
      have := hnat c hc
      simp only [isSpace, Bool.or_eq_false_iff, Bool.and_eq_false_iff, decide_eq_false_iff_not]
      omega
    have hdrop : ∀ l : List Char, (∀ c ∈ l, isSpace c = false) → l.dropWhile isSpace = l := by
      intro l hl
      cases l with
      | nil => rfl
      | cons c l => simp [hl c (List.mem_cons_self ..)]
    have hupper : ∀ c ∈ text, c.toUpper = id c := by
      intro c hc
      have hle := (hnat c hc).2
      refine dif_neg fun hlower => ?_
      have ha := UInt32.le_iff_toNat_le.mp hlower.1
      have h97 : ('a'.val).toNat = 97 := rfl
      change c.val.toNat ≤ 90 at hle
      omega
    rw [hdrop text hspace, hdrop text.reverse (by simpa using hspace), List.reverse_reverse,
      List.map_congr_left hupper, List.map_id]

namespace Scripted

def config : PairConfig where
  allowedQuotes := ["USDT", "USDC"]
  registry := true
  text := .ascii
  digests :=
    { pairConfig := fun pair _ _ _ => pair
      pairState := fun _ pair _ _ _ generation _ =>
        pair ++ String.ofList (List.replicate generation '+') }

/-- Whether the next writes succeed; the writes after them do, and everything else does. -/
def env : PairEnv (List Bool) where
  now outcomes := (0, outcomes)
  write _ outcomes :=
    match outcomes with
    | false :: rest => (.error (.other "OSError" "No space left on device"), rest)
    | true :: rest => (.ok (), rest)
    | [] => (.ok (), [])
  verifyFlat _ outcomes := (.ok { ok := true }, outcomes)
  validateTarget pair outcomes := (.ok { pair, preflight := "ok" }, outcomes)
  requirePair pair outcomes := (.ok { pair, registryHash := "registry" }, outcomes)

/-- Everything succeeds. -/
def flat : PairEnv Unit where
  now _ := (0, ())
  write _ _ := (.ok (), ())
  verifyFlat _ _ := (.ok { ok := true }, ())
  validateTarget pair _ := (.ok { pair, preflight := "ok" }, ())
  requirePair pair _ := (.ok { pair, registryHash := "registry" }, ())

/-- A call that nothing interrupts. -/
def whole (op : Op) : Step := { op, budget := 100 }

/-- The first state of a controller that starts with USDT. -/
def first : ActiveState where
  pair := "BTC/USDT"
  symbol := "BTCUSDT"
  base := "BTC"
  quote := "USDT"
  generation := 1
  updatedAt := 0
  source := "bootstrap"
  pairConfigHash := "BTC/USDT"
  stateHash := "BTC/USDT+"

/-- A switch to USDC has been selected. -/
def selection : List Step := [whole (.bootstrap "btc/usdt"), whole (.beginSwitch "BTCUSDC" "")]

/-- The process dies after the first stage of a selection is on record. -/
def interrupted : List Step :=
  [whole (.bootstrap "btc/usdt"), { op := .beginSwitch "BTCUSDC" "", budget := 7 }]

end Scripted
end SpotSidecar.PairControl
