import SpotSidecar.State.Values

/-! Multiples of a step, and rounding to them. -/
namespace SpotSidecar

/-- A price that the tick of the symbol admits. -/
def Multiple (step value : ℚ) : Prop := ∃ k : ℤ, value = k * step

section rounding
variable {step value other bound : ℚ}

theorem multiple_floorStep (value step : ℚ) : Multiple step (floorStep value step) := ⟨_, rfl⟩

theorem multiple_ceilStep (value step : ℚ) : Multiple step (ceilStep value step) := ⟨_, rfl⟩

theorem le_ceilStep (value : ℚ) (hs : 0 < step) : value ≤ ceilStep value step := by
  exact (div_le_iff₀ hs).mp Rat.le_ceil

/-- The least multiple above a value. -/
theorem Multiple.ceilStep_le (h : Multiple step other) (hs : 0 < step) (hle : value ≤ other) :
    ceilStep value step ≤ other := by
  obtain ⟨k, rfl⟩ := h
  have hceil : (value / step).ceil ≤ k := Rat.ceil_le_iff.mpr ((div_le_iff₀ hs).mpr hle)
  have hcast : ((value / step).ceil : ℚ) ≤ k := by exact_mod_cast hceil
  exact mul_le_mul_of_nonneg_right hcast hs.le

/-- The greatest multiple below a value. -/
theorem Multiple.le_floorStep (h : Multiple step other) (hs : 0 < step) (hv : 0 ≤ value)
    (hle : other ≤ value) : other ≤ floorStep value step := by
  obtain ⟨k, rfl⟩ := h
  have hfloor : k ≤ ⌊value / step⌋ := Int.le_floor.mpr ((le_div_iff₀ hs).mpr hle)
  have hcast : (k : ℚ) ≤ ⌊value / step⌋ := by exact_mod_cast hfloor
  rw [floorStep_of_nonneg hv hs]
  exact mul_le_mul_of_nonneg_right hcast hs.le

/-- Rounding changes no multiple. -/
theorem Multiple.floorStep_eq (h : Multiple step value) (hs : 0 < step) :
    floorStep value step = value := by
  obtain ⟨k, rfl⟩ := h
  have hdiv : k * step / step = (k : ℚ) := mul_div_cancel_right₀ _ hs.ne'
  have hround : roundDown (k : ℚ) = k := by
    unfold roundDown
    split
    · exact Rat.floor_intCast k
    · exact Rat.ceil_intCast k
  rw [floorStep, hdiv, hround]

theorem floorStep_nonpos (hs : 0 < step) (hv : value ≤ 0) : floorStep value step ≤ 0 := by
  have hdiv : value / step ≤ 0 := div_nonpos_of_nonpos_of_nonneg hv hs.le
  have hround : roundDown (value / step) ≤ 0 := by
    unfold roundDown
    split
    · next h =>
      rw [le_antisymm hdiv h]
      exact le_rfl
    · exact Rat.ceil_le_iff.mpr (by exact_mod_cast hdiv)
  exact mul_nonpos_of_nonpos_of_nonneg (by exact_mod_cast hround) hs.le

theorem floorStep_lt (hs : 0 < step) (hpos : 0 < bound) (hlt : value < bound) :
    floorStep value step < bound := by
  by_cases hv : 0 ≤ value
  · exact (floorStep_le hv hs).trans_lt hlt
  · have hle := floorStep_nonpos hs (not_le.mp hv).le
    linarith

theorem floorStep_le_of_pos (hs : 0 < step) (hpos : 0 < floorStep value step) :
    floorStep value step ≤ value := by
  apply floorStep_le _ hs
  by_contra hv
  have hle := floorStep_nonpos hs (not_le.mp hv).le
  linarith

/-- A positive floor of the smaller of two values is within the floor of the first. -/
theorem floorStep_min_le (hs : 0 < step) (hpos : 0 < floorStep (min value other) step) :
    floorStep (min value other) step ≤ floorStep value step ∧
      floorStep (min value other) step ≤ other := by
  have hle : floorStep (min value other) step ≤ min value other := floorStep_le_of_pos hs hpos
  have hvalue := hle.trans (min_le_left value other)
  constructor
  · exact (multiple_floorStep _ _).le_floorStep hs (hpos.le.trans hvalue) hvalue
  · exact hle.trans (min_le_right value other)

theorem pos_of_floorStep_pos (hs : 0 < step) (hpos : 0 < floorStep value step) : 0 < value :=
  hpos.trans_le (floorStep_le_of_pos hs hpos)

/-- A floor reaches a positive bound where the value reaches the bound rounded up. -/
theorem le_floorStep_iff (hs : 0 < step) (hpos : 0 < other) :
    other ≤ floorStep value step ↔ ceilStep other step ≤ value := by
  have hceil := le_ceilStep other hs
  constructor
  · intro h
    have hv : 0 ≤ value := by
      by_contra hneg
      have := floorStep_nonpos hs (not_le.mp hneg).le
      linarith
    exact ((multiple_floorStep value step).ceilStep_le hs h).trans (floorStep_le hv hs)
  · intro h
    have hv : 0 ≤ value := by linarith
    exact hceil.trans ((multiple_ceilStep other step).le_floorStep hs hv h)

end rounding

end SpotSidecar
