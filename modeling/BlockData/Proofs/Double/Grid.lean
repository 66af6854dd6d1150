/-
**Decimals on a grid.**

The decimals with one exponent are a grid. The search for the shortest decimal tries the two grid
points around a magnitude, the nearer one first. If any point of the grid reads back as the
magnitude, one of the two does, and the first that does is the best of the grid.

* `neighbours_gridNeighbours`: the two points that are tried are the ones around the magnitude;
* `BestOnGrid`: a point that reads back, and none that does is nearer;
* `find?_gridNeighbours`: trying them finds the best point, if there is one.
-/

import BlockData.Proofs.Double.Reading

namespace BlockData

/-! ### Points around an amount -/

/-- The two multiples of a step around an amount, the nearer one first and of two equally near the
even one. -/
structure Neighbours (amount step : ℚ) (near far : ℕ) : Prop where
  half : 2 * |near * step - amount| ≤ step
  even : 2 * |near * step - amount| = step → near % 2 = 0
  opposite : far = near + 1 ∧ near * step ≤ amount ∨ near = far + 1 ∧ amount ≤ near * step

/-- A quotient is rounded to the whole number below it or to the next. -/
theorem roundQuotient_eq_or (numerator denominator : ℕ) :
    roundQuotient numerator denominator = numerator / denominator ∨
      roundQuotient numerator denominator = numerator / denominator + 1 := by
  unfold roundQuotient
  simp only
  split
  · exact .inl rfl
  · split
    · exact .inr rfl
    · omega

/-- The two whole numbers around a quotient. -/
theorem neighbours_roundQuotient (numerator : ℕ) {denominator : ℕ} (positive : 0 < denominator) :
    let below := numerator / denominator
    let near := roundQuotient numerator denominator
    Neighbours numerator denominator near (if near = below then below + 1 else below) := by
  intro below near
  obtain ⟨notAbove, notBelow⟩ := roundQuotient_near numerator denominator positive
  have tie := @roundQuotient_even numerator denominator positive
  have sides : near = below ∨ near = below + 1 := roundQuotient_eq_or numerator denominator
  have least : below * denominator ≤ numerator := Nat.div_mul_le_self numerator denominator
  have most : numerator ≤ (below + 1) * denominator := by
    rw [Nat.mul_comm]
    exact Nat.le_of_lt (Nat.lt_mul_div_succ numerator positive)
  change 2 * (near * denominator) ≤ 2 * numerator + denominator at notAbove
  change 2 * numerator ≤ 2 * (near * denominator) + denominator at notBelow
  refine ⟨?_, fun same => tie ?_, ?_⟩
  · have above : (2 * (near * denominator) : ℚ) ≤ 2 * numerator + denominator := by
      exact_mod_cast notAbove
    have under : (2 * numerator : ℚ) ≤ 2 * (near * denominator) + denominator := by
      exact_mod_cast notBelow
    rw [← abs_two, ← abs_mul, abs_le]
    exact ⟨by linarith, by linarith⟩
  · rw [← abs_two, ← abs_mul, abs_eq (Nat.cast_nonneg denominator)] at same
    rcases same with above | under
    · refine .inl ?_
      have : (2 * (near * denominator) : ℚ) = 2 * numerator + denominator := by linarith
      exact_mod_cast this
    · refine .inr ?_
      have : (2 * numerator : ℚ) = 2 * (near * denominator) + denominator := by linarith
      exact_mod_cast this
  · rcases sides with same | next
    · rw [if_pos same, same]
      exact .inl ⟨rfl, by exact_mod_cast least⟩
    · rw [if_neg (by omega), next]
      exact .inr ⟨rfl, by exact_mod_cast most⟩

theorem Neighbours.of_mul {amount step factor : ℚ} {near far : ℕ} (positive : 0 < factor)
    (around : Neighbours (amount * factor) (step * factor) near far) :
    Neighbours amount step near far := by
  have scaled : 2 * |near * (step * factor) - amount * factor| =
      2 * |near * step - amount| * factor := by
    rw [← mul_assoc, ← sub_mul, abs_mul, abs_of_pos positive, mul_assoc]
  obtain ⟨half, even, opposite⟩ := around
  rw [scaled] at half even
  refine ⟨le_of_mul_le_mul_right half positive, fun same => even (by rw [same]), ?_⟩
  simpa only [← mul_assoc, mul_le_mul_iff_left₀ positive] using opposite

/-- The step of a grid, in units. -/
def gridStep (exponent : ℤ) : ℚ := 10 ^ exponent * unitsPerOne

theorem gridStep_pos (exponent : ℤ) : 0 < gridStep exponent :=
  mul_pos (by positivity) (Nat.cast_pos.mpr unitsPerOne_pos)

theorem Decimal.value_mul (decimal : Decimal) :
    decimal.value * unitsPerOne = decimal.coefficient * gridStep decimal.exponent :=
  mul_assoc ..

/-- **The two points that are tried are the ones around the magnitude.** -/
theorem neighbours_gridNeighbours (magnitude : ℕ) (exponent : ℤ) :
    ∃ near far, gridNeighbours magnitude exponent = [⟨near, exponent⟩, ⟨far, exponent⟩] ∧
      Neighbours magnitude (gridStep exponent) near far := by
  refine ⟨_, _, rfl, ?_⟩
  simp only [Nat.pow_eq]
  rcases lt_or_ge exponent 0 with fine | coarse
  · obtain ⟨places, rfl⟩ := Int.exists_eq_neg_ofNat fine.le
    rw [if_pos fine, if_pos fine, Int.natAbs_neg, Int.natAbs_natCast]
    have power : (0 : ℚ) < 10 ^ places := by positivity
    refine .of_mul power ?_
    have step : gridStep (-places) * 10 ^ places = unitsPerOne := by
      rw [gridStep, zpow_neg, zpow_natCast, mul_right_comm, inv_mul_cancel₀ power.ne', one_mul]
    have around := neighbours_roundQuotient (magnitude * 10 ^ places) unitsPerOne_pos
    rw [step]
    exact_mod_cast around
  · obtain ⟨places, rfl⟩ := Int.eq_ofNat_of_zero_le coarse
    rw [if_neg (not_lt.mpr coarse), if_neg (not_lt.mpr coarse), Int.toNat_natCast]
    have step : gridStep places = (unitsPerOne * 10 ^ places : ℕ) := by
      rw [gridStep, zpow_natCast, mul_comm]
      exact_mod_cast rfl
    rw [step]
    exact neighbours_roundQuotient magnitude
      (Nat.mul_pos unitsPerOne_pos (Nat.pow_pos (by decide)))

/-! ### The best point -/

/-- A point of a grid that reads back as a rank, and the best one: none that does is nearer, and of
two equally near the even one. -/
structure BestOnGrid (rank : ℕ) (step : ℚ) (best : ℕ) : Prop where
  reads : NearestTo (best * step) rank
  close : |best * step - magnitudeUnits rank| ≤ step
  nearest : ∀ other : ℕ, NearestTo (other * step) rank →
    |best * step - magnitudeUnits rank| ≤ |other * step - magnitudeUnits rank|
  even : ∀ other : ℕ, NearestTo (other * step) rank →
    |other * step - magnitudeUnits rank| = |best * step - magnitudeUnits rank| →
      other = best ∨ best % 2 = 0

namespace Neighbours

variable {rank near far other : ℕ} {amount step : ℚ}

/-- The nearer point is half a step away at most, to either side. -/
theorem within_half (around : Neighbours amount step near far) :
    -(step / 2) ≤ near * step - amount ∧ near * step - amount ≤ step / 2 :=
  abs_le.mp (by linarith [around.half])

/-- Every other point is half a step away at least. -/
theorem le_of_ne (around : Neighbours amount step near far) (positive : 0 < step)
    (different : other ≠ near) : step ≤ 2 * |other * step - amount| := by
  obtain ⟨low, high⟩ := around.within_half
  rcases Nat.lt_or_gt_of_ne different with less | greater
  · have apart : ((other + 1 : ℕ) : ℚ) * step ≤ near * step :=
      mul_le_mul_of_nonneg_right (Nat.cast_le.mpr less) positive.le
    push_cast at apart
    linarith [neg_le_abs (other * step - amount)]
  · have apart : ((near + 1 : ℕ) : ℚ) * step ≤ other * step :=
      mul_le_mul_of_nonneg_right (Nat.cast_le.mpr greater) positive.le
    push_cast at apart
    linarith [le_abs_self (other * step - amount)]

/-- The nearer point is the best one if it reads back. -/
theorem best_near (around : Neighbours (magnitudeUnits rank) step near far) (positive : 0 < step)
    (reads : NearestTo (near * step) rank) : BestOnGrid rank step near := by
  have half := around.half
  refine ⟨reads, by linarith [abs_nonneg (near * step - magnitudeUnits rank)], ?_, ?_⟩
  · intro other _
    rcases eq_or_ne other near with rfl | different
    · exact le_rfl
    · linarith [around.le_of_ne positive different]
  · intro other _ tie
    rcases eq_or_ne other near with same | different
    · exact .inl same
    · exact .inr (around.even (by linarith [around.le_of_ne positive different]))

/-- If the nearer point does not read back, what does lies at or behind the farther one. -/
theorem behind_far (around : Neighbours (magnitudeUnits rank) step near far) (positive : 0 < step)
    (missed : ¬NearestTo (near * step) rank) (reads : NearestTo (other * step) rank) :
    NearestTo (far * step) rank ∧
      |far * step - magnitudeUnits rank| ≤ |other * step - magnitudeUnits rank| ∧
      (|other * step - magnitudeUnits rank| = |far * step - magnitudeUnits rank| →
        other = far) := by
  have self := nearestTo_magnitudeUnits rank
  have order {low high : ℕ} (less : low ≤ high) : (low : ℚ) * step ≤ high * step :=
    mul_le_mul_of_nonneg_right (Nat.cast_le.mpr less) positive.le
  obtain ⟨low, high⟩ := around.within_half
  rcases around.opposite with ⟨rfl, before⟩ | ⟨rfl, behind⟩
  · have above : near + 1 ≤ other := by
      refine Nat.lt_of_not_le fun below => missed ?_
      exact reads.between self (order below) before
    have beyond := order above
    push_cast at beyond ⊢
    rw [abs_of_nonneg (show 0 ≤ (near + 1) * step - magnitudeUnits rank by linarith),
      abs_of_nonneg (show 0 ≤ other * step - magnitudeUnits rank by linarith)]
    refine ⟨self.between reads (by linarith) beyond, by linarith, fun same => ?_⟩
    have equal : (other : ℚ) * step = (near + 1) * step := by linarith
    exact_mod_cast mul_right_cancel₀ positive.ne' equal
  · have below : other ≤ far := by
      refine Nat.le_of_lt_succ (Nat.lt_of_not_le fun above => missed ?_)
      exact self.between reads behind (order above)
    have beyond := order below
    push_cast at low high
    rw [abs_of_nonpos (show far * step - magnitudeUnits rank ≤ 0 by linarith),
      abs_of_nonpos (show other * step - magnitudeUnits rank ≤ 0 by linarith)]
    refine ⟨reads.between self beyond (by linarith), by linarith, fun same => ?_⟩
    have equal : (other : ℚ) * step = far * step := by linarith
    exact_mod_cast mul_right_cancel₀ positive.ne' equal

/-- The farther point is the best one if the nearer one does not read back, but some point does. -/
theorem best_far (around : Neighbours (magnitudeUnits rank) step near far) (positive : 0 < step)
    (missed : ¬NearestTo (near * step) rank) (reads : NearestTo (other * step) rank) :
    BestOnGrid rank step far := by
  have behind {point : ℕ} (found : NearestTo (point * step) rank) :=
    around.behind_far positive missed found
  refine ⟨(behind reads).1, ?_, fun _ found => (behind found).2.1,
    fun _ found tie => .inl ((behind found).2.2 tie)⟩
  obtain ⟨low, high⟩ := around.within_half
  rw [abs_le]
  rcases around.opposite with ⟨rfl, before⟩ | ⟨rfl, behind⟩
  · push_cast
    exact ⟨by linarith, by linarith⟩
  · push_cast at low high behind
    exact ⟨by linarith, by linarith⟩

end Neighbours

variable {rank : ℕ} {exponent : ℤ}

/-- **Trying the two points finds the best one of the grid**, if any point reads back. -/
theorem find?_gridNeighbours (small : rank < rankCount) {other : ℕ}
    (reads : NearestTo (other * gridStep exponent) rank) :
    ∃ best, (gridNeighbours (magnitudeUnits rank) exponent).find?
        (fun candidate => decimalRank candidate = rank) = some ⟨best, exponent⟩ ∧
      BestOnGrid rank (gridStep exponent) best := by
  obtain ⟨near, far, tried, around⟩ := neighbours_gridNeighbours (magnitudeUnits rank) exponent
  have positive := gridStep_pos exponent
  have readsAs (point : ℕ) :
      decimalRank ⟨point, exponent⟩ = rank ↔ NearestTo (point * gridStep exponent) rank := by
    rw [decimalRank_eq_iff small, Decimal.value_mul]
  rw [tried]
  by_cases hit : NearestTo (near * gridStep exponent) rank
  · exact ⟨near, by simp [(readsAs near).mpr hit], around.best_near positive hit⟩
  · have best := around.best_far positive hit reads
    have missed : decimalRank ⟨near, exponent⟩ ≠ rank := fun same => hit ((readsAs near).mp same)
    exact ⟨far, by simp [missed, (readsAs far).mpr best.reads], best⟩

/-- If no point of the grid reads back, neither of the two does. -/
theorem find?_gridNeighbours_eq_none (small : rank < rankCount)
    (none : ∀ other : ℕ, ¬NearestTo (other * gridStep exponent) rank) :
    (gridNeighbours (magnitudeUnits rank) exponent).find?
      (fun candidate => decimalRank candidate = rank) = Option.none := by
  obtain ⟨near, far, tried, -⟩ := neighbours_gridNeighbours (magnitudeUnits rank) exponent
  have missed (point : ℕ) : decimalRank ⟨point, exponent⟩ ≠ rank := by
    rw [Ne, decimalRank_eq_iff small, Decimal.value_mul]
    exact none point
  simp [tried, missed]

end BlockData
