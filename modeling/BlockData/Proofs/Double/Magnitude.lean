/-
**Magnitudes in binades.**

A rank is a binade and a significand in it, and its magnitude that significand, scaled. The two ways
to write the power of two between two binades agree, so that the step to the next magnitude is read
off the significand alone.

* `magnitudeUnits_of_binade`: the magnitude of a significand in a binade;
* `exists_binade`: every rank has a binade and a significand;
* `strictMono_magnitudeUnits`: a higher rank has a greater magnitude;
* `magnitudeUnits_succ_le`, `magnitudeUnits_succ_sub_le`: how long a step is beside the magnitude;
* `magnitudeUnits_nearestRank`: a rounded value as a whole number of steps;
* `magnitudeUnits_of_le`: whole numbers up to `2 ^ 53` are not rounded.
-/

import BlockData.Proofs.Range
import Mathlib.Order.Monotone.Basic

namespace BlockData

theorem unitsPerOne_eq : unitsPerOne = 2 ^ unitPlaces := by
  unfold unitsPerOne
  generalize unitPlaces = places
  rfl

theorem unitsPerOne_pos : 0 < unitsPerOne := by
  rw [unitsPerOne_eq]
  exact Nat.two_pow_pos _

/-- The magnitude at the rank of a binade and a significand in it, the next power of two
included. -/
theorem magnitudeUnits_of_binade {scale significand : Nat}
    (full : scale = 0 ∨ 2 ^ 52 ≤ significand) (most : significand ≤ 2 ^ 53) :
    magnitudeUnits (scale * 2 ^ 52 + significand) = significand * 2 ^ scale := by
  have size : binadeSize = 2 ^ 52 := rfl
  unfold magnitudeUnits
  rw [size]
  rcases Nat.lt_or_ge significand (2 ^ 53) with inside | top
  · rcases Nat.eq_zero_or_pos scale with rfl | positive
    · rw [if_pos (by omega)]
      omega
    · have significant : 2 ^ 52 ≤ significand := full.resolve_left (by omega)
      obtain ⟨fraction, rfl⟩ := Nat.exists_eq_add_of_le significant
      have small : fraction < 2 ^ 52 := by omega
      have place : scale * 2 ^ 52 + (2 ^ 52 + fraction) = fraction + 2 ^ 52 * (scale + 1) := by
        omega
      rw [if_neg (by omega), place, Nat.add_mul_mod_self_left, Nat.mod_eq_of_lt small,
        Nat.add_mul_div_left _ _ (by decide), Nat.div_eq_of_lt small, Nat.zero_add,
        Nat.add_sub_cancel]
      rfl
  · obtain rfl : significand = 2 ^ 53 := Nat.le_antisymm most top
    have place : scale * 2 ^ 52 + 2 ^ 53 = 0 + 2 ^ 52 * (scale + 2) := by omega
    rw [if_neg (by omega), place, Nat.add_mul_mod_self_left, Nat.zero_mod,
      Nat.add_mul_div_left _ _ (by decide), Nat.zero_div, Nat.zero_add]
    show (2 ^ 52 + 0) * 2 ^ (scale + 1) = _
    rw [Nat.pow_succ 2 scale]
    omega

/-- Every rank is a binade and a significand of 53 bits at most. -/
theorem exists_binade (rank : Nat) :
    ∃ scale significand, rank = scale * 2 ^ 52 + significand ∧ significand < 2 ^ 53 ∧
      (scale = 0 ∨ 2 ^ 52 ≤ significand) := by
  rcases Nat.lt_or_ge rank (2 ^ 52) with low | high
  · exact ⟨0, rank, by omega, by omega, .inl rfl⟩
  · have fraction : rank % 2 ^ 52 < 2 ^ 52 := Nat.mod_lt _ (by decide)
    have binade : 1 ≤ rank / 2 ^ 52 := by omega
    refine ⟨rank / 2 ^ 52 - 1, 2 ^ 52 + rank % 2 ^ 52, ?_, by omega, .inr (Nat.le_add_right _ _)⟩
    have division := Nat.div_add_mod rank (2 ^ 52)
    omega

/-- The magnitude at a rank is a significand of 53 bits at most times a power of two. -/
theorem exists_magnitudeUnits (rank : Nat) :
    ∃ significand scale, magnitudeUnits rank = significand * 2 ^ scale ∧ significand < 2 ^ 53 ∧
      (scale = 0 ∨ 2 ^ 52 ≤ significand) := by
  obtain ⟨scale, significand, rfl, short, full⟩ := exists_binade rank
  exact ⟨significand, scale, magnitudeUnits_of_binade full (Nat.le_of_lt short), short, full⟩

/-- From one rank to the next the significand grows by one. -/
theorem magnitudeUnits_succ (rank : Nat) :
    ∃ scale significand, magnitudeUnits rank = significand * 2 ^ scale ∧
      magnitudeUnits (rank + 1) = (significand + 1) * 2 ^ scale ∧ significand < 2 ^ 53 ∧
      (scale = 0 ∨ 2 ^ 52 ≤ significand) := by
  obtain ⟨scale, significand, rfl, short, full⟩ := exists_binade rank
  refine ⟨scale, significand, magnitudeUnits_of_binade full (Nat.le_of_lt short), ?_, short, full⟩
  rw [Nat.add_assoc]
  exact magnitudeUnits_of_binade (full.imp_right Nat.le_succ_of_le) short

/-- **A higher rank has a greater magnitude.** -/
theorem strictMono_magnitudeUnits : StrictMono magnitudeUnits := by
  refine strictMono_nat_of_lt_succ fun rank => ?_
  obtain ⟨scale, significand, this, next, -, -⟩ := magnitudeUnits_succ rank
  rw [this, next]
  exact Nat.mul_lt_mul_of_pos_right (Nat.lt_succ_self significand) (Nat.two_pow_pos scale)

/-- A step is no less than a part in `2 ^ 53` of the magnitude behind it. -/
theorem magnitudeUnits_succ_le (rank : Nat) :
    magnitudeUnits (rank + 1) ≤ 2 ^ 53 * (magnitudeUnits (rank + 1) - magnitudeUnits rank) := by
  obtain ⟨scale, significand, this, next, short, -⟩ := magnitudeUnits_succ rank
  rw [this, next, ← Nat.sub_mul, Nat.add_sub_cancel_left, Nat.one_mul]
  exact Nat.mul_le_mul_right _ short

/-- A step is no more than a part in `2 ^ 52` of the magnitude before it, if not one unit. -/
theorem magnitudeUnits_succ_sub_le (rank : Nat) :
    magnitudeUnits (rank + 1) - magnitudeUnits rank = 1 ∨
      2 ^ 52 * (magnitudeUnits (rank + 1) - magnitudeUnits rank) ≤ magnitudeUnits rank := by
  obtain ⟨scale, significand, this, next, -, full⟩ := magnitudeUnits_succ rank
  rw [this, next, ← Nat.sub_mul, Nat.add_sub_cancel_left, Nat.one_mul]
  rcases full with rfl | significant
  · exact .inl rfl
  · exact .inr (Nat.mul_le_mul_right _ significant)

/-! ### Whole numbers -/

/-- A whole number is rounded to a whole number of steps, each of them a part in `2 ^ 52` of it or
less, if not one. -/
theorem magnitudeUnits_nearestRank (n : Nat) :
    ∃ scale, (scale = 0 ∨ 2 ^ 52 * 2 ^ scale ≤ n) ∧
      magnitudeUnits (nearestRank n 1) = roundQuotient n (2 ^ scale) * 2 ^ scale := by
  refine ⟨n.log2 - 52, ?_⟩
  have rank : nearestRank n 1 = (n.log2 - 52) * 2 ^ 52 + roundQuotient n (2 ^ (n.log2 - 52)) := by
    unfold nearestRank
    simp only [Nat.div_one, Nat.one_mul]
    rfl
  rcases Nat.lt_or_ge n.log2 52 with small | large
  · have scale : n.log2 - 52 = 0 := by omega
    have exact : roundQuotient n 1 = n := by
      have whole := roundQuotient_mul n 1 (by decide)
      rwa [Nat.mul_one] at whole
    have low : n ≤ 2 ^ 53 := by
      have below := Nat.lt_log2_self (n := n)
      have power : 2 ^ (n.log2 + 1) ≤ 2 ^ 53 := Nat.pow_le_pow_right (by decide) (by omega)
      omega
    refine ⟨.inl scale, ?_⟩
    rw [rank, scale, Nat.pow_zero, exact]
    exact magnitudeUnits_of_binade (.inl rfl) low
  · have nonzero : n ≠ 0 := by
      rintro rfl
      simp at large
    obtain ⟨least, greatest⟩ := (Nat.log2_eq_iff nonzero).mp rfl
    have from52 : 2 ^ 52 * 2 ^ (n.log2 - 52) = 2 ^ n.log2 := by
      rw [← Nat.pow_add]
      congr 1
      omega
    have to53 : 2 ^ 53 * 2 ^ (n.log2 - 52) = 2 ^ (n.log2 + 1) := by
      rw [← Nat.pow_add]
      congr 1
      omega
    obtain ⟨significant, most⟩ := roundQuotient_mem_binade (Nat.two_pow_pos (n.log2 - 52))
      (from52 ▸ least) (to53 ▸ greatest)
    refine ⟨.inr (from52 ▸ least), ?_⟩
    rw [rank]
    exact magnitudeUnits_of_binade (.inr significant) most

/-- A whole number up to `2 ^ 53` is the magnitude at its rank. -/
theorem magnitudeUnits_of_le {n places : Nat} (small : n ≤ 2 ^ 53) (deep : 53 ≤ places) :
    magnitudeUnits (nearestRank (n * 2 ^ places) 1) = n * 2 ^ places := by
  obtain ⟨scale, step, value⟩ := magnitudeUnits_nearestRank (n * 2 ^ places)
  rw [value]
  have shallow : scale ≤ places + 1 := by
    rcases step with rfl | step
    · exact Nat.zero_le _
    · refine Nat.not_lt.mp fun beyond => ?_
      have least : 2 ^ 52 * 2 ^ (places + 2) ≤ 2 ^ 52 * 2 ^ scale :=
        Nat.mul_le_mul_left _ (Nat.pow_le_pow_right (by decide) beyond)
      have most : n * 2 ^ places ≤ 2 ^ 53 * 2 ^ places := Nat.mul_le_mul_right _ small
      have power : 2 ^ (places + 2) = 4 * 2 ^ places := by rw [Nat.pow_add, Nat.mul_comm]
      have positive : 0 < 2 ^ places := Nat.two_pow_pos places
      omega
  -- Only `2 ^ 53` itself is so large that a step is twice the unit.
  obtain ⟨steps, same⟩ : ∃ steps, n * 2 ^ places = steps * 2 ^ scale := by
    rcases Nat.lt_or_ge places scale with beyond | within
    · obtain rfl : scale = places + 1 := Nat.le_antisymm shallow beyond
      have reaches := step.resolve_left (by omega)
      have positive : 0 < 2 ^ places := Nat.two_pow_pos places
      rw [Nat.pow_succ] at reaches ⊢
      have top : n = 2 ^ 53 := by
        refine Nat.le_antisymm small (Nat.le_of_mul_le_mul_right ?_ positive)
        omega
      exact ⟨2 ^ 52, by rw [top]; omega⟩
    · refine ⟨n * 2 ^ (places - scale), ?_⟩
      rw [Nat.mul_assoc, ← Nat.pow_add]
      congr 2
      omega
  rw [same, roundQuotient_mul _ _ (Nat.two_pow_pos scale)]

/-! ### Signs -/

theorem magnitudeUnits_zero : magnitudeUnits 0 = 0 := by
  decide

theorem signed_not (negative : Bool) (magnitude : Nat) :
    signed (!negative) magnitude = -signed negative magnitude := by
  cases negative <;> simp [signed]

theorem natAbs_signed (negative : Bool) (magnitude : Nat) :
    (signed negative magnitude).natAbs = magnitude := by
  cases negative <;> simp [signed]

theorem signed_mul (negative : Bool) (magnitude factor : Nat) :
    signed negative (magnitude * factor) = signed negative magnitude * factor := by
  cases negative with
  | false => exact Int.natCast_mul magnitude factor
  | true => exact (congrArg Neg.neg (Int.natCast_mul magnitude factor)).trans (Int.neg_mul ..).symm

theorem signed_natAbs (n : Int) : signed (n < 0) n.natAbs = n := by
  unfold signed
  split
  next negative =>
    have negative : n < 0 := of_decide_eq_true negative
    omega
  next positive =>
    have positive : ¬n < 0 := fun negative => positive (decide_eq_true negative)
    omega

theorem signed_inj {negative : Bool} {m n : Nat} :
    signed negative m = signed negative n ↔ m = n := by
  refine ⟨fun same => ?_, congrArg _⟩
  rw [← natAbs_signed negative m, same, natAbs_signed]

theorem decide_signed_lt_zero {negative : Bool} {magnitude : ℕ} (positive : 0 < magnitude) :
    decide (signed negative magnitude < 0) = negative := by
  cases negative <;> simp [signed, positive]

end BlockData
