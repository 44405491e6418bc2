import DocBridge.Json.NumberText
import DocBridge.Proofs.Rounding

/-!
# Scaling by powers of ten

A number is read by scaling its significand, once rounded, by a power of ten, itself rounded.  The
two errors can lead beyond the range of doubles only just below its end: a significand of at most
seventeen digits is scaled within the range if it stays below the middle between the largest double
and the one before.
-/

namespace DocBridge.Number

open Binary64

/-! ## Powers of ten as doubles -/

/-- An integer at or below a double is rounded to one at or below it, and an integer at or above
a double to one at or above it. -/
theorem ofInt_spec {value : Nat} {y : Binary64} (h : value * y.ratio.2 ≤ y.ratio.1) :
    (Binary64.ofInt value).ratio.1 ≤ y.ratio.1 ∧
      ∀ w : Binary64, w.ratio.1 ≤ value * w.ratio.2 →
        w.ratio.1 ≤ (Binary64.ofInt value).ratio.1 := by
  exact (ofInt_spec_of_bound (n := (value : Int)) h).2

theorem pow_mul_le {exponent most parts bound : Nat} (h : exponent ≤ most)
    (hmost : 10 ^ most * parts ≤ bound) : 10 ^ exponent * parts ≤ bound :=
  Nat.le_trans (Nat.mul_le_mul_right _ (Nat.pow_le_pow_right (by decide) h)) hmost

theorem powerOfTen_eq (exponent : Nat) :
    powerOfTen exponent = Binary64.ofInt ((10 ^ exponent : Nat) : Int) := rfl

theorem largest_spec : 10 ^ 308 * (largest false).ratio.2 ≤ (largest false).ratio.1 := by
  decide +kernel

/-- Powers of ten are no smaller than one. -/
theorem one_le_powerOfTen {exponent : Nat} (h : exponent ≤ 308) :
    (powerOfTen exponent).ratio.2 ≤ (powerOfTen exponent).ratio.1 := by
  have hone : (⟨false, 1023, 0⟩ : Binary64).ratio.1 = (⟨false, 1023, 0⟩ : Binary64).ratio.2 := by
    decide +kernel
  have hlargest : 10 ^ exponent * (largest false).ratio.2 ≤ (largest false).ratio.1 :=
    pow_mul_le h largest_spec
  obtain ⟨-, hbelow⟩ := ofInt_spec hlargest
  rw [powerOfTen_eq, ratio_snd_eq _ ⟨false, 1023, 0⟩]
  generalize (⟨false, 1023, 0⟩ : Binary64) = one at *
  rw [← hone]
  refine hbelow one ?_
  rw [hone]
  exact Nat.le_mul_of_pos_left _ (Nat.pow_pos (by decide))

/-! ## Negative powers -/

/-- Division by what is no smaller than one leads to no larger double. -/
theorem exists_div? {x divisor : Binary64} (h : divisor.ratio.2 ≤ divisor.ratio.1) :
    ∃ quotient, x.div? divisor = some quotient := by
  have hdivisor : 0 < divisor.ratio.1 := Nat.lt_of_lt_of_le divisor.ratio_snd_pos h
  have hle : x.ratio.1 * divisor.ratio.2 * x.ratio.2 ≤
      x.ratio.1 * (x.ratio.2 * divisor.ratio.1) := by
    rw [Nat.mul_assoc, Nat.mul_comm divisor.ratio.2]
    exact Nat.mul_le_mul_left _ (Nat.mul_le_mul_left _ h)
  obtain ⟨quotient, hquotient, -⟩ := exists_ofRatio? (x.negative != divisor.negative)
    (Nat.mul_pos x.ratio_snd_pos hdivisor) hle
  exact ⟨quotient, hquotient⟩

theorem exists_shrink (x : Binary64) (count : Nat) : ∃ rest, shrink x count = some rest := by
  induction count generalizing x with
  | zero => exact ⟨x, by rw [shrink]⟩
  | succ count ih =>
    rw [shrink]
    split
    · exact ⟨x, rfl⟩
    · obtain ⟨quotient, hquotient⟩ := exists_div? (x := x) (one_le_powerOfTen (Nat.le_refl 308))
      rw [hquotient, Option.bind_some]
      exact ih quotient

/-- Scaling by a negative power of ten stays within the range. -/
theorem exists_scale_of_neg (x : Binary64) {exponent : Int} (h : exponent < 0) :
    ∃ scaled, scale x exponent = some scaled := by
  obtain ⟨rest, hrest⟩ := exists_shrink x ((exponent.natAbs - 1) / 308)
  rw [scale, if_neg (by omega)]
  simp only [hrest]
  exact exists_div? (one_le_powerOfTen (by omega))

/-! ## Other powers -/

theorem exists_mul? {x y : Binary64}
    (h : x.ratio.1 * y.ratio.1 ≤ (largest false).ratio.1 * y.ratio.2) :
    ∃ product, x.mul? y = some product := by
  have hle : x.ratio.1 * y.ratio.1 * (largest false).ratio.2 ≤
      (largest false).ratio.1 * (x.ratio.2 * y.ratio.2) := by
    rw [x.ratio_snd_eq (largest false), Nat.mul_comm (largest false).ratio.2, ← Nat.mul_assoc]
    exact Nat.mul_le_mul_right _ h
  obtain ⟨product, hproduct, -⟩ := exists_ofRatio? (x.negative != y.negative)
    (Nat.mul_pos x.ratio_snd_pos y.ratio_snd_pos) hle
  exact ⟨product, hproduct⟩

/-- Integers are scaled within the range up to one that is a double and whose product with the
power does not pass the largest double. -/
theorem exists_scale_of_bound {value bound exponent : Nat} (hexponent : exponent ≤ 308)
    (hexact : (Binary64.ofInt bound).ratio.1 = bound * (Binary64.ofInt bound).ratio.2)
    (hproduct : bound * (powerOfTen exponent).ratio.1 ≤ (largest false).ratio.1)
    (hvalue : value ≤ bound) : ∃ scaled, scale (.ofInt value) exponent = some scaled := by
  have hbelow : value * (Binary64.ofInt bound).ratio.2 ≤ (Binary64.ofInt bound).ratio.1 := by
    rw [hexact]
    exact Nat.mul_le_mul_right _ hvalue
  obtain ⟨hrounded, -⟩ := ofInt_spec hbelow
  rw [hexact] at hrounded
  have hlimit : (exponent : Int) ≤ 308 := by omega
  rw [scale, if_pos (Int.natCast_nonneg _), if_pos hlimit, Int.toNat_natCast]
  apply exists_mul?
  calc (Binary64.ofInt value).ratio.1 * (powerOfTen exponent).ratio.1
      ≤ bound * (Binary64.ofInt bound).ratio.2 * (powerOfTen exponent).ratio.1 :=
        Nat.mul_le_mul_right _ hrounded
    _ = bound * (powerOfTen exponent).ratio.1 * (powerOfTen exponent).ratio.2 := by
        rw [(powerOfTen exponent).ratio_snd_eq (Binary64.ofInt bound), Nat.mul_right_comm]
    _ ≤ _ := Nat.mul_le_mul_right _ hproduct

/-- The middle between the largest double and the one before. -/
def upperMiddle : Nat := (8 * fractionCount - 6) * 2 ^ 969

/-- The largest integer that a power of ten does not lead beyond the middle. -/
def mostBelowMiddle (exponent : Nat) : Nat := upperMiddle / 10 ^ exponent

/-- For the last powers of ten this integer is a double, and scaled it does not pass the largest
double. -/
theorem mostBelowMiddle_spec : ∀ offset < 17,
    (Binary64.ofInt (mostBelowMiddle (292 + offset))).ratio.1 =
        mostBelowMiddle (292 + offset) *
          (Binary64.ofInt (mostBelowMiddle (292 + offset))).ratio.2 ∧
      mostBelowMiddle (292 + offset) * (powerOfTen (292 + offset)).ratio.1 ≤
        (largest false).ratio.1 := by
  decide +kernel

/-- Seventeen digits scaled by the powers of ten before those stay far below the largest
double. -/
theorem seventeen_spec :
    (Binary64.ofInt (10 ^ 17 : Nat)).ratio.1 =
        10 ^ 17 * (Binary64.ofInt (10 ^ 17 : Nat)).ratio.2 ∧
      10 ^ 291 * (⟨false, 1990, 0⟩ : Binary64).ratio.2 ≤
        (⟨false, 1990, 0⟩ : Binary64).ratio.1 ∧
      10 ^ 17 * (⟨false, 1990, 0⟩ : Binary64).ratio.1 ≤ (largest false).ratio.1 := by
  decide +kernel

theorem exponent_le_of_le_upperMiddle {value exponent : Nat} (hpositive : 0 < value)
    (h : value * 10 ^ exponent ≤ upperMiddle) : exponent ≤ 308 := by
  have hbeyond : upperMiddle < 10 ^ 309 := by decide +kernel
  have hpower : 10 ^ exponent < 10 ^ 309 :=
    Nat.lt_of_le_of_lt (Nat.le_trans (Nat.le_mul_of_pos_left _ hpositive) h) hbeyond
  exact Nat.le_of_lt_succ ((Nat.pow_lt_pow_iff_right (by decide)).1 hpower)

/-- A significand of at most seventeen digits is scaled within the range if it stays below the
middle. -/
theorem exists_scale_of_le {value exponent : Nat} (hpositive : 0 < value)
    (hdigits : value ≤ 10 ^ 17) (h : value * 10 ^ exponent ≤ upperMiddle) :
    ∃ scaled, scale (.ofInt value) exponent = some scaled := by
  have hexponent := exponent_le_of_le_upperMiddle hpositive h
  -- Only the last powers lead seventeen digits near the end of the range.
  rcases Nat.lt_or_ge 291 exponent with hlast | hearlier
  · obtain ⟨offset, rfl⟩ := Nat.exists_eq_add_of_le (show 292 ≤ exponent from hlast)
    obtain ⟨hexact, hproduct⟩ := mostBelowMiddle_spec offset (by omega)
    exact exists_scale_of_bound hexponent hexact hproduct
      ((Nat.le_div_iff_mul_le (Nat.pow_pos (by decide))).2 h)
  · obtain ⟨hexact, hpower, hproduct⟩ := seventeen_spec
    refine exists_scale_of_bound hexponent hexact (Nat.le_trans ?_ hproduct) hdigits
    exact Nat.mul_le_mul_left _ (ofInt_spec (pow_mul_le hearlier hpower)).1

end DocBridge.Number
