import DocBridge.Decimal.Shortest
import DocBridge.Proofs.Rounding

/-!
# Shortest decimals

Seventeen digits are enough for every double: the grid of decimals of seventeen digits is finer
than the interval of what rounds to the double.  So the search for a shortest decimal ends with a
grid that has a hit, and the decimal it gives lies in the interval.
-/

namespace DocBridge.Binary64

/-! ## The position of the decimal point -/

/-- What the bounds of an interval count: the parts that make up one. -/
def unitParts : Nat := Nat.pow 2 1076

theorem unitParts_eq : Nat.pow 2 1076 = unitParts := rfl

theorem unitParts_pos : 0 < unitParts := Nat.pow_pos (by decide)

def Below (value : Nat) (point : Int) : Prop :=
  value * 10 ^ (-point).toNat < 10 ^ point.toNat * unitParts

instance (value : Nat) (point : Int) : Decidable (Below value point) :=
  inferInstanceAs (Decidable (_ < _))

theorem Below.mono {value other : Nat} {point : Int} (h : Below value point)
    (hle : other ≤ value) : Below other point :=
  Nat.lt_of_le_of_lt (Nat.mul_le_mul_right _ hle) h

theorem pointFrom_succ (value : Nat) (start : Int) (fuel : Nat) :
    pointFrom value start (fuel + 1) =
      if Below value start then start else pointFrom value (start + 1) fuel := by
  by_cases hsign : 0 ≤ start
  · have hzero : (-start).toNat = 0 := by omega
    have hbelow : Below value start ↔ value < Nat.pow 10 start.toNat * Nat.pow 2 1076 := by
      rw [Below, hzero, Nat.pow_zero, Nat.mul_one]
      rfl
    simp only [pointFrom, if_pos hsign, hbelow]
  · have hzero : start.toNat = 0 := by omega
    have hbelow : Below value start ↔ value * Nat.pow 10 (-start).toNat < Nat.pow 2 1076 := by
      rw [Below, hzero, Nat.pow_zero, Nat.one_mul]
      rfl
    simp only [pointFrom, if_neg hsign, hbelow]

/-- The point that is found is the least one, if the search begins low enough and is long
enough. -/
theorem pointFrom_spec {value : Nat} {start : Int} {fuel : Nat}
    (hlow : ¬ Below value (start - 1)) (hhigh : Below value (start + fuel)) :
    ¬ Below value (pointFrom value start fuel - 1) ∧ Below value (pointFrom value start fuel) := by
  induction fuel generalizing start with
  | zero => exact ⟨hlow, by rwa [Int.natCast_zero, Int.add_zero] at hhigh⟩
  | succ fuel ih =>
    rw [pointFrom_succ]
    split
    · rename_i hbelow
      exact ⟨hlow, hbelow⟩
    · rename_i hbelow
      refine ih ?_ ?_
      · rwa [Int.add_sub_cancel]
      · have hsum : start + 1 + (fuel : Int) = start + (fuel + 1 : Nat) := by omega
        rwa [hsum]

/-- Where the search for the point begins. -/
def startOf (bits : Nat) : Int := (((bits : Int) - 1076) * 30102 - 100000) / 100000

/-- The search begins low enough and is long enough for all values of so many bits. -/
theorem startOf_spec : ∀ bits < 2100,
    ¬ Below (2 ^ bits) (startOf bits - 1) ∧ Below (2 ^ (bits + 1)) (startOf bits + 8) := by
  decide +kernel

theorem point_spec {value : Nat} (hpositive : 0 < value) (hbits : value.log2 < 2100) :
    ¬ Below value (pointFrom value (startOf value.log2) 8 - 1) ∧
      Below value (pointFrom value (startOf value.log2) 8) := by
  obtain ⟨hlow, hhigh⟩ := startOf_spec value.log2 hbits
  apply pointFrom_spec
  · exact fun hbelow => hlow (hbelow.mono (Nat.log2_self_le (Nat.ne_of_gt hpositive)))
  · exact hhigh.mono (Nat.le_of_lt Nat.lt_log2_self)

/-! ## Grids -/

theorem Interval.bounds_of_contains {bounds : Interval} {numerator denominator : Nat}
    (h : bounds.contains numerator denominator = true) :
    bounds.low * denominator ≤ numerator ∧ numerator ≤ bounds.high * denominator := by
  simp only [contains] at h
  split at h <;> simp only [Bool.and_eq_true, decide_eq_true_eq] at h <;> omega

theorem Interval.contains_of_lt {bounds : Interval} {numerator denominator : Nat}
    (hlow : bounds.low * denominator < numerator)
    (hhigh : numerator < bounds.high * denominator) :
    bounds.contains numerator denominator = true := by
  simp only [contains]
  split <;> simp only [Bool.and_eq_true, decide_eq_true_eq] <;> omega

/-- A grid, with the powers of ten on the sides where they are no fractions. -/
theorem gridHit_eq (bounds : Interval) (point : Int) (count : Nat) :
    gridHit bounds point count =
      let up := 10 ^ ((count : Int) - point).toNat
      let unit := 10 ^ (point - count).toNat * unitParts
      let floor := bounds.value * up / unit
      let low := bounds.contains (floor * unit) up
      let high := bounds.contains ((floor + 1) * unit) up
      if low && high then some (roundHalfEven (bounds.value * up) unit)
      else if low then some floor
      else if high then some (floor + 1)
      else none := by
  have hneg : -((count : Int) - point) = point - count := by omega
  by_cases hsign : 0 ≤ (count : Int) - point
  · have hzero : (point - count).toNat = 0 := by omega
    simp only [gridHit, if_pos hsign, hzero, unitParts_eq, Nat.pow_zero]
    rfl
  · have hzero : ((count : Int) - point).toNat = 0 := by omega
    simp only [gridHit, if_neg hsign, hzero, hneg, unitParts_eq, Nat.pow_zero]
    rfl

/-- A hit is one of the two neighbours of the value on its grid, and lies in the interval. -/
theorem gridHit_eq_some {bounds : Interval} {point : Int} {count number : Nat}
    (h : gridHit bounds point count = some number) :
    let up := 10 ^ ((count : Int) - point).toNat
    let unit := 10 ^ (point - count).toNat * unitParts
    number ≤ bounds.value * up / unit + 1 ∧
      bounds.low * up ≤ number * unit ∧ number * unit ≤ bounds.high * up := by
  intro up unit
  rw [gridHit_eq] at h
  change (if (bounds.contains (bounds.value * up / unit * unit) up &&
    bounds.contains ((bounds.value * up / unit + 1) * unit) up) = true then _ else _) = _ at h
  split at h
  · rename_i hboth
    obtain ⟨hbelow, habove⟩ := Bool.and_eq_true_iff.1 hboth
    obtain rfl := Option.some.inj h
    have hle := roundHalfEven_le_succ (bounds.value * up) unit
    have hge := le_roundHalfEven (bounds.value * up) unit
    exact ⟨hle,
      Nat.le_trans (Interval.bounds_of_contains hbelow).1 (Nat.mul_le_mul_right _ hge),
      Nat.le_trans (Nat.mul_le_mul_right _ hle) (Interval.bounds_of_contains habove).2⟩
  · split at h
    · rename_i hbelow
      obtain rfl := Option.some.inj h
      exact ⟨Nat.le_succ _, Interval.bounds_of_contains hbelow⟩
    · split at h
      · rename_i habove
        obtain rfl := Option.some.inj h
        exact ⟨Nat.le_refl _, Interval.bounds_of_contains habove⟩
      · cases h

/-- A grid that is finer than the interval has a hit. -/
theorem exists_gridHit {bounds : Interval} {point : Int} {count : Nat}
    (hlow : bounds.low < bounds.value) (hhigh : bounds.value < bounds.high)
    (hfine : 10 ^ (point - count).toNat * unitParts <
      (bounds.high - bounds.low) * 10 ^ ((count : Int) - point).toNat) :
    ∃ number, gridHit bounds point count = some number := by
  rw [gridHit_eq]
  have hup : 0 < 10 ^ ((count : Int) - point).toNat := Nat.pow_pos (by decide)
  have hunit : 0 < 10 ^ (point - count).toNat * unitParts :=
    Nat.mul_pos (Nat.pow_pos (by decide)) unitParts_pos
  generalize 10 ^ ((count : Int) - point).toNat = up at hfine hup ⊢
  generalize 10 ^ (point - count).toNat * unitParts = unit at hfine hunit ⊢
  have hbelow := Nat.mul_lt_mul_of_pos_right hlow hup
  have habove := Nat.mul_lt_mul_of_pos_right hhigh hup
  have hfloor : bounds.value * up / unit * unit ≤ bounds.value * up := Nat.div_mul_le_self _ _
  have hceil : bounds.value * up < (bounds.value * up / unit + 1) * unit :=
    Nat.lt_mul_of_div_lt (Nat.lt_succ_self _) hunit
  -- If both neighbours lay outside, the interval would lie between them.
  have hneighbour : bounds.low * up < bounds.value * up / unit * unit ∨
      (bounds.value * up / unit + 1) * unit < bounds.high * up := by
    rw [Nat.sub_mul] at hfine
    rw [Nat.succ_mul]
    omega
  rcases hneighbour with hinside | hinside
  · have hcontains := Interval.contains_of_lt hinside (Nat.lt_of_le_of_lt hfloor habove)
    simp only [hcontains, Bool.true_and, if_true]
    split <;> exact ⟨_, rfl⟩
  · have hcontains := Interval.contains_of_lt (Nat.lt_trans hbelow hceil) hinside
    simp only [hcontains, Bool.and_true, if_true]
    split
    · exact ⟨_, rfl⟩
    · exact ⟨_, rfl⟩

/-! ## Intervals -/

/-- The interval of a positive double is positive, holds its value, and is not too narrow for
seventeen digits. -/
theorem interval_spec {x : Binary64} (h : x.isZero = false) :
    0 < x.interval.low ∧ x.interval.low < x.interval.value ∧
      x.interval.value < x.interval.high ∧
        x.interval.value < 10 ^ 16 * (x.interval.high - x.interval.low) := by
  have hpositive := significand_pos h
  have hbound := x.significand_lt
  have hunit : 0 < Nat.pow 2 x.scale := Nat.pow_pos (by decide)
  have hleast := Nat.le_mul_of_pos_left (Nat.pow 2 x.scale) hpositive
  have hmost : x.significand * Nat.pow 2 x.scale < 9007199254740992 * Nat.pow 2 x.scale :=
    Nat.mul_lt_mul_of_pos_right hbound hunit
  have hpowerOfTwo (hnarrow : x.fraction.val = 0 ∧ 1 < x.exponent.val) :
      x.significand * Nat.pow 2 x.scale = 4503599627370496 * Nat.pow 2 x.scale := by
    rw [significand, if_neg (by omega), hnarrow.1, Nat.add_zero]
  simp only [interval]
  generalize x.significand * Nat.pow 2 x.scale = product at *
  generalize Nat.pow 2 x.scale = unit at *
  split
  · rename_i hnarrow
    have := hpowerOfTwo hnarrow
    omega
  · omega

theorem log2_value_lt {x : Binary64} (h : x.isZero = false) : x.interval.value.log2 < 2100 := by
  have hpositive : x.interval.value ≠ 0 :=
    Nat.ne_of_gt (Nat.lt_of_le_of_lt (Nat.zero_le _) (interval_spec h).2.1)
  have hbits {bits : Nat} (hbound : x.ratio.1 < 2 * fractionCount * 2 ^ bits) :
      x.interval.value.log2 < bits + 55 := by
    have hpower : 2 ^ (bits + 55) = 4 * (2 * fractionCount * 2 ^ bits) := by
      rw [Nat.pow_add, Nat.mul_comm, ← Nat.mul_assoc]
      rfl
    rw [Nat.log2_lt hpositive, hpower]
    exact Nat.mul_lt_mul_of_pos_left hbound (by decide)
  exact hbits x.ratio_fst_lt

/-- The search ends with a grid that has a hit, at the latest with that of seventeen digits. -/
theorem exists_shortestFrom {bounds : Interval} {point : Int} {last : Nat}
    (hlast : gridHit bounds point 17 = some last) {count fuel : Nat} (hfuel : count + fuel = 18)
    (hcount : count ≤ 17) :
    ∃ number found, shortestFrom bounds point count fuel = (number, found) ∧ found ≤ 17 ∧
      gridHit bounds point found = some number := by
  induction fuel generalizing count with
  | zero => omega
  | succ fuel ih =>
    rw [shortestFrom]
    cases hhit : gridHit bounds point count with
    | some number => exact ⟨number, count, rfl, hcount, hhit⟩
    | none =>
      have hne : count ≠ 17 := by
        rintro rfl
        rw [hlast] at hhit
        cases hhit
      exact ih (by omega) (by omega)

/-! ## The shortest decimal -/

/-- A value that is no smaller than the power of ten below the point lies on a grid of seventeen
digits that is finer than an interval wide enough for its value. -/
theorem fine_of_not_below {value width : Nat} {point : Int} (hvalue : ¬ Below value (point - 1))
    (hwidth : value < 10 ^ 16 * width) :
    10 ^ (point - (17 : Nat)).toNat * unitParts < width * 10 ^ ((17 : Nat) - point).toNat := by
  rw [Below, Nat.not_lt] at hvalue
  have hexponents : 10 ^ 16 * (10 ^ (point - (17 : Nat)).toNat * 10 ^ (-(point - 1)).toNat) =
      10 ^ ((17 : Nat) - point).toNat * 10 ^ (point - 1).toNat := by
    rw [← Nat.pow_add, ← Nat.pow_add, ← Nat.pow_add]
    congr 1
    omega
  have hup : 0 < 10 ^ ((17 : Nat) - point).toNat := Nat.pow_pos (by decide)
  have hrest : 0 < 10 ^ (-(point - 1)).toNat := Nat.pow_pos (by decide)
  generalize 10 ^ ((17 : Nat) - point).toNat = up at *
  generalize 10 ^ (point - (17 : Nat)).toNat = down at *
  generalize 10 ^ (-(point - 1)).toNat = rest at *
  generalize 10 ^ (point - 1).toNat = power at *
  generalize unitParts = parts at *
  refine Nat.lt_of_mul_lt_mul_left (a := 10 ^ 16 * rest) ?_
  calc 10 ^ 16 * rest * (down * parts)
      = 10 ^ 16 * (down * rest) * parts := by ac_rfl
    _ = up * (power * parts) := by rw [hexponents, Nat.mul_assoc]
    _ ≤ up * (value * rest) := Nat.mul_le_mul_left _ hvalue
    _ = up * rest * value := by ac_rfl
    _ < up * rest * (10 ^ 16 * width) :=
        Nat.mul_lt_mul_of_pos_left hwidth (Nat.mul_pos hup hrest)
    _ = 10 ^ 16 * rest * (width * up) := by ac_rfl

/-- On a grid of so many digits a value below the point has no more digits before it. -/
theorem quotient_lt_of_below {value : Nat} {point : Int} (hvalue : Below value point)
    (count : Nat) :
    value * 10 ^ ((count : Int) - point).toNat / (10 ^ (point - count).toNat * unitParts) <
      10 ^ count := by
  rw [Below] at hvalue
  have hexponents : 10 ^ point.toNat * 10 ^ ((count : Int) - point).toNat =
      10 ^ count * 10 ^ (point - count).toNat * 10 ^ (-point).toNat := by
    rw [← Nat.pow_add, ← Nat.pow_add, ← Nat.pow_add]
    congr 1
    omega
  have hup : 0 < 10 ^ ((count : Int) - point).toNat := Nat.pow_pos (by decide)
  apply Nat.div_lt_of_lt_mul
  generalize 10 ^ ((count : Int) - point).toNat = up at *
  generalize 10 ^ (point - count).toNat = down at *
  generalize 10 ^ (-point).toNat = rest at *
  generalize 10 ^ point.toNat = power at *
  generalize unitParts = parts at *
  refine Nat.lt_of_mul_lt_mul_left (a := rest) ?_
  calc rest * (value * up) = up * (value * rest) := by ac_rfl
    _ < up * (power * parts) := Nat.mul_lt_mul_of_pos_left hvalue hup
    _ = power * up * parts := by ac_rfl
    _ = rest * (down * parts * 10 ^ count) := by
        rw [hexponents]
        ac_rfl

/-- The shortest decimal of a positive double is a positive number of at most seventeen digits on a
grid, and lies in the interval. -/
theorem exists_shortest {x : Binary64} (h : x.isZero = false) :
    ∃ (number count : Nat) (point : Int), 0 < number ∧ number ≤ 10 ^ 17 ∧
      number * (10 ^ (point - count).toNat * unitParts) ≤
        x.interval.high * 10 ^ ((count : Int) - point).toNat ∧
      x.shortest = ⟨dropTrailingZeros (decimalDigits number),
        point + (((decimalDigits number).length : Int) - count)⟩ := by
  obtain ⟨hpositive, hlow, hhigh, hwidth⟩ := interval_spec h
  obtain ⟨hleast, hbelow⟩ := point_spec (Nat.lt_trans hpositive hlow) (log2_value_lt h)
  obtain ⟨last, hlast⟩ := exists_gridHit hlow hhigh (fine_of_not_below hleast hwidth)
  obtain ⟨number, count, hsearch, hcount, hhit⟩ :=
    exists_shortestFrom hlast (show 1 + 17 = 18 from rfl) (by decide)
  obtain ⟨hneighbour, hfrom, hto⟩ := gridHit_eq_some hhit
  refine ⟨number, count, pointFrom x.interval.value (startOf x.interval.value.log2) 8,
    ?_, ?_, hto, ?_⟩
  · have hproduct := Nat.lt_of_lt_of_le (Nat.mul_pos hpositive (Nat.pow_pos (by decide))) hfrom
    exact Nat.pos_of_mul_pos_right hproduct
  · calc number
        ≤ _ := hneighbour
      _ ≤ 10 ^ count := quotient_lt_of_below hbelow count
      _ ≤ 10 ^ 17 := Nat.pow_le_pow_right (by decide) hcount
  · have hsearch' : shortestFrom x.interval (pointFrom x.interval.value
        ((((x.interval.value.log2 : Int) - 1076) * 30102 - 100000) / 100000) 8) 1 17 =
        (number, count) := hsearch
    simp only [shortest, hsearch']
    rfl

end DocBridge.Binary64
