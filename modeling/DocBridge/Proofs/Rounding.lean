import DocBridge.Decimal.Binary64
import Mathlib.Algebra.Group.Nat.Defs

/-!
# Rounding to doubles

Rounding a fraction to the nearest double never passes a double: what lies at or below one is
rounded to one at or below it, and what lies at or above one to one at or above it.  So nothing
below the largest double is beyond the range of doubles, and integers of the bits of a significand
are doubles.
-/

namespace DocBridge.Binary64

/-! ## Rounding to integers -/

theorem le_roundHalfEven (numerator denominator : Nat) :
    numerator / denominator ≤ roundHalfEven numerator denominator := by
  simp only [roundHalfEven]
  split
  · exact Nat.le_refl _
  · split <;> omega

theorem roundHalfEven_le_succ (numerator denominator : Nat) :
    roundHalfEven numerator denominator ≤ numerator / denominator + 1 := by
  simp only [roundHalfEven]
  split
  · omega
  · split <;> omega

/-- What lies at or below an integer is rounded to one at or below it. -/
theorem roundHalfEven_le {numerator denominator bound : Nat} (hdenominator : 0 < denominator)
    (h : numerator ≤ bound * denominator) : roundHalfEven numerator denominator ≤ bound := by
  have hquotient : numerator / denominator ≤ bound :=
    Nat.div_le_of_le_mul (by rwa [Nat.mul_comm])
  rcases Nat.lt_or_eq_of_le hquotient with hlt | heq
  · exact Nat.le_trans (roundHalfEven_le_succ numerator denominator) hlt
  · -- The quotient is the bound, so that nothing remains.
    have hsplit := Nat.div_add_mod numerator denominator
    rw [heq, Nat.mul_comm] at hsplit
    have hrest : numerator % denominator = 0 := by omega
    simp only [roundHalfEven, hrest, Nat.mul_zero, if_pos hdenominator]
    exact hquotient

/-! ## Magnitudes -/

theorem ratio_fst (x : Binary64) : x.ratio.1 = x.significand * 2 ^ x.scale := rfl

theorem ratio_snd (x : Binary64) : x.ratio.2 = Nat.pow 2 1074 := by rw [ratio]

/-- All doubles are counted in the same parts. -/
theorem ratio_snd_eq (x y : Binary64) : x.ratio.2 = y.ratio.2 := rfl

theorem ratio_snd_pos (x : Binary64) : 0 < x.ratio.2 := by
  rw [ratio_snd]
  exact Nat.pow_pos (by decide)

theorem significand_pos {x : Binary64} (h : x.isZero = false) : 0 < x.significand := by
  simp only [isZero, Bool.and_eq_false_iff, beq_eq_false_iff_ne] at h
  simp only [significand]
  split <;> omega

theorem significand_lt (x : Binary64) : x.significand < 2 * fractionCount := by
  have hfraction := x.fraction.isLt
  simp only [significand]
  split <;> omega

theorem scale_le (x : Binary64) : x.scale ≤ 2045 := by
  have hexponent := x.exponent.isLt
  simp only [scale]
  omega

theorem ratio_fst_lt (x : Binary64) : x.ratio.1 < 2 * fractionCount * 2 ^ 2045 := by
  have hpower {bound : Nat} (h : x.scale ≤ bound) : 2 ^ x.scale ≤ 2 ^ bound :=
    Nat.pow_le_pow_right (by decide) h
  calc x.ratio.1 = x.significand * 2 ^ x.scale := x.ratio_fst
    _ < 2 * fractionCount * 2 ^ x.scale :=
        Nat.mul_lt_mul_of_pos_right x.significand_lt (Nat.two_pow_pos _)
    _ ≤ 2 * fractionCount * 2 ^ 2045 := Nat.mul_le_mul_left _ (hpower x.scale_le)

/-- The double of a bit pattern that is made of a scale and a significand, also where the
significand has been rounded up to the next power of two. -/
theorem ofMagnitudeBits?_eq_some (negative : Bool) {shift significand : Nat}
    (hsignificand : significand ≤ 2 * fractionCount)
    (hshift : shift = 0 ∨ fractionCount ≤ significand)
    (hrange : significand * 2 ^ shift < 2 * fractionCount * 2 ^ 2045) :
    ∃ z, ofMagnitudeBits? negative (shift * fractionCount + significand) = some z ∧
      z.ratio.1 = significand * 2 ^ shift := by
  have hdouble (bound : Nat) :
      2 * fractionCount * 2 ^ bound = fractionCount * 2 ^ (bound + 1) := by
    rw [Nat.pow_succ, Nat.mul_comm 2, Nat.mul_assoc, Nat.mul_comm 2]
  have hmost (hlarge : fractionCount ≤ significand) {bound : Nat}
      (hrange : significand * 2 ^ shift < 2 * fractionCount * 2 ^ bound) : shift ≤ bound := by
    have hpowers : fractionCount * 2 ^ shift < fractionCount * 2 ^ (bound + 1) :=
      hdouble bound ▸ Nat.lt_of_le_of_lt (Nat.mul_le_mul_right _ hlarge) hrange
    exact Nat.le_of_lt_succ
      ((Nat.pow_lt_pow_iff_right (by decide)).1 (Nat.lt_of_mul_lt_mul_left hpowers))
  rcases Nat.lt_or_ge significand fractionCount with hsmall | hlarge
  · obtain rfl : shift = 0 := hshift.resolve_right (Nat.not_le_of_gt hsmall)
    have hdiv : significand / fractionCount = 0 := Nat.div_eq_of_lt hsmall
    have hmod : significand % fractionCount = significand := Nat.mod_eq_of_lt hsmall
    have hlt : significand / fractionCount < 2047 := hdiv ▸ by decide
    rw [Nat.zero_mul, Nat.zero_add]
    exact ⟨_, dif_pos hlt, by simp [ratio_fst, Binary64.significand, scale, hdiv, hmod]⟩
  obtain ⟨rest, rfl⟩ := Nat.exists_eq_add_of_le hlarge
  have hmost := hmost hlarge hrange
  have hbits : shift * fractionCount + (fractionCount + rest) =
      (shift + 1) * fractionCount + rest := by
    rw [Nat.succ_mul, Nat.add_assoc]
  rcases Nat.lt_or_eq_of_le (show rest ≤ fractionCount by omega) with hlt | rfl
  · have hdiv : ((shift + 1) * fractionCount + rest) / fractionCount = shift + 1 := by
      rw [Nat.mul_comm, Nat.mul_add_div (by decide), Nat.div_eq_of_lt hlt, Nat.add_zero]
    have hmod : ((shift + 1) * fractionCount + rest) % fractionCount = rest := by
      rw [Nat.mul_comm, Nat.mul_add_mod, Nat.mod_eq_of_lt hlt]
    have hlt' : ((shift + 1) * fractionCount + rest) / fractionCount < 2047 := by omega
    rw [hbits]
    refine ⟨_, dif_pos hlt', ?_⟩
    simp only [ratio_fst, Binary64.significand, scale, hdiv, hmod, Nat.succ_ne_zero, if_false,
      Nat.add_sub_cancel]
  · -- The significand is the next power of two, which is the first one of the next scale.
    have hdiv : ((shift + 1) * fractionCount + fractionCount) / fractionCount = shift + 2 := by
      rw [← Nat.succ_mul, Nat.mul_div_cancel _ (by decide)]
    have hmod : ((shift + 1) * fractionCount + fractionCount) % fractionCount = 0 := by
      rw [← Nat.succ_mul, Nat.mul_mod_left]
    have hshift : shift ≠ 2045 := by
      rintro rfl
      rw [← Nat.two_mul] at hrange
      exact Nat.lt_irrefl _ hrange
    have hlt' : ((shift + 1) * fractionCount + fractionCount) / fractionCount < 2047 := by omega
    rw [hbits]
    refine ⟨_, dif_pos hlt', ?_⟩
    simp only [ratio_fst, Binary64.significand, scale, hdiv, hmod, Nat.succ_ne_zero, if_false,
      Nat.add_zero, Nat.add_one_sub_one]
    rw [← hdouble, Nat.two_mul]

/-! ## Rounding to doubles -/

/-- The scale that rounding chooses: the quotient has the bits of a significand, and no fewer
unless the scale is the least. -/
theorem exists_shift {raised denominator : Nat} (hraised : raised ≠ 0)
    (hdenominator : 0 < denominator) :
    let estimate := (raised.log2 - denominator.log2) - 53
    let shift := if raised / (denominator * 2 ^ estimate) < 2 * fractionCount then estimate
      else estimate + 1
    raised ≤ 2 * fractionCount * (denominator * 2 ^ shift) ∧
      (shift = 0 ∨ fractionCount * (denominator * 2 ^ shift) ≤ raised) := by
  intro estimate shift
  have hlow : 2 ^ raised.log2 ≤ raised := Nat.log2_self_le hraised
  have hhigh : raised < 2 ^ (raised.log2 + 1) := Nat.lt_log2_self
  have hlow' : 2 ^ denominator.log2 ≤ denominator :=
    Nat.log2_self_le (Nat.ne_of_gt hdenominator)
  have hhigh' : denominator < 2 ^ (denominator.log2 + 1) := Nat.lt_log2_self
  have hcount : fractionCount = 2 ^ 52 := rfl
  have hpositive : 0 < denominator * 2 ^ estimate :=
    Nat.mul_pos hdenominator (Nat.two_pow_pos _)
  by_cases hfits : raised / (denominator * 2 ^ estimate) < 2 * fractionCount
  · have hshift : shift = estimate := if_pos hfits
    rw [hshift]
    refine ⟨Nat.le_of_lt ((Nat.div_lt_iff_lt_mul hpositive).1 hfits), ?_⟩
    rcases Nat.eq_zero_or_pos estimate with hzero | hestimate
    · exact .inl hzero
    · right
      have hlogs : raised.log2 = 52 + (denominator.log2 + 1 + estimate) := by omega
      calc fractionCount * (denominator * 2 ^ estimate)
          ≤ fractionCount * (2 ^ (denominator.log2 + 1) * 2 ^ estimate) :=
            Nat.mul_le_mul_left _ (Nat.mul_le_mul_right _ (Nat.le_of_lt hhigh'))
        _ = 2 ^ raised.log2 := by rw [hlogs, hcount, Nat.pow_add 2 52, Nat.pow_add 2 _ estimate]
        _ ≤ raised := hlow
  · have hshift : shift = estimate + 1 := if_neg hfits
    have hdouble : fractionCount * (denominator * 2 ^ (estimate + 1)) =
        2 * fractionCount * (denominator * 2 ^ estimate) := by
      rw [Nat.pow_succ]
      simp only [Nat.mul_comm, Nat.mul_left_comm, Nat.mul_assoc]
    rw [hshift, Nat.mul_assoc 2, hdouble]
    constructor
    · have hlogs : raised.log2 + 1 ≤ 2 + 52 + (denominator.log2 + estimate) := by omega
      calc raised ≤ 2 ^ (raised.log2 + 1) := Nat.le_of_lt hhigh
        _ ≤ 2 ^ (2 + 52 + (denominator.log2 + estimate)) :=
            Nat.pow_le_pow_right (by decide) hlogs
        _ = 2 * (2 * fractionCount * (2 ^ denominator.log2 * 2 ^ estimate)) := by
            have hfour : 2 ^ (2 + 52) = 2 * (2 * fractionCount) := rfl
            rw [Nat.pow_add, Nat.pow_add 2 denominator.log2, hfour, Nat.mul_assoc 2]
        _ ≤ 2 * (2 * fractionCount * (denominator * 2 ^ estimate)) :=
            Nat.mul_le_mul_left _ (Nat.mul_le_mul_left _ (Nat.mul_le_mul_right _ hlow'))
    · exact .inr ((Nat.le_div_iff_mul_le hpositive).1 (Nat.le_of_not_lt hfits))

/-- A quotient of the bits of a significand, rounded, passes no double. -/
theorem exists_ofMagnitudeBits? (negative : Bool) {raised denominator shift : Nat}
    (hdenominator : 0 < denominator)
    (hfits : raised ≤ 2 * fractionCount * (denominator * 2 ^ shift))
    (hshift : shift = 0 ∨ fractionCount * (denominator * 2 ^ shift) ≤ raised) (y : Binary64)
    (h : raised ≤ y.ratio.1 * denominator) :
    ∃ z, ofMagnitudeBits? negative (shift * fractionCount +
        roundHalfEven raised (denominator * 2 ^ shift)) = some z ∧ z.ratio.1 ≤ y.ratio.1 ∧
      ∀ w : Binary64, w.ratio.1 * denominator ≤ raised → w.ratio.1 ≤ z.ratio.1 := by
  have hpositive : 0 < denominator * 2 ^ shift := Nat.mul_pos hdenominator (Nat.two_pow_pos _)
  -- A double of a smaller scale lies below the least quotient of this one; any other is a whole
  -- number of its units.
  have hsmaller (v : Binary64) (hscale : v.scale < shift) :
      v.ratio.1 < fractionCount * 2 ^ shift := by
    calc v.ratio.1 = v.significand * 2 ^ v.scale := v.ratio_fst
      _ < 2 * fractionCount * 2 ^ v.scale :=
          Nat.mul_lt_mul_of_pos_right v.significand_lt (Nat.two_pow_pos _)
      _ = fractionCount * 2 ^ (v.scale + 1) := by
          rw [Nat.pow_succ, Nat.mul_comm 2, Nat.mul_assoc, Nat.mul_comm 2]
      _ ≤ fractionCount * 2 ^ shift :=
          Nat.mul_le_mul_left _ (Nat.pow_le_pow_right (by decide) hscale)
  have hunits (v : Binary64) (hscale : shift ≤ v.scale) :
      ∃ units, v.ratio.1 = units * 2 ^ shift := by
    obtain ⟨more, hmore⟩ := Nat.exists_eq_add_of_le hscale
    refine ⟨v.significand * 2 ^ more, ?_⟩
    rw [ratio_fst, hmore, Nat.pow_add, Nat.mul_comm (2 ^ shift), Nat.mul_assoc]
  have hnormal : shift = 0 ∨
      fractionCount ≤ roundHalfEven raised (denominator * 2 ^ shift) := by
    refine hshift.imp_right fun hlarge => Nat.le_trans ?_ (le_roundHalfEven _ _)
    exact (Nat.le_div_iff_mul_le hpositive).2 hlarge
  have habove : roundHalfEven raised (denominator * 2 ^ shift) * 2 ^ shift ≤ y.ratio.1 := by
    rcases Nat.lt_or_ge y.scale shift with hscale | hscale
    · have hlarge := hshift.resolve_left (Nat.ne_of_gt (Nat.lt_of_le_of_lt (Nat.zero_le _) hscale))
      have hcontrary : fractionCount * 2 ^ shift * denominator ≤ y.ratio.1 * denominator := by
        rw [Nat.mul_assoc, Nat.mul_comm (2 ^ shift)]
        exact Nat.le_trans hlarge h
      exact absurd (Nat.le_of_mul_le_mul_right hcontrary hdenominator)
        (Nat.not_le_of_gt (hsmaller y hscale))
    · obtain ⟨units, hy⟩ := hunits y hscale
      rw [hy] at h ⊢
      refine Nat.mul_le_mul_right _ (roundHalfEven_le hpositive ?_)
      rwa [Nat.mul_comm denominator, ← Nat.mul_assoc]
  obtain ⟨z, hz, hratio⟩ := ofMagnitudeBits?_eq_some negative (roundHalfEven_le hpositive hfits)
    hnormal (Nat.lt_of_le_of_lt habove y.ratio_fst_lt)
  refine ⟨z, hz, hratio ▸ habove, fun w hw => ?_⟩
  rw [hratio]
  rcases Nat.lt_or_ge w.scale shift with hscale | hscale
  · have hlarge := hnormal.resolve_left (Nat.ne_of_gt (Nat.lt_of_le_of_lt (Nat.zero_le _) hscale))
    exact Nat.le_trans (Nat.le_of_lt (hsmaller w hscale)) (Nat.mul_le_mul_right _ hlarge)
  · obtain ⟨units, hunits⟩ := hunits w hscale
    rw [hunits] at hw ⊢
    refine Nat.mul_le_mul_right _ (Nat.le_trans ?_ (le_roundHalfEven _ _))
    rw [Nat.le_div_iff_mul_le hpositive, Nat.mul_comm denominator, ← Nat.mul_assoc]
    exact hw

/-- What lies at or below a double is rounded to one at or below it, and what lies at or above a
double to one at or above it. -/
theorem exists_ofRatio? (negative : Bool) {numerator denominator : Nat}
    (hdenominator : 0 < denominator) {y : Binary64}
    (h : numerator * y.ratio.2 ≤ y.ratio.1 * denominator) :
    ∃ z, ofRatio? negative numerator denominator = some z ∧ z.ratio.1 ≤ y.ratio.1 ∧
      ∀ w : Binary64, w.ratio.1 * denominator ≤ numerator * w.ratio.2 →
        w.ratio.1 ≤ z.ratio.1 := by
  by_cases hzero : numerator = 0
  · have hnothing : (zero negative).ratio.1 = 0 := by
      rw [ratio_fst, zero, Binary64.significand]
      simp
    refine ⟨zero negative, if_pos hzero, hnothing ▸ Nat.zero_le _, fun w hw => ?_⟩
    rw [hzero, Nat.zero_mul] at hw
    exact Nat.le_trans (Nat.le_mul_of_pos_right _ hdenominator)
      (Nat.le_trans hw (Nat.zero_le _))
  · have hraised : numerator * y.ratio.2 ≠ 0 :=
      Nat.mul_ne_zero hzero (Nat.ne_of_gt y.ratio_snd_pos)
    obtain ⟨hfits, hshift⟩ := exists_shift hraised hdenominator
    rw [ofRatio?, if_neg hzero, ← y.ratio_snd]
    exact exists_ofMagnitudeBits? negative hdenominator hfits hshift y h

/-! ## Integers -/

/-- An integer of the bits of a significand, counted in the parts of doubles. -/
theorem exists_significand {value : Nat} (h : value ≤ 2 * fractionCount) (power : Nat) :
    ∃ significand shift, significand ≤ 2 * fractionCount ∧
      (shift = 0 ∨ fractionCount ≤ significand) ∧ significand * 2 ^ shift = value * 2 ^ power := by
  induction power generalizing value with
  | zero => exact ⟨value, 0, h, .inl rfl, rfl⟩
  | succ power ih =>
    rcases Nat.lt_or_ge value fractionCount with hsmall | hlarge
    · have hdoubled : 2 * value ≤ 2 * fractionCount := by omega
      obtain ⟨significand, shift, hbound, hshift, hvalue⟩ := ih hdoubled
      refine ⟨significand, shift, hbound, hshift, ?_⟩
      rw [hvalue, Nat.pow_succ, Nat.mul_comm 2, Nat.mul_assoc, Nat.mul_comm 2]
    · exact ⟨value, power + 1, h, .inr hlarge, rfl⟩

theorem negative_of_ofMagnitudeBits? {negative : Bool} {bits : Nat} {z : Binary64}
    (h : ofMagnitudeBits? negative bits = some z) : z.negative = negative := by
  rw [ofMagnitudeBits?] at h
  split at h
  · rw [← Option.some.inj h]
  · cases h

theorem negative_of_ofRatio? {negative : Bool} {numerator denominator : Nat} {z : Binary64}
    (h : ofRatio? negative numerator denominator = some z) : z.negative = negative := by
  by_cases hzero : numerator = 0
  · rw [ofRatio?, if_pos hzero] at h
    rw [← Option.some.inj h, zero]
  · rw [ofRatio?, if_neg hzero] at h
    exact negative_of_ofMagnitudeBits? h

theorem exists_ratio_fst_eq {value power : Nat} (h : value ≤ 2 * fractionCount)
    (hpower : power < 2045) : ∃ y : Binary64, y.ratio.1 = value * Nat.pow 2 power := by
  obtain ⟨significand, shift, hbound, hshift, hvalue⟩ := exists_significand h power
  have hrange {bound : Nat} (hbound : power < bound) :
      significand * 2 ^ shift < 2 * fractionCount * 2 ^ bound :=
    calc significand * 2 ^ shift = value * 2 ^ power := hvalue
      _ ≤ 2 * fractionCount * 2 ^ power := Nat.mul_le_mul_right _ h
      _ < 2 * fractionCount * 2 ^ bound :=
          Nat.mul_lt_mul_of_pos_left (Nat.pow_lt_pow_right (by decide) hbound) (by decide)
  obtain ⟨y, -, hratio⟩ := ofMagnitudeBits?_eq_some false hbound hshift (hrange hpower)
  exact ⟨y, hratio.trans hvalue⟩

/-- An integer of the bits of a significand is a double, and so are its next multiples by powers of
two. -/
theorem exists_ratio_eq_mul_pow {value power : Nat} (h : value ≤ 2 * fractionCount)
    (hpower : power < 971) : ∃ y : Binary64, y.ratio.1 = value * Nat.pow 2 power * y.ratio.2 := by
  obtain ⟨y, hy⟩ := exists_ratio_fst_eq h (show power + 1074 < 2045 by omega)
  have hparts : Nat.pow 2 (power + 1074) = Nat.pow 2 power * Nat.pow 2 1074 :=
    Nat.pow_add 2 power 1074
  exact ⟨y, by rw [hy, ratio_snd, hparts, Nat.mul_assoc]⟩

/-- An integer that fits into the significand is a double exactly. -/
theorem exists_ratio_eq {value : Nat} (h : value ≤ 2 * fractionCount) :
    ∃ y : Binary64, y.ratio.1 = value * y.ratio.2 := by
  obtain ⟨y, hy⟩ := exists_ratio_eq_mul_pow h (show 0 < 971 by decide)
  exact ⟨y, hy.trans (by rw [Nat.pow_eq, Nat.pow_zero, Nat.mul_one])⟩

/-- An integer at or below a double is rounded to one at or below it, and an integer at or above
a double to one at or above it. -/
theorem ofInt_spec_of_bound {n : Int} {y : Binary64} (h : n.natAbs * y.ratio.2 ≤ y.ratio.1) :
    (ofInt n).negative = decide (n < 0) ∧ (ofInt n).ratio.1 ≤ y.ratio.1 ∧
      ∀ w : Binary64, w.ratio.1 ≤ n.natAbs * w.ratio.2 → w.ratio.1 ≤ (ofInt n).ratio.1 := by
  obtain ⟨z, hz, habove, hbelow⟩ := exists_ofRatio? (decide (n < 0)) Nat.one_pos
    (show n.natAbs * y.ratio.2 ≤ y.ratio.1 * 1 by rwa [Nat.mul_one])
  rw [ofInt, hz]
  exact ⟨negative_of_ofRatio? hz, habove, fun w hw => hbelow w (by rwa [Nat.mul_one])⟩

/-- An integer of the bits of a significand is rounded to itself. -/
theorem ofInt_spec_of_le {n : Int} (h : n.natAbs ≤ 2 * fractionCount) :
    (ofInt n).negative = decide (n < 0) ∧ (ofInt n).ratio.1 = n.natAbs * (ofInt n).ratio.2 := by
  obtain ⟨y, hy⟩ := exists_ratio_eq h
  obtain ⟨hnegative, habove, hbelow⟩ := ofInt_spec_of_bound (Nat.le_of_eq hy.symm)
  have hself := hbelow y (Nat.le_of_eq hy)
  exact ⟨hnegative, by rw [Nat.le_antisymm habove hself, hy, ratio_snd_eq]⟩

/-- Such an integer is not changed by going through a double. -/
theorem truncate_ofInt {n : Int} (h : n.natAbs ≤ 2 * fractionCount) : (ofInt n).truncate = n := by
  obtain ⟨hnegative, hratio⟩ := ofInt_spec_of_le h
  have hquotient : (ofInt n).ratio.1 / (ofInt n).ratio.2 = n.natAbs := by
    rw [hratio, Nat.mul_div_cancel _ (ofInt n).ratio_snd_pos]
  simp only [truncate, hquotient, hnegative, decide_eq_true_eq]
  split <;> omega

/-- An integer that is beyond the bits of a significand is rounded to one beyond them. -/
theorem ofInt_spec_of_ge {n : Int} (hlow : 2 * fractionCount ≤ n.natAbs)
    (hhigh : n.natAbs ≤ 0x10000000000000000) :
    (ofInt n).negative = decide (n < 0) ∧
      2 * fractionCount * (ofInt n).ratio.2 ≤ (ofInt n).ratio.1 := by
  obtain ⟨most, hmost⟩ := exists_ratio_eq_mul_pow (show 1 ≤ 2 * fractionCount by decide)
    (show 64 < 971 by decide)
  have hbound : n.natAbs * most.ratio.2 ≤ most.ratio.1 := by
    rw [hmost, Nat.one_mul]
    exact Nat.mul_le_mul_right _ hhigh
  obtain ⟨least, hleast⟩ := exists_ratio_eq (Nat.le_refl (2 * fractionCount))
  obtain ⟨hnegative, -, hbelow⟩ := ofInt_spec_of_bound hbound
  refine ⟨hnegative, ?_⟩
  rw [ratio_snd_eq _ least, ← hleast]
  apply hbelow
  rw [hleast]
  exact Nat.mul_le_mul_right _ hlow

end DocBridge.Binary64
