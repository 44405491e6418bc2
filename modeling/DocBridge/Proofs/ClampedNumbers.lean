import DocBridge.Proofs.ToolArguments
import Mathlib.Data.Rat.Floor

/-!
# Numbers within 32 bits

A number that is given where 32 bits are wanted becomes a double, then an integer of 64 bits, and
then one of 32 bits.  The first step may round, and each of the others may fall back to the end of a
range.  What comes of it is still the exact value of the number without its fraction, or the end of
the range of 32 bits that is nearest to it: a double is exact as far as this range reaches, and what
lies beyond it stays beyond it.
-/

namespace DocBridge

/-! ## Exact values -/

/-- A rational number without its fraction. -/
def towardZero (q : ℚ) : ℤ := if 0 ≤ q then ⌊q⌋ else ⌈q⌉

theorem towardZero_intCast (n : ℤ) : towardZero n = n := by
  rw [towardZero, Int.floor_intCast, Int.ceil_intCast, ite_self]

theorem towardZero_neg (q : ℚ) : towardZero (-q) = -towardZero q := by
  rcases lt_trichotomy q 0 with hneg | rfl | hpos
  · rw [towardZero, towardZero, if_pos (neg_nonneg.2 hneg.le), if_neg (not_le.2 hneg),
      Int.floor_neg]
  · simp [towardZero]
  · rw [towardZero, towardZero, if_neg (not_le.2 (neg_neg_of_pos hpos)), if_pos hpos.le,
      Int.ceil_neg]

/-- Truncation keeps the order, also across zero. -/
theorem towardZero_mono {p q : ℚ} (h : p ≤ q) : towardZero p ≤ towardZero q := by
  rcases le_or_gt 0 p with hp | hp
  · have hq : 0 ≤ q := hp.trans h
    rw [towardZero, towardZero, if_pos hp, if_pos hq]
    exact Int.floor_mono h
  rcases le_or_gt 0 q with hq | hq
  · rw [towardZero, towardZero, if_neg (not_le.2 hp), if_pos hq]
    calc ⌈p⌉ ≤ 0 := Int.ceil_le.2 (by exact_mod_cast hp.le)
      _ ≤ ⌊q⌋ := Int.floor_nonneg.2 hq
  · rw [towardZero, towardZero, if_neg (not_le.2 hp), if_neg (not_le.2 hq)]
    exact Int.ceil_mono h

def Binary64.toRat (x : Binary64) : ℚ :=
  (if x.negative then -1 else 1) * x.significand * 2 ^ ((x.scale : ℤ) - 1074)

def Number.toRat : Number → ℚ
  | .integer n => n.value
  | .double x => x.toRat

/-! ## Doubles -/

namespace Binary64

/-- Doubles are counted in the parts that the fraction of their magnitude has below its bar. -/
theorem toRat_eq (x : Binary64) :
    x.toRat = (if x.negative then -1 else 1) * ((x.ratio.1 : ℚ) / (x.ratio.2 : ℚ)) := by
  have hpower (count : ℕ) : ((Nat.pow 2 count : ℕ) : ℚ) = 2 ^ count := by
    rw [Nat.pow_eq, Nat.cast_pow, Nat.cast_ofNat]
  have hscale : (2 : ℚ) ^ ((x.scale : ℤ) - 1074) = 2 ^ x.scale / 2 ^ 1074 := by
    rw [zpow_sub₀ two_ne_zero, zpow_natCast, zpow_ofNat]
  calc x.toRat = (if x.negative then -1 else 1) * (x.significand * 2 ^ x.scale / 2 ^ 1074) := by
        rw [toRat, hscale, mul_assoc, mul_div_assoc]
    _ = (if x.negative then -1 else 1) * ((x.ratio.1 : ℚ) / (x.ratio.2 : ℚ)) := by
        rw [ratio, Nat.cast_mul, hpower, hpower]

/-- A double is cut as its exact value is. -/
theorem truncate_eq (x : Binary64) : x.truncate = towardZero x.toRat := by
  have hmagnitude : towardZero ((x.ratio.1 : ℚ) / (x.ratio.2 : ℚ)) =
      ((x.ratio.1 / x.ratio.2 : ℕ) : ℤ) := by
    rw [towardZero, if_pos (by positivity), Rat.floor_natCast_div_natCast, Int.natCast_ediv]
  rw [toRat_eq, truncate]
  cases x.negative with
  | false => rw [if_neg Bool.false_ne_true, if_neg Bool.false_ne_true, one_mul, hmagnitude]
  | true => rw [if_pos rfl, if_pos rfl, neg_one_mul, towardZero_neg, hmagnitude]

end Binary64

namespace Arguments

/-! ## Integers -/

theorem clamp_mono {m n : ℤ} (low high : ℤ) (h : m ≤ n) : clamp low high m ≤ clamp low high n := by
  simp only [clamp]
  omega

/-- An integer is a double itself where the range of 32 bits reaches.  One beyond it may be rounded,
but it stays on its side of the range. -/
theorem clamp_truncate_ofInt {n : ℤ} (h : n.natAbs ≤ 0x10000000000000000) :
    clamp (-0x80000000) 0x7FFFFFFF (Binary64.ofInt n).truncate =
      clamp (-0x80000000) 0x7FFFFFFF n := by
  rcases le_total n.natAbs 0x20000000000000 with hsmall | hlarge
  · rw [Binary64.truncate_ofInt hsmall]
  · obtain ⟨hnegative, hratio⟩ := Binary64.ofInt_spec_of_ge hlarge h
    have hmagnitude :
        0x20000000000000 ≤ (Binary64.ofInt n).ratio.1 / (Binary64.ofInt n).ratio.2 :=
      (Nat.le_div_iff_mul_le (Binary64.ofInt n).ratio_snd_pos).2 hratio
    simp only [Binary64.truncate, hnegative, decide_eq_true_eq, clamp]
    split <;> omega

/-! ## Arguments -/

section Numbers

variable {arguments : Arguments} {name : String} {number : Number}

/-- Both kinds of number are read as their exact value, truncated and clamped. -/
theorem toInt_int32 (h : arguments.get? name = some (.number number)) :
    (arguments.int32 name).toInt =
      clamp (-0x80000000) 0x7FFFFFFF (towardZero number.toRat) := by
  have hread : arguments.int32 name = toInt32 (toInt64 number) := by
    rw [int32, int64, h]
    rfl
  rw [hread, toInt_toInt32_toInt64]
  cases number with
  | integer n =>
    have hrange := n.inRange
    rw [Number.toRat, towardZero_intCast]
    exact clamp_truncate_ofInt (by omega)
  | double x => exact congrArg _ x.truncate_eq

end Numbers

/-- Where 32 bits are wanted, an integer is brought into their range as it is, a double without the
fraction of its exact value, and a number that is no smaller than another gives no smaller
result. -/
theorem int32_clamps_exact_value :
    (∀ (arguments : Arguments) (name : String) (n : WideInt),
      arguments.get? name = some (.number (.integer n)) →
      (arguments.int32 name).toInt = max (-0x80000000) (min n.value 0x7FFFFFFF)) ∧
    (∀ (arguments : Arguments) (name : String) (x : Binary64),
      arguments.get? name = some (.number (.double x)) →
      (arguments.int32 name).toInt = max (-0x80000000) (min (towardZero x.toRat) 0x7FFFFFFF)) ∧
    ∀ (first second : Arguments) (name other : String) (least most : Number),
      first.get? name = some (.number least) → second.get? other = some (.number most) →
      least.toRat ≤ most.toRat → first.int32 name ≤ second.int32 other := by
  refine ⟨fun arguments name n h => ?_, fun arguments name x h => ?_, ?_⟩
  · rw [toInt_int32 h, Number.toRat, towardZero_intCast, clamp]
  · rw [toInt_int32 h, Number.toRat, clamp]
  · intro first second name other least most hfirst hsecond hle
    apply Int32.le_iff_toInt_le.2
    rw [toInt_int32 hfirst, toInt_int32 hsecond]
    exact clamp_mono _ _ (towardZero_mono hle)

/-- The greatest integer of 64 bits without a sign, which is rounded up as a double. -/
def greatest : WideInt := ⟨0xFFFFFFFFFFFFFFFF, by decide⟩

def minusFiveHalves : Binary64 := ⟨true, ⟨1024, by decide⟩, ⟨0x4000000000000, by decide⟩⟩

theorem toRat_minusFiveHalves : minusFiveHalves.toRat = -5 / 2 := by
  have hsignificand : minusFiveHalves.significand = 5 * 2 ^ 50 := by decide
  have hscale : minusFiveHalves.scale = 1023 := by decide
  have hnegative : minusFiveHalves.negative = true := rfl
  rw [Binary64.toRat, hsignificand, hscale, hnegative]
  norm_num

theorem greatest_and_minusFiveHalves_are_clamped :
    (int32 [("limit", .number (.integer greatest))] "limit").toInt =
      max (-0x80000000) (min 0xFFFFFFFFFFFFFFFF 0x7FFFFFFF) ∧
    (int32 [("limit", .number (.double minusFiveHalves))] "limit").toInt =
      max (-0x80000000) (min (towardZero (-5 / 2)) 0x7FFFFFFF) ∧
    int32 [("limit", .number (.double minusFiveHalves))] "limit" ≤
      int32 [("limit", .number (.integer greatest))] "limit" := by
  obtain ⟨hinteger, hdouble, hmono⟩ := int32_clamps_exact_value
  have hle : Number.toRat (.double minusFiveHalves) ≤ Number.toRat (.integer greatest) := by
    simp only [Number.toRat, toRat_minusFiveHalves, greatest]
    norm_num
  refine ⟨hinteger _ _ greatest rfl, ?_, hmono _ _ _ _ _ _ rfl rfl hle⟩
  rw [← toRat_minusFiveHalves]
  exact hdouble _ _ _ rfl

end Arguments

end DocBridge
