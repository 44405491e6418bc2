import DocBridge.Proofs.DecimalScaling
import DocBridge.Proofs.NumberParts

/-!
# Texts of doubles

The text of every double is read as a number, although numbers are read with two roundings where
they are written with none: what is written of the doubles below the largest lies below the middle
that scaling does not lead beyond the range, and the text of the largest is read by itself.
-/

namespace DocBridge.Number

/-! ## Digits -/

/-- Digits in the narrow sense: numbers below ten. -/
def AreDigits (digits : List Nat) : Prop := ∀ digit ∈ digits, digit < 10

theorem isDecimal_of_mem_chars {digits : List Nat} (h : AreDigits digits) :
    ∀ character ∈ Digits.chars digits, Digit.isDecimal character = true := by
  intro character hmem
  obtain ⟨digit, hdigit, rfl⟩ := List.mem_map.1 hmem
  exact (by decide : ∀ digit : Fin 10,
    Digit.isDecimal (Char.ofNat ('0'.toNat + digit.val)) = true) ⟨digit, h digit hdigit⟩

/-- Written digits stand for themselves. -/
theorem map_digitValue_chars {digits : List Nat} (h : AreDigits digits) :
    (Utf8.encode (Digits.chars digits)).map digitValue = digits := by
  have hsame : ∀ digit ∈ digits,
      (Char.ofNat ('0'.toNat + digit)).toNat - '0'.toNat = digit := fun digit hdigit =>
    (by decide : ∀ digit : Fin 10,
      (Char.ofNat ('0'.toNat + digit.val)).toNat - '0'.toNat = digit.val) ⟨digit, h digit hdigit⟩
  rw [map_digitValue_encode (isDecimal_of_mem_chars h), Digits.chars, List.map_map]
  exact (List.map_congr_left hsame).trans (List.map_id' digits)

theorem areDigits_replicate_zero (count : Nat) : AreDigits (List.replicate count 0) := by
  intro digit hdigit
  rw [List.eq_of_mem_replicate hdigit]
  decide

theorem AreDigits.append {first second : List Nat} (h : AreDigits first) (h' : AreDigits second) :
    AreDigits (first ++ second) :=
  List.forall_mem_append.2 ⟨h, h'⟩

/-- So many digits make a number below the power of ten. -/
theorem foldl_digits_lt {digits : List Nat} (h : AreDigits digits) (value : Nat) :
    digits.foldl (fun value digit => value * 10 + digit) value <
      (value + 1) * 10 ^ digits.length := by
  induction digits generalizing value with
  | nil => simp
  | cons digit rest ih =>
    have hdigit := h digit List.mem_cons_self
    have hrest := ih (fun other hother => h other (List.mem_cons_of_mem digit hother))
      (value * 10 + digit)
    refine Nat.lt_of_lt_of_le hrest ?_
    rw [List.length_cons, Nat.pow_succ', ← Nat.mul_assoc]
    exact Nat.mul_le_mul_right _ (by omega)

theorem ofDigits_lt {digits : List Nat} (h : AreDigits digits) :
    ofDigits digits < 10 ^ digits.length := by
  have hvalue := foldl_digits_lt h 0
  rwa [Nat.zero_add, Nat.one_mul] at hvalue

theorem ofDigits_append_zeros (digits : List Nat) (count : Nat) :
    ofDigits (digits ++ List.replicate count 0) = ofDigits digits * 10 ^ count := by
  induction count with
  | zero => simp
  | succ count ih =>
    rw [List.replicate_succ', ← List.append_assoc, ofDigits, List.foldl_append]
    change ofDigits (digits ++ List.replicate count 0) * 10 + 0 = _
    rw [ih, Nat.pow_succ, Nat.mul_assoc, Nat.add_zero]

/-! ## Significands -/

theorem Significand.fraction_of_fits {digits : List Nat} {value : Nat} (shift : Int)
    (h : digits.foldl (fun value digit => value * 10 + digit) value < UInt64.size) :
    Significand.fraction ⟨value, shift⟩ digits =
      ⟨digits.foldl (fun value digit => value * 10 + digit) value, shift - digits.length⟩ := by
  induction digits generalizing value shift with
  | nil => simp [fraction]
  | cons digit rest ih =>
    simp only [List.foldl_cons] at h ⊢
    have hfits : value * 10 + digit < UInt64.size :=
      Nat.lt_of_le_of_lt (le_foldl_digits rest _) h
    have hlength : shift - 1 - (rest.length : Int) = shift - ((rest.length + 1 : Nat) : Int) := by
      omega
    rw [fraction, if_pos hfits, ih (shift - 1) h, hlength, List.length_cons]

/-- Digits behind the point move the point to the left only. -/
theorem Significand.shift_fraction_le (taken : Significand) (digits : List Nat) :
    (taken.fraction digits).shift ≤ taken.shift := by
  induction digits generalizing taken with
  | nil => exact Int.le_refl _
  | cons digit rest ih =>
    rw [fraction]
    split
    · have hrest := ih ⟨taken.value * 10 + digit, taken.shift - 1⟩
      exact Int.le_trans hrest (Int.sub_le_self _ (by decide))
    · exact Int.le_refl _

/-! ## Values of parts -/

/-- What the parts of a decimal stand for is its significand, scaled. -/
theorem Parts.exists_value? {parts : Parts}
    (h : parts.fraction.isSome = true ∨ parts.exponent.isSome = true)
    (hscale : ∃ scaled, scale
      (.ofInt ((Significand.whole parts.whole).fraction (parts.fraction.getD [])).value)
      (((Significand.whole parts.whole).fraction (parts.fraction.getD [])).shift +
        parts.exponent.getD 0) = some scaled) : ∃ n, parts.value? = some n := by
  obtain ⟨scaled, hscaled⟩ := hscale
  have hdecimal : (parts.fraction.isNone && parts.exponent.isNone) = false := by
    rcases h with h | h <;> simp [Option.isNone_eq_false_iff.2 h]
  refine ⟨.double (scaled.withSign parts.negative), ?_⟩
  simp only [Parts.value?, Parts.value?.double, hdecimal, Bool.false_and, hscaled]
  split <;> rfl

/-- A decimal of few digits before the point and without an exponent is read. -/
theorem Parts.exists_value?_of_fraction (negative : Bool) {whole fraction : List Nat}
    (hwhole : AreDigits whole) (hlength : whole.length ≤ 16) (hfraction : AreDigits fraction)
    (hne : fraction ≠ []) :
    ∃ n, Parts.value? ⟨negative, whole, some fraction, none⟩ = some n := by
  obtain ⟨digit, rest, rfl⟩ := List.exists_cons_of_ne_nil hne
  have hdigit := hfraction digit List.mem_cons_self
  have hvalue : ofDigits whole < 10 ^ 16 :=
    Nat.lt_of_lt_of_le (ofDigits_lt hwhole) (Nat.pow_le_pow_right (by decide) hlength)
  have hsize : UInt64.size = 18446744073709551616 := rfl
  have htaken : Significand.whole whole = ⟨ofDigits whole, 0⟩ :=
    Significand.whole_of_fits (by omega)
  have hfits : ofDigits whole * 10 + digit < UInt64.size := by omega
  refine Parts.exists_value? (.inl rfl) (exists_scale_of_neg _ ?_)
  have hshift : (Significand.fraction ⟨ofDigits whole * 10 + digit, 0 - 1⟩ rest).shift ≤ -1 :=
    Significand.shift_fraction_le _ rest
  simp only [htaken, Option.getD_some, Option.getD_none, Significand.fraction, if_pos hfits]
  omega

/-- A decimal of at most seventeen digits with an exponent is read, if it stays below the
middle. -/
theorem Parts.exists_value?_of_exponent (negative : Bool) {digit : Nat} {rest : List Nat}
    {fraction : Option (List Nat)} (hfraction : fraction.getD [] = rest) (exponent : Int)
    (hpositive : 0 < ofDigits (digit :: rest)) (hdigits : ofDigits (digit :: rest) ≤ 10 ^ 17)
    (hscale : 0 ≤ exponent - rest.length →
      ofDigits (digit :: rest) * 10 ^ (exponent - rest.length).toNat ≤ upperMiddle) :
    ∃ n, Parts.value? ⟨negative, [digit], fraction, some exponent⟩ = some n := by
  have hsize : UInt64.size = 18446744073709551616 := rfl
  have hvalue : ofDigits (digit :: rest) =
      rest.foldl (fun value digit => value * 10 + digit) (ofDigits [digit]) := rfl
  have hfits : rest.foldl (fun value digit => value * 10 + digit) (ofDigits [digit]) <
      UInt64.size := by omega
  have htaken : Significand.whole [digit] = ⟨ofDigits [digit], 0⟩ :=
    Significand.whole_of_fits (Nat.lt_of_le_of_lt (le_foldl_digits rest _) hfits)
  refine Parts.exists_value? (.inr rfl) ?_
  simp only [htaken, hfraction, Significand.fraction_of_fits 0 hfits, Option.getD_some, ← hvalue]
  have hshift : 0 - (rest.length : Int) + exponent = exponent - rest.length := by omega
  rw [hshift]
  by_cases hnonneg : 0 ≤ exponent - rest.length
  · obtain ⟨power, hpower⟩ := Int.eq_ofNat_of_zero_le hnonneg
    have hscale := hscale hnonneg
    rw [hpower] at hscale ⊢
    exact exists_scale_of_le hpositive hdigits hscale
  · exact exists_scale_of_neg _ (Int.not_le.1 hnonneg)

/-! ## Layouts -/

theorem chars_replicate_zero (count : Nat) :
    Digits.chars (List.replicate count 0) = List.replicate count '0' := by
  rw [Digits.chars, List.map_replicate]
  rfl

theorem chars_append (first second : List Nat) :
    Digits.chars (first ++ second) = Digits.chars first ++ Digits.chars second :=
  List.map_append

theorem chars_ne_nil {digits : List Nat} (h : digits ≠ []) : Digits.chars digits ≠ [] := by
  simpa [Digits.chars] using h

def signBytes (negative : Bool) : Bytes := if negative then [0x2D] else []

/-- Digits, a point and digits are read. -/
theorem exists_ofText?_of_fraction (negative : Bool) {whole fraction : List Nat}
    (hwhole : AreDigits whole) (hne : whole ≠ []) (hlength : whole.length ≤ 16)
    (hfraction : AreDigits fraction) (hne' : fraction ≠ []) :
    ∃ n, ofText? (signBytes negative ++
      Utf8.encode (Digits.chars whole ++ '.' :: Digits.chars fraction)) = some n := by
  have hparts := Parts.ofText_append negative (Utf8.encode_ne_nil (chars_ne_nil hne))
    (isDecimalByte_of_mem_encode (isDecimal_of_mem_chars hwhole))
    (show ∀ digits, some (Utf8.encode (Digits.chars fraction)) = some digits → _ by
      rintro _ ⟨rfl⟩
      exact isDecimalByte_of_mem_encode (isDecimal_of_mem_chars hfraction)) (.inl rfl)
  have htext : Utf8.encode (Digits.chars whole ++ '.' :: Digits.chars fraction) =
      Utf8.encode (Digits.chars whole) ++
        (((some (Utf8.encode (Digits.chars fraction))).elim [] fun digits => 0x2E :: digits) ++
          []) := by
    rw [Utf8.encode_append, Utf8.encode_cons, List.append_nil]
    rfl
  rw [Option.map_some, map_digitValue_chars hwhole, map_digitValue_chars hfraction] at hparts
  rw [ofText?, htext, signBytes, hparts]
  exact Parts.exists_value?_of_fraction negative hwhole hlength hfraction hne'

/-- A written exponent is read as itself. -/
theorem exponentOf_encode (exponent : Int) :
    exponentOf (Utf8.encode ((if exponent < 0 then '-' else '+') ::
      Nat.toDigits 10 exponent.natAbs)) = exponent := by
  rw [Utf8.encode_cons]
  split
  · change -(ofDigits ((Utf8.encode (Nat.toDigits 10 exponent.natAbs)).map digitValue) : Int) = _
    rw [ofDigits_encode_toDigits]
    omega
  · change (ofDigits ((Utf8.encode (Nat.toDigits 10 exponent.natAbs)).map digitValue) : Int) = _
    rw [ofDigits_encode_toDigits]
    omega

/-- One digit, perhaps a point and digits, and an exponent are read, if the number has at most
seventeen digits and stays below the middle. -/
theorem exists_ofText?_of_exponent (negative : Bool) {digit : Nat} {rest : List Nat}
    (hdigits : AreDigits (digit :: rest)) (exponent : Int)
    (hpositive : 0 < ofDigits (digit :: rest)) (hfew : ofDigits (digit :: rest) ≤ 10 ^ 17)
    (hscale : 0 ≤ exponent - rest.length →
      ofDigits (digit :: rest) * 10 ^ (exponent - rest.length).toNat ≤ upperMiddle) :
    ∃ n, ofText? (signBytes negative ++ Utf8.encode
      ((if rest = [] then Digits.chars [digit]
          else Digits.chars [digit] ++ '.' :: Digits.chars rest) ++
        'e' :: (if exponent < 0 then '-' else '+') :: Nat.toDigits 10 exponent.natAbs)) =
          some n := by
  have hdigit : AreDigits [digit] :=
    List.forall_mem_singleton.2 (hdigits digit List.mem_cons_self)
  have hrest : AreDigits rest := fun other hother => hdigits other (List.mem_cons_of_mem _ hother)
  have hexponent : Utf8.encode ('e' :: (if exponent < 0 then '-' else '+') ::
      Nat.toDigits 10 exponent.natAbs) = 0x65 :: Utf8.encode
        ((if exponent < 0 then '-' else '+') :: Nat.toDigits 10 exponent.natAbs) := by
    rw [Utf8.encode_cons]
    rfl
  have hparts (fraction : Option Bytes)
      (hfraction : ∀ digits, fraction = some digits →
        ∀ byte ∈ digits, Digit.isDecimalByte byte = true) :=
    Parts.ofText_append negative (Utf8.encode_ne_nil (chars_ne_nil (List.cons_ne_nil digit [])))
      (isDecimalByte_of_mem_encode (isDecimal_of_mem_chars hdigit)) hfraction
      (.inr ⟨Utf8.encode ((if exponent < 0 then '-' else '+') ::
        Nat.toDigits 10 exponent.natAbs), rfl⟩)
  simp only [map_digitValue_chars hdigit, List.isEmpty_cons, Bool.false_eq_true, if_false,
    List.drop_succ_cons, List.drop_zero, exponentOf_encode] at hparts
  by_cases hnil : rest = []
  · have htext := hparts none nofun
    subst hnil
    rw [if_pos rfl, Utf8.encode_append, hexponent, ofText?, signBytes]
    rw [Option.elim_none, List.nil_append] at htext
    rw [htext]
    exact Parts.exists_value?_of_exponent negative rfl exponent hpositive hfew hscale
  · have htext := hparts (some (Utf8.encode (Digits.chars rest))) (by
      rintro _ ⟨rfl⟩
      exact isDecimalByte_of_mem_encode (isDecimal_of_mem_chars hrest))
    have hmantissa : Utf8.encode (Digits.chars [digit] ++ '.' :: Digits.chars rest) =
        Utf8.encode (Digits.chars [digit]) ++ 0x2E :: Utf8.encode (Digits.chars rest) := by
      rw [Utf8.encode_append, Utf8.encode_cons]
      rfl
    rw [if_neg hnil, Utf8.encode_append, hexponent, hmantissa, List.append_assoc, ofText?,
      signBytes]
    rw [Option.elim_some, Option.map_some, map_digitValue_chars hrest] at htext
    rw [htext]
    exact Parts.exists_value?_of_exponent negative rfl exponent hpositive hfew hscale

/-- Layouts of at most seventeen digits are read, if the decimal stays below the middle. -/
theorem exists_ofText?_layout (negative : Bool) {digits : List Nat} {point : Int}
    (hdigits : AreDigits digits) (hne : digits ≠ []) (hpositive : 0 < ofDigits digits)
    (hfew : ofDigits digits ≤ 10 ^ 17)
    (hscale : 0 ≤ point - digits.length →
      ofDigits digits * 10 ^ (point - digits.length).toNat ≤ upperMiddle) :
    ∃ n, ofText? (signBytes negative ++ Utf8.encode (Digits.layout ⟨digits, point⟩)) =
      some n := by
  have hlength : (Digits.chars digits).length = digits.length := List.length_map _
  simp only [Digits.layout, hlength]
  split
  · rename_i hpoint
    simp only [Bool.and_eq_true, decide_eq_true_eq] at hpoint
    split
    · have hzeros : Digits.chars digits ++ List.replicate (point - digits.length).toNat '0' ++
          ['.', '0'] = Digits.chars (digits ++ List.replicate (point - digits.length).toNat 0) ++
            '.' :: Digits.chars [0] := by
        rw [chars_append, chars_replicate_zero]
        rfl
      rw [hzeros]
      refine exists_ofText?_of_fraction negative (hdigits.append (areDigits_replicate_zero _))
        (List.append_ne_nil_of_left_ne_nil hne _) ?_ (areDigits_replicate_zero 1) (by simp)
      rw [List.length_append, List.length_replicate]
      omega
    · have hsplit : (Digits.chars digits).take point.toNat ++
          '.' :: (Digits.chars digits).drop point.toNat =
            Digits.chars (digits.take point.toNat) ++
              '.' :: Digits.chars (digits.drop point.toNat) := by
        rw [Digits.chars, Digits.chars, Digits.chars, List.map_take, List.map_drop]
      rw [hsplit]
      refine exists_ofText?_of_fraction negative
        (fun digit hdigit => hdigits digit (List.mem_of_mem_take hdigit)) ?_ ?_
        (fun digit hdigit => hdigits digit (List.mem_of_mem_drop hdigit)) ?_
      · rw [ne_eq, List.take_eq_nil_iff, or_iff_left hne]
        omega
      · rw [List.length_take]
        omega
      · rw [ne_eq, List.drop_eq_nil_iff]
        omega
  · split
    · have hzeros : '0' :: '.' :: List.replicate (-point).toNat '0' ++ Digits.chars digits =
          Digits.chars [0] ++
            '.' :: Digits.chars (List.replicate (-point).toNat 0 ++ digits) := by
        rw [chars_append, chars_replicate_zero]
        rfl
      rw [hzeros]
      exact exists_ofText?_of_fraction negative (areDigits_replicate_zero 1) (by simp) (by simp)
        ((areDigits_replicate_zero _).append hdigits) (List.append_ne_nil_of_right_ne_nil _ hne)
    · obtain ⟨digit, rest, rfl⟩ := List.exists_cons_of_ne_nil hne
      have hlast : point - ((digit :: rest).length : Int) = point - 1 - rest.length := by
        rw [List.length_cons]
        omega
      rw [hlast] at hscale
      have hexponent := exists_ofText?_of_exponent negative hdigits (point - 1) hpositive hfew
        hscale
      cases rest with
      | nil => exact hexponent
      | cons next others => exact hexponent

/-! ## Shortest decimals -/

theorem areDigits_decimalDigits (n : Nat) : AreDigits (Binary64.decimalDigits n) := by
  intro digit hdigit
  obtain ⟨character, hcharacter, rfl⟩ := List.mem_map.1 hdigit
  have hbounds := Digit.isDecimal_iff.1
    (Json.Outline.NumberPlace.isDecimal_of_mem_toDigits hcharacter)
  change character.toNat - 0x30 < 10
  omega

/-- What is dropped from digits are zeros. -/
theorem exists_dropTrailingZeros (digits : List Nat) :
    ∃ count, digits = Binary64.dropTrailingZeros digits ++ List.replicate count 0 := by
  refine ⟨(digits.reverse.takeWhile (· == 0)).length, ?_⟩
  have hzeros : digits.reverse.takeWhile (· == 0) =
      List.replicate (digits.reverse.takeWhile (· == 0)).length 0 := by
    refine List.eq_replicate_of_mem fun digit hdigit => ?_
    simpa using List.mem_takeWhile_imp hdigit
  have hsplit := congrArg List.reverse (List.takeWhile_append_dropWhile (p := (· == 0))
    (l := digits.reverse))
  rw [List.reverse_append, List.reverse_reverse, hzeros, List.reverse_replicate] at hsplit
  exact hsplit.symm

theorem eq_largest {x : Binary64} (hexponent : x.exponent.val = 2046)
    (hfraction : x.fraction.val = Binary64.fractionCount - 1) :
    x = Binary64.largest x.negative := by
  obtain ⟨negative, exponent, fraction⟩ := x
  rw [Binary64.largest, Binary64.mk.injEq]
  exact ⟨rfl, Fin.ext hexponent, Fin.ext hfraction⟩

theorem upperMiddle_mul_unitParts :
    upperMiddle * Binary64.unitParts = (8 * Binary64.fractionCount - 6) * 2 ^ 2045 := by
  have hpowers (first second : Nat) :
      (8 * Binary64.fractionCount - 6) * 2 ^ first * Nat.pow 2 second =
        (8 * Binary64.fractionCount - 6) * 2 ^ (first + second) := by
    rw [Nat.pow_add, Nat.mul_assoc]
    rfl
  rw [upperMiddle, Binary64.unitParts, hpowers]

/-- What rounds to a double below the largest lies below the middle. -/
theorem high_interval_le {x : Binary64} (h : x ≠ Binary64.largest x.negative) :
    x.interval.high ≤ upperMiddle * Binary64.unitParts := by
  have hcount : Binary64.fractionCount = 4503599627370496 := rfl
  have hsignificand := x.significand_lt
  have hlast (hscale : x.scale = 2045) :
      4 * x.significand + 2 ≤ 8 * Binary64.fractionCount - 6 := by
    have hexponent : x.exponent.val = 2046 := by
      rw [Binary64.scale] at hscale
      omega
    have hfraction : x.fraction.val ≠ Binary64.fractionCount - 1 :=
      fun hfraction => h (eq_largest hexponent hfraction)
    have hless := x.fraction.isLt
    rw [Binary64.significand, if_neg (by omega)]
    omega
  have hbound {power : Nat} (hscale : x.scale ≤ power)
      (hlast : x.scale = power → 4 * x.significand + 2 ≤ 8 * Binary64.fractionCount - 6) :
      (4 * x.significand + 2) * 2 ^ x.scale ≤ (8 * Binary64.fractionCount - 6) * 2 ^ power := by
    rcases Nat.lt_or_eq_of_le hscale with hlt | heq
    · calc (4 * x.significand + 2) * 2 ^ x.scale
          ≤ (8 * Binary64.fractionCount - 6) * 2 * 2 ^ x.scale :=
            Nat.mul_le_mul_right _ (by omega)
        _ = (8 * Binary64.fractionCount - 6) * 2 ^ (x.scale + 1) := by
            rw [Nat.pow_succ', Nat.mul_assoc]
        _ ≤ (8 * Binary64.fractionCount - 6) * 2 ^ power :=
            Nat.mul_le_mul_left _ (Nat.pow_le_pow_right (by decide) hlt)
    · rw [heq]
      exact Nat.mul_le_mul_right _ (hlast heq)
  have hhigh : x.interval.high = (4 * x.significand + 2) * 2 ^ x.scale := by
    rw [Nat.add_mul, Nat.mul_assoc]
    rfl
  rw [hhigh, upperMiddle_mul_unitParts]
  exact hbound x.scale_le hlast

/-- What is left of the digits of a number on a grid, scaled back, is no larger than the number. -/
theorem scaled_le {kept dropped count high parts limit : Nat} {point : Int} (hparts : 0 < parts)
    (hinside : kept * 10 ^ dropped * (10 ^ (point - count).toNat * parts) ≤
      high * 10 ^ ((count : Int) - point).toNat)
    (hhigh : high ≤ limit * parts) (hnonneg : 0 ≤ point - count + dropped) :
    kept * 10 ^ (point - count + dropped).toNat ≤ limit := by
  have hexponents : 10 ^ (point - count + dropped).toNat * 10 ^ ((count : Int) - point).toNat =
      10 ^ dropped * 10 ^ (point - count).toNat := by
    rw [← Nat.pow_add, ← Nat.pow_add]
    congr 1
    omega
  have hup : 0 < 10 ^ ((count : Int) - point).toNat := Nat.pow_pos (by decide)
  generalize 10 ^ ((count : Int) - point).toNat = up at *
  generalize 10 ^ (point - count).toNat = down at *
  generalize 10 ^ (point - count + dropped).toNat = power at *
  refine Nat.le_of_mul_le_mul_right ?_ (Nat.mul_pos hup hparts)
  calc kept * power * (up * parts) = kept * (power * up) * parts := by ac_rfl
    _ = kept * 10 ^ dropped * (down * parts) := by
        rw [hexponents]
        ac_rfl
    _ ≤ limit * parts * up := Nat.le_trans hinside (Nat.mul_le_mul_right _ hhigh)
    _ = limit * (up * parts) := by ac_rfl

/-- The shortest decimals of the positive doubles below the largest are read. -/
theorem exists_ofText?_shortest {x : Binary64} (hzero : x.isZero = false)
    (h : x ≠ Binary64.largest x.negative) :
    ∃ n, ofText? (signBytes x.negative ++ Utf8.encode x.shortest.layout) = some n := by
  obtain ⟨number, count, point, hpositive, hfew, hinside, hshortest⟩ :=
    Binary64.exists_shortest hzero
  obtain ⟨dropped, hdropped⟩ := exists_dropTrailingZeros (Binary64.decimalDigits number)
  have hkept := Json.Outline.NumberPlace.dropTrailingZeros_ne_nil hpositive
  have hareDigits := areDigits_decimalDigits number
  have hnumber := ofDigits_decimalDigits number
  rw [hshortest]
  generalize Binary64.dropTrailingZeros (Binary64.decimalDigits number) = digits at *
  rw [hdropped] at hareDigits hnumber ⊢
  rw [ofDigits_append_zeros] at hnumber
  rw [← hnumber] at hpositive hfew hinside
  have hpower : 0 < 10 ^ dropped := Nat.pow_pos (by decide)
  refine exists_ofText?_layout x.negative
    (fun digit hdigit => hareDigits digit (List.mem_append_left _ hdigit)) hkept ?_ ?_ ?_
  · exact Nat.pos_of_mul_pos_right hpositive
  · exact Nat.le_trans (Nat.le_mul_of_pos_right _ hpower) hfew
  · -- The zeros that were dropped are made up for by the exponent.
    intro hnonneg
    have hexponent : point + (((digits ++ List.replicate dropped 0).length : Int) - count) -
        digits.length = point - count + dropped := by
      rw [List.length_append, List.length_replicate]
      omega
    rw [hexponent] at hnonneg ⊢
    exact scaled_le Binary64.unitParts_pos hinside (high_interval_le h) hnonneg

/-! ## Doubles -/

/-- The text of the largest double is read. -/
theorem exists_ofText?_largest : ∀ negative,
    (ofText? (Utf8.encode (Binary64.largest negative).text)).isSome = true := by
  decide +kernel

/-- The text of every double is read as a number. -/
theorem exists_ofText?_double (x : Binary64) :
    ∃ n, ofText? (Utf8.encode (Number.double x).text) = some n := by
  have hsign (text : List Char) :
      Utf8.encode (if x.negative then '-' :: text else text) =
        signBytes x.negative ++ Utf8.encode text := by
    cases x.negative <;> rfl
  by_cases hlargest : x = Binary64.largest x.negative
  · have hread := exists_ofText?_largest x.negative
    rw [← hlargest] at hread
    exact Option.isSome_iff_exists.1 hread
  · rw [Number.text, Binary64.text, hsign]
    cases hzero : x.isZero with
    | true =>
      have hdigits : ['0', '.', '0'] = Digits.chars [0] ++ '.' :: Digits.chars [0] := rfl
      have hareDigits : AreDigits [0] := areDigits_replicate_zero 1
      rw [if_pos rfl, hdigits]
      exact exists_ofText?_of_fraction x.negative hareDigits (by simp) (by simp) hareDigits
        (by simp)
    | false =>
      rw [if_neg Bool.false_ne_true]
      exact exists_ofText?_shortest hzero hlargest

/-- The text of every number is read as a number. -/
theorem exists_ofText? (n : Number) : ∃ again, ofText? (Utf8.encode n.text) = some again := by
  cases n with
  | integer n => exact ⟨.integer n, ofText?_integer n⟩
  | double x => exact exists_ofText?_double x

end DocBridge.Number
