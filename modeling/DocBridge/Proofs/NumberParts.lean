import DocBridge.Json.NumberText
import DocBridge.Proofs.NumberTexts

/-!
# Parts of number texts

The text of a number falls into the digits before the point, those behind it and the exponent.
Digits that fit are all taken into the significand, so that integers are read as themselves.
-/

namespace DocBridge.Number

/-! ## Digits -/

/-- More digits make no smaller number. -/
theorem le_foldl_digits (digits : List Nat) (value : Nat) :
    value ≤ digits.foldl (fun value digit => value * 10 + digit) value := by
  induction digits generalizing value with
  | nil => exact Nat.le_refl value
  | cons digit rest ih =>
    have := ih (value * 10 + digit)
    simp only [List.foldl_cons]
    omega

/-- Digits that fit are all taken in. -/
theorem Significand.foldl_of_fits {digits : List Nat} {value : Nat}
    (h : digits.foldl (fun value digit => value * 10 + digit) value < UInt64.size) :
    digits.foldl (fun taken digit =>
      if taken.shift = 0 ∧ taken.value * 10 + digit < UInt64.size then
        ⟨taken.value * 10 + digit, 0⟩
      else ⟨taken.value, taken.shift + 1⟩) (⟨value, 0⟩ : Significand) =
      ⟨digits.foldl (fun value digit => value * 10 + digit) value, 0⟩ := by
  induction digits generalizing value with
  | nil => rfl
  | cons digit rest ih =>
    simp only [List.foldl_cons] at h ⊢
    have hfits : value * 10 + digit < UInt64.size :=
      Nat.lt_of_le_of_lt (le_foldl_digits rest _) h
    rw [if_pos ⟨trivial, hfits⟩]
    exact ih h

theorem Significand.whole_of_fits {digits : List Nat} (h : ofDigits digits < UInt64.size) :
    Significand.whole digits = ⟨ofDigits digits, 0⟩ :=
  foldl_of_fits h

/-- The bytes of digits stand for the values of the digits. -/
theorem map_digitValue_encode {text : List Char}
    (h : ∀ character ∈ text, Digit.isDecimal character = true) :
    (Utf8.encode text).map digitValue =
      text.map fun character => character.toNat - '0'.toNat := by
  induction text with
  | nil => rfl
  | cons character rest ih =>
    have hcharacter := Digit.isDecimal_iff.1 (h character List.mem_cons_self)
    have hdigit : digitValue (UInt8.ofNat character.toNat) = character.toNat - '0'.toNat := by
      rw [digitValue, UInt8.toNat_ofNat', Nat.mod_eq_of_lt (by omega)]
      rfl
    rw [Utf8.encode_cons, Utf8.encodeChar_of_lt (by omega), List.singleton_append, List.map_cons,
      List.map_cons, hdigit, ih fun other hother => h other (List.mem_cons_of_mem _ hother)]

theorem isDecimalByte_of_mem_encode {text : List Char}
    (h : ∀ character ∈ text, Digit.isDecimal character = true) :
    ∀ byte ∈ Utf8.encode text, Digit.isDecimalByte byte = true := by
  intro byte hbyte
  obtain ⟨character, hcharacter, hmem⟩ := List.mem_flatMap.1 hbyte
  have hdigit := h character hcharacter
  have hbounds := Digit.isDecimal_iff.1 hdigit
  rw [Utf8.encodeChar_of_lt (by omega), List.mem_singleton] at hmem
  rw [hmem]
  exact Digit.isDecimalByte_ofNat hdigit

theorem ofDigits_decimalDigits (n : Nat) : ofDigits (Binary64.decimalDigits n) = n := by
  have hvalue : Nat.ofDigitChars 10 (Nat.toDigits 10 n) 0 = n :=
    Nat.ofDigitChars_toDigits (by decide) (by decide)
  rw [Nat.ofDigitChars] at hvalue
  rw [ofDigits, Binary64.decimalDigits, List.foldl_map]
  simpa only [Nat.mul_comm] using hvalue

/-- The bytes of a number's digits. -/
theorem ofDigits_encode_toDigits (n : Nat) :
    ofDigits ((Utf8.encode (Nat.toDigits 10 n)).map digitValue) = n := by
  rw [map_digitValue_encode fun _ => Json.Outline.NumberPlace.isDecimal_of_mem_toDigits]
  exact ofDigits_decimalDigits n

/-! ## Parts -/

/-- Digits end where something else begins. -/
theorem span_digits {digits rest : Bytes}
    (hdigits : ∀ byte ∈ digits, Digit.isDecimalByte byte = true)
    (hrest : ∀ byte, rest.head? = some byte → Digit.isDecimalByte byte = false) :
    (digits ++ rest).takeWhile Digit.isDecimalByte = digits ∧
      (digits ++ rest).dropWhile Digit.isDecimalByte = rest := by
  rw [List.takeWhile_append_of_pos hdigits, List.dropWhile_append_of_pos hdigits]
  cases rest with
  | nil => simp
  | cons byte others => simp [hrest byte rfl]

/-- The text of a number, which may have a sign, digits behind the point and an exponent, falls into
these parts. -/
theorem Parts.ofText_append (negative : Bool) {whole exponent : Bytes} {fraction : Option Bytes}
    (hne : whole ≠ []) (hwhole : ∀ byte ∈ whole, Digit.isDecimalByte byte = true)
    (hfraction : ∀ digits, fraction = some digits →
      ∀ byte ∈ digits, Digit.isDecimalByte byte = true)
    (hexponent : exponent = [] ∨ ∃ rest, exponent = 0x65 :: rest) :
    Parts.ofText ((if negative then [0x2D] else []) ++
        (whole ++ ((fraction.elim [] fun digits => 0x2E :: digits) ++ exponent))) =
      ⟨negative, whole.map digitValue, fraction.map (·.map digitValue),
        if exponent.isEmpty then none else some (exponentOf (exponent.drop 1))⟩ := by
  have hmark : ∀ byte, exponent.head? = some byte → Digit.isDecimalByte byte = false := by
    rcases hexponent with rfl | ⟨rest, rfl⟩
    · nofun
    · rintro byte ⟨rfl⟩
      rfl
  have hpoint : (exponent.head? == some 0x2E) = false := by
    rcases hexponent with rfl | ⟨rest, rfl⟩ <;> rfl
  have hsign (rest : Bytes) :
      (((if negative then [0x2D] else []) ++ (whole ++ rest)).head? == some 0x2D) = negative := by
    obtain ⟨first, others, rfl⟩ := List.exists_cons_of_ne_nil hne
    cases negative with
    | true => rfl
    | false =>
      refine beq_eq_false_iff_ne.2 ?_
      rintro ⟨rfl⟩
      exact absurd (hwhole 0x2D List.mem_cons_self) (by decide)
  have hunsigned (rest : Bytes) :
      (if negative then ((if negative then [0x2D] else []) ++ (whole ++ rest)).drop 1
        else (if negative then [0x2D] else []) ++ (whole ++ rest)) = whole ++ rest := by
    cases negative <;> rfl
  cases fraction with
  | none =>
    obtain ⟨htake, hdrop⟩ := span_digits hwhole hmark
    simp only [Parts.ofText, hsign, hunsigned, Option.elim_none, List.nil_append, htake, hdrop,
      hpoint]
    rfl
  | some digits =>
    have hbehind : ∀ byte, (0x2E :: (digits ++ exponent)).head? = some byte →
        Digit.isDecimalByte byte = false := by
      rintro byte ⟨rfl⟩
      rfl
    obtain ⟨htake, hdrop⟩ := span_digits hwhole hbehind
    obtain ⟨htake', hdrop'⟩ := span_digits (hfraction digits rfl) hmark
    have hpoint' : ((0x2E :: (digits ++ exponent)).head? == some 0x2E) = true := rfl
    simp only [Parts.ofText, hsign, hunsigned, Option.elim_some, List.cons_append, htake, hdrop,
      hpoint', List.drop_succ_cons, List.drop_zero, htake', hdrop', if_true]

/-! ## Integers -/

/-- The text of an integer is read as that integer. -/
theorem ofText?_integer (n : WideInt) :
    ofText? (Utf8.encode (Number.integer n).text) = some (.integer n) := by
  obtain ⟨value, hrange⟩ := n
  have hdigits : ∀ byte ∈ Utf8.encode (Nat.toDigits 10 value.natAbs),
      Digit.isDecimalByte byte = true :=
    isDecimalByte_of_mem_encode fun _ => Json.Outline.NumberPlace.isDecimal_of_mem_toDigits
  have hne : Utf8.encode (Nat.toDigits 10 value.natAbs) ≠ [] :=
    Utf8.encode_ne_nil Nat.toDigits_ne_nil
  have htext : Utf8.encode (Number.integer ⟨value, hrange⟩).text =
      (if value < 0 then [0x2D] else []) ++ (Utf8.encode (Nat.toDigits 10 value.natAbs) ++ []) := by
    simp only [Number.text, decimalText, List.append_nil]
    split <;> rfl
  have hwhole : Significand.whole
      ((Utf8.encode (Nat.toDigits 10 value.natAbs)).map digitValue) = ⟨value.natAbs, 0⟩ := by
    rw [Significand.whole_of_fits, ofDigits_encode_toDigits]
    rw [ofDigits_encode_toDigits, UInt64.size]
    omega
  have hsigned : (if value < 0 then -(value.natAbs : Int) else value.natAbs) = value := by
    split <;> omega
  have hzero : (decide (value < 0) && decide (value.natAbs = 0)) = false := by
    rw [Bool.and_eq_false_iff, decide_eq_false_iff_not, decide_eq_false_iff_not]
    omega
  have hnone (digits : Bytes) (h : none = some digits) :
      ∀ byte ∈ digits, Digit.isDecimalByte byte = true := by
    cases h
  have hparts := Parts.ofText_append (decide (value < 0)) hne hdigits hnone (.inl rfl)
  simp only [decide_eq_true_eq] at hparts
  rw [ofText?, htext]
  refine (congrArg Parts.value? hparts).trans ?_
  simp only [Parts.value?, hwhole, decide_eq_true_eq, hsigned, WideInt.ofInt?, dif_pos hrange,
    hzero]
  rfl

end DocBridge.Number
