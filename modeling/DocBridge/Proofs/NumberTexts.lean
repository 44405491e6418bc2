import DocBridge.Json.Outline
import DocBridge.Json.Printer
import DocBridge.Proofs.ShortestDecimals
import Mathlib.Data.List.TakeWhile

/-!
# Texts of numbers

Every number that is written is read as one number.  The machine that reads JSON goes from place
to place inside a number; here the digits of integers and the layouts of shortest decimals are
followed through it to a place where a number may end.
-/

namespace DocBridge.Json.Outline.NumberPlace

/-- Where bytes lead inside a number. -/
def run? (place : NumberPlace) (bytes : Bytes) : Option NumberPlace :=
  bytes.foldlM NumberPlace.next? place

theorem run?_append (place : NumberPlace) (first second : Bytes) :
    place.run? (first ++ second) = (place.run? first).bind fun next => next.run? second :=
  List.foldlM_append

theorem run?_encode_cons (place : NumberPlace) {character : Char} (h : character.toNat < 0x80)
    (text : List Char) :
    place.run? (Utf8.encode (character :: text)) =
      (place.next? (UInt8.ofNat character.toNat)).bind fun next =>
        next.run? (Utf8.encode text) := by
  rw [Utf8.encode_cons, Utf8.encodeChar_of_lt h]
  rfl

theorem run?_encode_append (place : NumberPlace) (first second : List Char) :
    place.run? (Utf8.encode (first ++ second)) =
      (place.run? (Utf8.encode first)).bind fun next => next.run? (Utf8.encode second) := by
  rw [Utf8.encode_append, run?_append]

/-- A place that digits do not leave. -/
def Repeats (place : NumberPlace) : Prop :=
  ∀ byte, Digit.isDecimalByte byte = true → place.next? byte = some place

theorem integer_repeats : Repeats .integer := by
  intro byte hbyte
  simp [next?, hbyte]

theorem fraction_repeats : Repeats .fraction := by
  intro byte hbyte
  simp [next?, hbyte]

theorem exponent_repeats : Repeats .exponent := by
  intro byte hbyte
  simp [next?, hbyte]

/-- Where digits do not leave a place, no number of them does. -/
theorem Repeats.run? {place : NumberPlace} (hplace : place.Repeats) {text : List Char}
    (htext : ∀ character ∈ text, Digit.isDecimal character = true) :
    place.run? (Utf8.encode text) = some place := by
  induction text with
  | nil => rfl
  | cons character rest ih =>
    have hcharacter := htext character List.mem_cons_self
    have hascii : character.toNat < 0x80 := by
      have := Digit.isDecimal_iff.1 hcharacter
      omega
    rw [run?_encode_cons place hascii, hplace _ (Digit.isDecimalByte_ofNat hcharacter)]
    exact ih fun other hother => htext other (List.mem_cons_of_mem character hother)

/-- Digits lead from a place that wants one to the place of its digits. -/
theorem run?_of_digits {start place : NumberPlace} (hplace : place.Repeats)
    {text : List Char} (htext : ∀ character ∈ text, Digit.isDecimal character = true)
    (hne : text ≠ [])
    (hstart : ∀ character, text.head? = some character →
      start.next? (UInt8.ofNat character.toNat) = some place) :
    start.run? (Utf8.encode text) = some place := by
  cases text with
  | nil => exact absurd rfl hne
  | cons character rest =>
    have hcharacter := htext character List.mem_cons_self
    have hascii : character.toNat < 0x80 := by
      have := Digit.isDecimal_iff.1 hcharacter
      omega
    rw [run?_encode_cons start hascii, hstart character rfl]
    exact hplace.run? fun other hother => htext other (List.mem_cons_of_mem character hother)

/-- Digits without a leading zero make an integer. -/
theorem run?_sign_of_digits {text : List Char}
    (htext : ∀ character ∈ text, Digit.isDecimal character = true) (hne : text ≠ [])
    (hhead : text.head? ≠ some '0') : sign.run? (Utf8.encode text) = some .integer := by
  refine run?_of_digits integer_repeats htext hne fun character hcharacter => ?_
  have hdigit := htext character (List.mem_of_mem_head? hcharacter)
  have hbounds := Digit.isDecimal_iff.1 hdigit
  have hzero : UInt8.ofNat character.toNat ≠ 0x30 := by
    intro heq
    have hcode : character.toNat % 256 = 0x30 := by
      simpa using congrArg UInt8.toNat heq
    have hchar : character = '0' := Char.toNat_inj.1 (show character.toNat = 0x30 by omega)
    exact hhead (hchar ▸ hcharacter)
  simp [next?, hzero, Digit.isDecimalByte_ofNat hdigit]

theorem run?_point_of_digits {text : List Char}
    (htext : ∀ character ∈ text, Digit.isDecimal character = true) (hne : text ≠ []) :
    point.run? (Utf8.encode text) = some .fraction := by
  refine run?_of_digits fraction_repeats htext hne fun character hcharacter => ?_
  have hdigit := htext character (List.mem_of_mem_head? hcharacter)
  simp [next?, Digit.isDecimalByte_ofNat hdigit]

theorem run?_exponentSign_of_digits {text : List Char}
    (htext : ∀ character ∈ text, Digit.isDecimal character = true) (hne : text ≠ []) :
    exponentSign.run? (Utf8.encode text) = some .exponent := by
  refine run?_of_digits exponent_repeats htext hne fun character hcharacter => ?_
  have hdigit := htext character (List.mem_of_mem_head? hcharacter)
  simp [next?, Digit.isDecimalByte_ofNat hdigit]

/-- A text that is a number without a sign. -/
def IsMagnitude (text : List Char) : Prop :=
  ∃ place, sign.run? (Utf8.encode text) = some place ∧ place.accepts = true

/-! ## Integers -/

theorem isDecimal_of_mem_toDigits {n : Nat} {character : Char}
    (h : character ∈ Nat.toDigits 10 n) : Digit.isDecimal character = true := by
  have hdigit := Nat.isDigit_of_mem_toDigits (by decide) (by decide) h
  simpa [Char.isDigit, Digit.isDecimal, Char.le_def] using hdigit

theorem head?_toDigits_ne {n : Nat} (h : 0 < n) : (Nat.toDigits 10 n).head? ≠ some '0' := by
  induction n using Nat.strongRecOn with
  | ind n ih =>
    rw [Nat.toDigits_eq_if (by decide)]
    split
    · rename_i hlt
      exact (by decide : ∀ digit : Fin 10, 0 < digit.val →
        [digit.val.digitChar].head? ≠ some '0') ⟨n, hlt⟩ h
    · have hsmaller := ih (n / 10) (by omega) (by omega)
      obtain ⟨first, rest, hdigits⟩ :=
        List.exists_cons_of_ne_nil (Nat.toDigits_ne_nil (n := n / 10) (b := 10))
      rw [hdigits] at hsmaller ⊢
      exact hsmaller

/-- The digits of a natural number are a magnitude of the grammar. -/
theorem isMagnitude_toDigits (n : Nat) : IsMagnitude (Nat.toDigits 10 n) := by
  by_cases hzero : n = 0
  · subst hzero
    exact ⟨.zero, rfl, rfl⟩
  · refine ⟨.integer, ?_, rfl⟩
    exact run?_sign_of_digits (fun _ => isDecimal_of_mem_toDigits) Nat.toDigits_ne_nil
      (head?_toDigits_ne (Nat.pos_of_ne_zero hzero))

/-! ## Decimals -/

theorem isDecimal_of_mem_replicate {count : Nat} {character : Char}
    (h : character ∈ List.replicate count '0') : Digit.isDecimal character = true := by
  rw [List.eq_of_mem_replicate h]
  rfl

/-- A whole part and a fraction. -/
theorem run?_sign_of_fraction {whole fraction : List Char}
    (hwhole : sign.run? (Utf8.encode whole) = some .integer ∨
      sign.run? (Utf8.encode whole) = some .zero)
    (hfraction : ∀ character ∈ fraction, Digit.isDecimal character = true)
    (hne : fraction ≠ []) :
    sign.run? (Utf8.encode (whole ++ '.' :: fraction)) = some .fraction := by
  have hpoint := run?_point_of_digits hfraction hne
  rcases hwhole with hwhole | hwhole <;>
    rw [run?_encode_append, hwhole, Option.bind_some, run?_encode_cons _ (by decide)] <;>
    exact hpoint

/-- A mantissa and a power of ten. -/
theorem isMagnitude_scientific {mantissa : List Char} {mark : Char} {exponent : Nat}
    (hmantissa : sign.run? (Utf8.encode mantissa) = some .integer ∨
      sign.run? (Utf8.encode mantissa) = some .fraction)
    (hmark : mark = '-' ∨ mark = '+') :
    IsMagnitude (mantissa ++ 'e' :: mark :: Nat.toDigits 10 exponent) := by
  refine ⟨.exponent, ?_, rfl⟩
  have hdigits := run?_exponentSign_of_digits
    (fun _ => isDecimal_of_mem_toDigits (n := exponent)) Nat.toDigits_ne_nil
  have hexponent :
      exponentMark.run? (Utf8.encode (mark :: Nat.toDigits 10 exponent)) = some .exponent := by
    rcases hmark with rfl | rfl <;> rw [run?_encode_cons _ (by decide)] <;> exact hdigits
  rcases hmantissa with hmantissa | hmantissa <;>
    rw [run?_encode_append, hmantissa, Option.bind_some, run?_encode_cons _ (by decide)] <;>
    exact hexponent

/-- The layout of a decimal is a number if it has digits and the first of them is not zero. -/
theorem isMagnitude_layout {decimal : Digits}
    (hdigits : ∀ character ∈ Digits.chars decimal.digits, Digit.isDecimal character = true)
    (hne : Digits.chars decimal.digits ≠ [])
    (hhead : (Digits.chars decimal.digits).head? ≠ some '0') : IsMagnitude decimal.layout := by
  simp only [Digits.layout]
  generalize Digits.chars decimal.digits = digits at *
  split
  · rename_i hpoint
    simp only [Bool.and_eq_true, decide_eq_true_eq] at hpoint
    split
    · have hwhole : sign.run? (Utf8.encode
          (digits ++ List.replicate (decimal.point - digits.length).toNat '0')) =
            some .integer := by
        rw [run?_encode_append, run?_sign_of_digits hdigits hne hhead]
        exact integer_repeats.run? fun _ => isDecimal_of_mem_replicate
      have hfraction : ∀ character ∈ ['0'], Digit.isDecimal character = true := by
        intro character hmem
        rw [List.mem_singleton.1 hmem]
        rfl
      refine ⟨.fraction, ?_, rfl⟩
      simpa using run?_sign_of_fraction (.inl hwhole) hfraction (by simp)
    · rename_i hlength
      obtain ⟨first, rest, rfl⟩ := List.exists_cons_of_ne_nil hne
      obtain ⟨count, hcount⟩ : ∃ count, decimal.point.toNat = count + 1 :=
        Nat.exists_eq_succ_of_ne_zero (by omega)
      have hwhole : sign.run? (Utf8.encode ((first :: rest).take decimal.point.toNat)) =
          some .integer :=
        run?_sign_of_digits (fun _ hmem => hdigits _ (List.mem_of_mem_take hmem))
          (by simp [hcount]) (by simpa [hcount] using hhead)
      refine ⟨.fraction, run?_sign_of_fraction (.inl hwhole)
        (fun _ hmem => hdigits _ (List.mem_of_mem_drop hmem)) ?_, rfl⟩
      simp only [List.length_cons] at hlength
      simp [hcount]
      omega
  · split
    · have hwhole : sign.run? (Utf8.encode ['0']) = some .zero := rfl
      refine ⟨.fraction, run?_sign_of_fraction (.inr hwhole) (fun character hmem => ?_)
        (by simp [hne]), rfl⟩
      rcases List.mem_append.1 hmem with hzero | hdigit
      · exact isDecimal_of_mem_replicate hzero
      · exact hdigits character hdigit
    · refine isMagnitude_scientific ?_ (by split <;> simp)
      split
      · exact absurd rfl hne
      · exact .inl (run?_sign_of_digits hdigits hne hhead)
      · rename_i digit rest hrest
        have hdigit : sign.run? (Utf8.encode [digit]) = some .integer :=
          run?_sign_of_digits (by simpa using hdigits digit List.mem_cons_self) (by simp)
            (by simpa using hhead)
        exact .inr (run?_sign_of_fraction (.inl hdigit)
          (fun _ hmem => hdigits _ (List.mem_cons_of_mem digit hmem))
          hrest)

/-! ## Shortest decimals -/

theorem chars_decimalDigits (n : Nat) :
    Digits.chars (Binary64.decimalDigits n) = Nat.toDigits 10 n := by
  have hsame : ∀ character ∈ Nat.toDigits 10 n,
      Char.ofNat ('0'.toNat + (character.toNat - '0'.toNat)) = character := by
    intro character hcharacter
    have hbounds := Digit.isDecimal_iff.1 (isDecimal_of_mem_toDigits hcharacter)
    have hcode : '0'.toNat + (character.toNat - '0'.toNat) = character.toNat :=
      Nat.add_sub_cancel' hbounds.1
    rw [hcode, Char.ofNat_toNat]
  rw [Digits.chars, Binary64.decimalDigits, List.map_map]
  exact (List.map_congr_left hsame).trans (List.map_id' _)

theorem dropTrailingZeros_initial (digits : List Nat) :
    Binary64.dropTrailingZeros digits <+: digits := by
  have hsuffix := List.dropWhile_suffix (l := digits.reverse) (· == 0)
  rw [← List.reverse_prefix, List.reverse_reverse] at hsuffix
  exact hsuffix

/-- A positive number has digits other than zero. -/
theorem dropTrailingZeros_ne_nil {n : Nat} (h : 0 < n) :
    Binary64.dropTrailingZeros (Binary64.decimalDigits n) ≠ [] := by
  intro hnil
  have hzeros := List.dropWhile_eq_nil_iff.1 (List.reverse_eq_nil_iff.1 hnil)
  obtain ⟨first, rest, hdigits⟩ :=
    List.exists_cons_of_ne_nil (Nat.toDigits_ne_nil (n := n) (b := 10))
  have hbounds := Digit.isDecimal_iff.1
    (isDecimal_of_mem_toDigits (hdigits ▸ List.mem_cons_self : first ∈ Nat.toDigits 10 n))
  have hfirst : first.toNat - '0'.toNat = 0 := by
    simpa using hzeros _ (List.mem_reverse.2 (by simp [Binary64.decimalDigits, hdigits]))
  have hzero : first = '0' := by
    apply Char.toNat_inj.1
    change first.toNat = 0x30
    change first.toNat - 0x30 = 0 at hfirst
    omega
  exact head?_toDigits_ne h (by rw [hdigits, hzero]; rfl)

/-- The digits of a positive number still begin with the same digit once the zeros at their end
are dropped. -/
theorem isMagnitude_of_positive {n : Nat} (h : 0 < n) (point : Int) :
    IsMagnitude
      (Digits.layout ⟨Binary64.dropTrailingZeros (Binary64.decimalDigits n), point⟩) := by
  have hinitial :
      Digits.chars (Binary64.dropTrailingZeros (Binary64.decimalDigits n)) <+:
        Nat.toDigits 10 n := by
    rw [← chars_decimalDigits n]
    exact (dropTrailingZeros_initial _).map _
  have hchars : Digits.chars (Binary64.dropTrailingZeros (Binary64.decimalDigits n)) ≠ [] := by
    simpa [Digits.chars] using dropTrailingZeros_ne_nil h
  refine isMagnitude_layout
    (fun _ hmem => isDecimal_of_mem_toDigits (hinitial.mem hmem)) hchars ?_
  rw [List.head?_eq_some_head hchars, hinitial.head hchars, ← List.head?_eq_some_head]
  exact head?_toDigits_ne h

/-- The layout of shortest digits is a magnitude, in all of its forms. -/
theorem isMagnitude_shortest {x : Binary64} (h : x.isZero = false) :
    IsMagnitude x.shortest.layout := by
  obtain ⟨number, count, point, hpositive, -, -, hshortest⟩ := Binary64.exists_shortest h
  rw [hshortest]
  exact isMagnitude_of_positive hpositive _

/-! ## Numbers -/

/-- Every number is written as a magnitude, with a minus sign in front of it or without one. -/
theorem exists_isMagnitude (n : Number) :
    ∃ magnitude, IsMagnitude magnitude ∧ (n.text = magnitude ∨ n.text = '-' :: magnitude) := by
  cases n with
  | integer n =>
    refine ⟨Nat.toDigits 10 n.value.natAbs, isMagnitude_toDigits _, ?_⟩
    simp only [Number.text, decimalText]
    split <;> simp
  | double x =>
    simp only [Number.text, Binary64.text]
    cases hzero : x.isZero with
    | true =>
      refine ⟨['0', '.', '0'], ⟨.fraction, rfl, rfl⟩, ?_⟩
      cases x.negative <;> simp
    | false =>
      refine ⟨x.shortest.layout, isMagnitude_shortest hzero, ?_⟩
      cases x.negative <;> simp

end DocBridge.Json.Outline.NumberPlace
