import Stubwright.Decimal.Shortest
import Stubwright.Proofs.Decimal.Rounding

/-!
The decimal text of a number reads back as the number. The digits that are chosen do so because
each choice is checked, or else because they are exact; trimming zeros keeps their value. Every
layout sets the same digits out, so that whole part, fraction and exponent give that value again.
-/

namespace Stubwright.Decimal

namespace Digits

theorem without_zeros_to_double (fuel : Nat) (decimal : Digits) :
    (decimal.withoutZeros fuel).toDouble = decimal.toDouble := by
  induction fuel generalizing decimal with
  | zero => rfl
  | succ fuel ih =>
      rw [withoutZeros]
      split
      · rename_i round
        have restored : decimal.digits / 10 * 10 = decimal.digits := by omega
        rw [ih, toDouble, toDouble, ← Double.of_decimal_ten_mul, restored]
      · rfl

end Digits

theorem neighbour_to_double (rank length : Nat) (decimal : Digits)
    (found : neighbour? rank length = some decimal) :
    decimal.toDouble = Double.ofRank false rank := by
  unfold neighbour? at found
  dsimp only at found
  obtain ⟨digits, _, chosen⟩ := List.exists_of_findSome?_eq_some found
  split at chosen
  · rename_i reads
    rw [← Option.some.inj chosen]
    exact reads
  · exact absurd chosen (by simp)

theorem exact_digits_to_double (rank : Nat) :
    (exactDigits rank).toDouble = Double.ofRank false rank := by
  obtain ⟨scale, standard, nearest⟩ := Double.of_ratio_eq_nearest
  have powers : units rank * 5 ^ scale * 2 ^ scale = units rank * 10 ^ scale := by
    rw [Nat.mul_assoc, ← Nat.mul_pow]
  have exactly : exactDigits rank = ⟨units rank * 5 ^ scale, -(scale : Int)⟩ := by
    have lowest : (-1074 : Int) = -(scale : Int) := by omega
    unfold exactDigits
    rw [lowest, standard]
  have numerator : (-(scale : Int)).toNat = 0 := by omega
  have denominator : (-(-(scale : Int))).toNat = scale := by omega
  rw [exactly, Digits.toDouble, Double.of_decimal_eq_of_ratio, numerator, denominator, pow_zero,
    Nat.mul_one, nearest, powers]
  have scaled := nearest_rank_scale (units rank) 1 (10 ^ scale) (Nat.pow_pos (by norm_num))
  rw [Nat.one_mul] at scaled
  rw [scaled, nearest_rank_units]

/-- The digits that are chosen for a magnitude read back as it. -/
theorem shortest_to_double (rank : Nat) : (shortest rank).toDouble = Double.ofRank false rank := by
  by_cases nothing : rank = 0
  · subst nothing
    rfl
  · rw [shortest, if_neg nothing, Digits.without_zeros_to_double]
    cases found : (List.range' 1 17).findSome? (neighbour? rank) with
    | none => exact exact_digits_to_double rank
    | some decimal =>
        obtain ⟨length, _, neighbour⟩ := List.exists_of_findSome?_eq_some found
        exact neighbour_to_double rank length decimal neighbour

/-- A decimal text taken apart: whole digits, the fraction after a point, and the sign and the
digits after an exponent's mark. -/
structure Parts where
  whole : List Char
  fraction : Option (List Char) := none
  exponent : Option (Bool × List Char) := none

namespace Parts

def fractionText : Option (List Char) → List Char
  | none => []
  | some digits => '.' :: digits

def exponentText : Option (Bool × List Char) → List Char
  | none => []
  | some (negative, digits) => 'e' :: (if negative then '-' else '+') :: digits

def text (parts : Parts) : List Char :=
  parts.whole ++ fractionText parts.fraction ++ exponentText parts.exponent

def power : Option (Bool × List Char) → Int
  | none => 0
  | some (negative, digits) =>
      if negative then -(Nat.ofDigitChars 10 digits 0 : Int) else Nat.ofDigitChars 10 digits 0

def value (parts : Parts) : Double :=
  Double.ofDecimal false (Nat.ofDigitChars 10 (parts.whole ++ parts.fraction.getD []) 0)
    (power parts.exponent - (parts.fraction.getD []).length)

/-- Parts that make up a number which is not taken for a whole one. -/
structure IsDecimal (parts : Parts) : Prop where
  whole_nonempty : parts.whole ≠ []
  whole_digits : ∀ c ∈ parts.whole, c.isDigit = true
  fraction_digits : ∀ c ∈ parts.fraction.getD [], c.isDigit = true
  exponent_digits : ∀ exponent, parts.exponent = some exponent →
    exponent.2 ≠ [] ∧ ∀ c ∈ exponent.2, c.isDigit = true
  marked : parts.fraction.isSome ∨ parts.exponent.isSome

theorem is_decimal_of_fraction (whole fraction : List Char) (some_digit : whole ≠ [])
    (wholeDigits : ∀ c ∈ whole, c.isDigit = true)
    (fractionDigits : ∀ c ∈ fraction, c.isDigit = true) :
    (Parts.mk whole (some fraction) none).IsDecimal :=
  ⟨some_digit, wholeDigits, fractionDigits, by simp, by simp⟩

end Parts

theorem digits_are_digits (value : Nat) : ∀ c ∈ Nat.toDigits 10 value, c.isDigit = true :=
  fun _ member => Nat.isDigit_of_mem_toDigits (by norm_num) (by norm_num) member

theorem zeros_are_digits (count : Nat) : ∀ c ∈ zeros count, c.isDigit = true := by
  intro c member
  rw [List.eq_of_mem_replicate member]
  rfl

theorem forall_mem_append {holds : Char → Prop} {first second : List Char}
    (inFirst : ∀ c ∈ first, holds c) (inSecond : ∀ c ∈ second, holds c) :
    ∀ c ∈ first ++ second, holds c := by
  intro c member
  rcases List.mem_append.1 member with here | there
  · exact inFirst c here
  · exact inSecond c there

theorem zeros_before (count : Nat) (digits : List Char) :
    Nat.ofDigitChars 10 (zeros count ++ digits) 0 = Nat.ofDigitChars 10 digits 0 := by
  rw [Nat.ofDigitChars_append, zeros, Nat.ofDigitChars_replicate_zero, Nat.mul_zero]

theorem zeros_after (count : Nat) (digits : List Char) :
    Nat.ofDigitChars 10 (digits ++ zeros count) 0 =
      Nat.ofDigitChars 10 digits 0 * 10 ^ count := by
  rw [Nat.ofDigitChars_append, zeros, Nat.ofDigitChars_replicate_zero, Nat.mul_comm]

namespace Layout

section

variable (digits : List Char) (decimal : Digits)

/-- What a layout owes to a decimal: a text whose parts have the decimal's value. -/
def SetsOut (text : List Char) : Prop :=
  ∃ parts : Parts, parts.IsDecimal ∧ parts.text = text ∧ parts.value = decimal.toDouble

variable (areDigits : ∀ c ∈ digits, c.isDigit = true)
  (value : Nat.ofDigitChars 10 digits 0 = decimal.digits)
include areDigits value

/-- The point stands before all digits. -/
theorem sets_out_fraction (count : Nat) (place : decimal.exponent = -(count + digits.length)) :
    SetsOut decimal ('0' :: '.' :: (zeros count ++ digits)) := by
  refine ⟨⟨['0'], some (zeros count ++ digits), none⟩, ?_, ?_, ?_⟩
  · exact Parts.is_decimal_of_fraction _ _ (by simp) (by simp)
      (forall_mem_append (zeros_are_digits count) areDigits)
  · simp [Parts.text, Parts.fractionText, Parts.exponentText]
  · have read : Nat.ofDigitChars 10 (['0'] ++ (zeros count ++ digits)) 0 = decimal.digits := by
      rw [← value, ← zeros_before count digits]
      exact zeros_before 1 (zeros count ++ digits)
    have power : (0 : Int) - (zeros count ++ digits).length = decimal.exponent := by
      rw [place, List.length_append, zeros, List.length_replicate]
      push_cast
      ring
    simp only [Parts.value, Parts.power, Option.getD_some, read, power, Digits.toDouble]

variable (nonempty : digits ≠ [])
include nonempty

/-- The point stands behind all digits. -/
theorem sets_out_whole (count : Nat) (place : decimal.exponent = count) :
    SetsOut decimal (digits ++ zeros count ++ ['.', '0']) := by
  refine ⟨⟨digits ++ zeros count, some ['0'], none⟩, ?_, ?_, ?_⟩
  · exact Parts.is_decimal_of_fraction _ _ (by simp [nonempty])
      (forall_mem_append areDigits (zeros_are_digits count)) (by simp)
  · simp [Parts.text, Parts.fractionText, Parts.exponentText]
  · have read : Nat.ofDigitChars 10 (digits ++ zeros count ++ ['0']) 0 =
        decimal.digits * 10 ^ (count + 1) := by
      have tail : (['0'] : List Char) = zeros 1 := rfl
      rw [tail, zeros_after, zeros_after, value, Nat.mul_assoc, ← pow_add]
    have power : (0 : Int) - (['0'] : List Char).length + ((count + 1 : Nat) : Int) =
        decimal.exponent := by
      rw [place]
      simp
    simp only [Parts.value, Parts.power, Option.getD_some, read]
    rw [Double.of_decimal_ten_pow_mul, power, Digits.toDouble]

/-- The point stands between two digits. -/
theorem sets_out_between (count : Nat) (before : 0 < count)
    (place : decimal.exponent = -((digits.drop count).length : Int)) :
    SetsOut decimal (digits.take count ++ '.' :: digits.drop count) := by
  refine ⟨⟨digits.take count, some (digits.drop count), none⟩, ?_, ?_, ?_⟩
  · apply Parts.is_decimal_of_fraction
    · intro empty
      rcases List.take_eq_nil_iff.1 empty with none | none
      · omega
      · exact nonempty none
    · exact fun c member => areDigits c (List.mem_of_mem_take member)
    · exact fun c member => areDigits c (List.mem_of_mem_drop member)
  · simp [Parts.text, Parts.fractionText, Parts.exponentText]
  · have power : (0 : Int) - (digits.drop count).length = decimal.exponent := by
      rw [place]
      ring
    simp only [Parts.value, Parts.power, Option.getD_some, List.take_append_drop, value, power,
      Digits.toDouble]

theorem positional_sets_out (point : Int) (here : point = digits.length + decimal.exponent) :
    SetsOut decimal (positional digits point) := by
  rw [positional]
  split
  · apply sets_out_fraction digits decimal areDigits value
    omega
  split
  · apply sets_out_whole digits decimal areDigits value nonempty
    omega
  · apply sets_out_between digits decimal areDigits value nonempty
    · omega
    · rw [List.length_drop]
      omega

/-- One digit before the point, and the place of the point as an exponent. -/
theorem scientific_sets_out (layout : Layout) (point : Int)
    (here : point = digits.length + decimal.exponent) :
    SetsOut decimal (layout.scientific digits point) := by
  obtain ⟨first, rest, split⟩ := List.exists_cons_of_ne_nil nonempty
  subst split
  let fraction : Option (List Char) := if rest = [] then none else some rest
  let power := zeros (layout.exponentWidth - (Nat.toDigits 10 (point - 1).natAbs).length) ++
    Nat.toDigits 10 (point - 1).natAbs
  have fractionDigits : fraction.getD [] = rest := by
    by_cases empty : rest = [] <;> simp [fraction, empty]
  refine ⟨⟨[first], fraction, some (decide (point ≤ 0), power)⟩, ?_, ?_, ?_⟩
  · refine ⟨by simp, ?_, ?_, ?_, by simp⟩
    · exact fun c member => areDigits c (by simp_all)
    · exact fun c member => areDigits c (by simp_all)
    · rintro exponent found
      rw [← Option.some.inj found]
      exact ⟨by simp [power, Nat.toDigits_ne_nil],
        forall_mem_append (zeros_are_digits _) (digits_are_digits _)⟩
  · by_cases empty : rest = []
    · subst empty
      simp [Parts.text, Parts.fractionText, Parts.exponentText, scientific, fraction, power]
    · simp [Parts.text, Parts.fractionText, Parts.exponentText, scientific, fraction, power, empty]
  · have exponent : Parts.power (some (decide (point ≤ 0), power)) = point - 1 := by
      have written : Nat.ofDigitChars 10 power 0 = (point - 1).natAbs := by
        rw [zeros_before, Nat.ofDigitChars_ten_toDigits]
      by_cases before : point ≤ 0
      · simp only [Parts.power, before, decide_true, if_true, written]
        omega
      · simp only [Parts.power, before, decide_false, Bool.false_eq_true, if_false, written]
        omega
    have place : point - 1 - (rest.length : Int) = decimal.exponent := by
      rw [here, List.length_cons]
      push_cast
      ring
    simp only [Parts.value, fractionDigits, exponent, place, Digits.toDouble]
    exact congrArg (Double.ofDecimal false · decimal.exponent) value

end

/-- Whatever the place of the point, the text of a decimal has its value. -/
theorem magnitude_sets_out (layout : Layout) (low : layout.lowestPoint ≤ 1)
    (high : 1 ≤ layout.highestPoint) (decimal : Digits) :
    SetsOut decimal (layout.magnitude decimal) := by
  have digits := digits_are_digits decimal.digits
  have value : Nat.ofDigitChars 10 (Nat.toDigits 10 decimal.digits) 0 = decimal.digits :=
    Nat.ofDigitChars_ten_toDigits
  have nonempty : Nat.toDigits 10 decimal.digits ≠ [] := Nat.toDigits_ne_nil
  rw [magnitude]
  by_cases nothing : decimal.digits = 0
  · -- A zero is written with its point behind its only digit, whatever its exponent.
    obtain ⟨parts, isDecimal, text, same⟩ :=
      positional_sets_out ['0'] ⟨0, 0⟩ (by simp) rfl (by simp) 1 rfl
    refine ⟨parts, isDecimal, ?_, ?_⟩
    · rw [text]
      simp [nothing, low, high]
    · rw [same, Digits.toDouble, Digits.toDouble, nothing]
      simp [Double.ofDecimal]
  · simp only [if_neg nothing]
    split
    · exact positional_sets_out _ decimal digits value nonempty _ rfl
    · exact scientific_sets_out _ decimal digits value nonempty layout _ rfl

end Layout

/-- The parts of a finite number's text, and that they read back as its magnitude. -/
theorem finite_text_sets_out (negative : Bool) (rank : Nat) :
    ∃ parts : Parts, parts.IsDecimal ∧ parts.value = Double.ofRank false rank ∧
      finiteText negative rank = (if negative then ['-'] else []) ++ parts.text := by
  obtain ⟨parts, isDecimal, text, value⟩ :=
    Layout.magnitude_sets_out Layout.standard (by decide) (by decide) (shortest rank)
  exact ⟨parts, isDecimal, value.trans (shortest_to_double rank), by rw [finiteText, text]⟩

end Stubwright.Decimal
