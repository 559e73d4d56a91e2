import Stubwright.Proofs.Decimal.ReadBack
import Stubwright.Proofs.Literal.Reader

/-!
Numbers read back: the digits of a whole number, and the parts of a decimal, are each taken as far
as they were written, since what may follow a literal goes on with neither.
-/

namespace Stubwright.Literal

open Decimal Script

/-- What may follow a number: nothing that goes on with it. -/
def EndsNumber (suffix : Text) : Prop :=
  ∀ c, suffix.head? = some (.char c) → c.isDigit = false ∧ c ≠ '.' ∧ c ≠ 'e' ∧ c ≠ 'E'

theorem Ends.number {suffix : Text} (ends : Ends suffix) : EndsNumber suffix := by
  intro c first
  have among := ends (.char c) first
  simp only [List.mem_cons, CodePoint.char.injEq, List.not_mem_nil, or_false] at among
  rcases among with rfl | rfl | rfl | rfl | rfl <;> decide

theorem Ends.head_ne {suffix : Text} (ends : Ends suffix) {point : CodePoint}
    (other : point ∉ ([',', ']', ')', ';', ' '] : List CodePoint)) : suffix.head? ≠ some point :=
  fun first => other (ends point first)

theorem take_digits_append (digits : List Char) (rest : Text)
    (areDigits : ∀ c ∈ digits, c.isDigit = true)
    (stops : ∀ c, rest.head? = some (.char c) → c.isDigit = false) :
    takeDigits (Text.ofChars digits ++ rest) = (digits, rest) := by
  induction digits with
  | nil =>
      change takeDigits rest = ([], rest)
      cases rest with
      | nil => rfl
      | cons point rest =>
          cases point with
          | half offset => rfl
          | char c => simp [takeDigits, stops c rfl]
  | cons c digits ih =>
      have later := ih fun other member => areDigits other (by simp [member])
      change takeDigits (.char c :: (Text.ofChars digits ++ rest)) = _
      simp [takeDigits, areDigits c (by simp), later]

theorem take_fraction_none (rest : Text) (stops : rest.head? ≠ some (.char '.')) :
    takeFraction rest = (none, rest) := by
  unfold takeFraction
  split
  · exact absurd rfl stops
  · rfl

theorem take_exponent_none (rest : Text)
    (stops : ∀ c, rest.head? = some (.char c) → c ≠ 'e' ∧ c ≠ 'E') :
    takeExponent rest = (none, rest) := by
  cases rest with
  | nil => rfl
  | cons point rest =>
      cases point with
      | half offset => rfl
      | char c =>
          have unmarked := stops c rfl
          simp [takeExponent, unmarked.1, unmarked.2]

theorem EndsNumber.digits {suffix : Text} (ends : EndsNumber suffix) :
    ∀ c, suffix.head? = some (.char c) → c.isDigit = false :=
  fun c first => (ends c first).1

theorem EndsNumber.fraction {suffix : Text} (ends : EndsNumber suffix) :
    takeFraction suffix = (none, suffix) :=
  take_fraction_none suffix fun first => (ends '.' first).2.1 rfl

theorem EndsNumber.exponent {suffix : Text} (ends : EndsNumber suffix) :
    takeExponent suffix = (none, suffix) :=
  take_exponent_none suffix fun c first => (ends c first).2.2

theorem head_to_digits_ne (number : Nat) (positive : 0 < number) :
    (Nat.toDigits 10 number).head? ≠ some '0' := by
  induction number using Nat.strongRecOn with
  | _ number ih =>
      by_cases small : number < 10
      · have unlike : ∀ digit < 10, 0 < digit → digit.digitChar ≠ '0' := by decide
        rw [Nat.toDigits_of_lt_base small]
        exact fun same => unlike number small positive (Option.some.inj same)
      · have base : 10 ≤ number := Nat.le_of_not_lt small
        have shorter := ih (number / 10) (by omega) (by omega)
        rw [Nat.toDigits_of_base_le (by norm_num) base, List.head?_append]
        cases first : (Nat.toDigits 10 (number / 10)).head? with
        | none => exact absurd (List.head?_eq_none_iff.1 first) Nat.toDigits_ne_nil
        | some c =>
            rw [first] at shorter
            exact shorter

/-- A whole number is never written with a needless zero in front. -/
theorem no_needless_zero (number : Nat) :
    ¬((Nat.toDigits 10 number).head? = some '0' ∧ (Nat.toDigits 10 number).length ≠ 1) := by
  rintro ⟨first, long⟩
  rcases Nat.eq_zero_or_pos number with rfl | positive
  · exact long rfl
  · exact head_to_digits_ne number positive first

theorem read_number_whole (number : Nat) (suffix : Text) (ends : EndsNumber suffix) :
    readNumber (Text.ofChars (Nat.toDigits 10 number) ++ suffix) = some (.int number, suffix) := by
  have digits := take_digits_append (Nat.toDigits 10 number) suffix (digits_are_digits number)
    ends.digits
  rw [readNumber]
  simp only [digits, ends.fraction, ends.exponent, Nat.toDigits_ne_nil, if_false,
    Option.isSome_none, Bool.false_eq_true, or_self, no_needless_zero,
    Nat.ofDigitChars_ten_toDigits]

theorem take_exponent_text (exponent : Bool × List Char) (suffix : Text)
    (some_digit : exponent.2 ≠ []) (areDigits : ∀ c ∈ exponent.2, c.isDigit = true)
    (ends : EndsNumber suffix) :
    takeExponent (Text.ofChars (Parts.exponentText (some exponent)) ++ suffix) =
      (some (Parts.power (some exponent)), suffix) := by
  obtain ⟨negative, digits⟩ := exponent
  have taken := take_digits_append digits suffix areDigits ends.digits
  cases negative with
  | false =>
      change takeExponent (.char 'e' :: .char '+' :: (Text.ofChars digits ++ suffix)) = _
      simp only [takeExponent, takeSign, taken]
      simp [some_digit, Parts.power]
  | true =>
      change takeExponent (.char 'e' :: .char '-' :: (Text.ofChars digits ++ suffix)) = _
      simp only [takeExponent, takeSign, taken]
      simp [some_digit, Parts.power]

section

variable (parts : Parts) {suffix : Text} (ends : EndsNumber suffix)
include ends

theorem after_fraction (c : Char)
    (first : (Text.ofChars (Parts.exponentText parts.exponent) ++ suffix).head? = some (.char c)) :
    c.isDigit = false ∧ c ≠ '.' := by
  cases exponent : parts.exponent with
  | none =>
      rw [exponent] at first
      have stops := ends c first
      exact ⟨stops.1, stops.2.1⟩
  | some digits =>
      rw [exponent] at first
      have mark : c = 'e' := (CodePoint.char.inj (Option.some.inj first)).symm
      subst mark
      decide

theorem after_whole (c : Char)
    (first : (Text.ofChars (Parts.fractionText parts.fraction) ++
      (Text.ofChars (Parts.exponentText parts.exponent) ++ suffix)).head? = some (.char c)) :
    c.isDigit = false := by
  cases fraction : parts.fraction with
  | none =>
      rw [fraction] at first
      exact (after_fraction parts ends c first).1
  | some digits =>
      rw [fraction] at first
      have mark : c = '.' := (CodePoint.char.inj (Option.some.inj first)).symm
      subst mark
      decide

end

section

variable {parts : Parts} (isDecimal : parts.IsDecimal) (suffix : Text) (ends : EndsNumber suffix)
include isDecimal ends

theorem take_exponent_part :
    takeExponent (Text.ofChars (Parts.exponentText parts.exponent) ++ suffix) =
      (parts.exponent.map fun digits => Parts.power (some digits), suffix) := by
  cases exponent : parts.exponent with
  | none => exact ends.exponent
  | some digits =>
      have digitsOf := isDecimal.exponent_digits digits exponent
      exact take_exponent_text digits suffix digitsOf.1 digitsOf.2 ends

theorem take_fraction_part :
    takeFraction (Text.ofChars (Parts.fractionText parts.fraction) ++
        (Text.ofChars (Parts.exponentText parts.exponent) ++ suffix)) =
      (parts.fraction, Text.ofChars (Parts.exponentText parts.exponent) ++ suffix) := by
  cases fraction : parts.fraction with
  | none => exact take_fraction_none _ fun first => (after_fraction parts ends '.' first).2 rfl
  | some digits =>
      have areDigits := isDecimal.fraction_digits
      rw [fraction] at areDigits
      have taken := take_digits_append digits _ areDigits
        fun c first => (after_fraction parts ends c first).1
      change takeFraction (.char '.' :: (Text.ofChars digits ++ _)) = _
      rw [takeFraction, taken]

/-- Whole part, fraction and exponent are each taken as far as they were written. -/
theorem read_number_decimal :
    readNumber (Text.ofChars parts.text ++ suffix) = some (.float parts.value, suffix) := by
  have wholeTaken := take_digits_append parts.whole _ isDecimal.whole_digits
    (after_whole parts ends)
  have text : Text.ofChars parts.text ++ suffix =
      Text.ofChars parts.whole ++ (Text.ofChars (Parts.fractionText parts.fraction) ++
        (Text.ofChars (Parts.exponentText parts.exponent) ++ suffix)) := by
    simp [Parts.text, Text.ofChars]
  have marked : parts.fraction.isSome ∨
      (parts.exponent.map fun digits => Parts.power (some digits)).isSome := by
    simpa using isDecimal.marked
  have power : (parts.exponent.map fun digits => Parts.power (some digits)).getD 0 =
      Parts.power parts.exponent := by
    cases parts.exponent <;> rfl
  rw [text, readNumber]
  simp only [wholeTaken, take_fraction_part isDecimal suffix ends,
    take_exponent_part isDecimal suffix ends, isDecimal.whole_nonempty, if_false, marked, if_true,
    power, Parts.value]

end

end Stubwright.Literal
