import Mathlib.Data.Bool.AllAny
import Stubwright.Proofs.Json.Portable
import Stubwright.Proofs.Json.Reading
import Stubwright.Proofs.Text.Pieces
import Stubwright.Proofs.Yaml.Plain
import Stubwright.Yaml.Document

/-!
The form of a portable number as a plain scalar tells what it is: a whole number, or one with a
point. No other form of a scalar has only the characters of such numbers.
-/

namespace Stubwright.Yaml

open Decimal Json

variable {c : Char} {digits : List Char}

/-! ### Characters of numbers -/

def digitChars : List Char := ['0', '1', '2', '3', '4', '5', '6', '7', '8', '9']

def numeralChars : List Char := digitChars ++ ['-', '+', '.', 'e', 'E']

theorem mem_digit_chars (digit : c.isDigit = true) : c ∈ digitChars := by
  have bounds : 48 ≤ c.toNat ∧ c.toNat ≤ 57 := by
    simpa [Char.isDigit, UInt32.le_iff_toNat_le] using digit
  have known : ∀ number < 58, 48 ≤ number → Char.ofNat number ∈ digitChars := by decide
  have found := known c.toNat (by omega) bounds.1
  rwa [Char.ofNat_toNat] at found

theorem mem_numeral_chars (digit : c.isDigit = true) : c ∈ numeralChars :=
  List.mem_append_left _ (mem_digit_chars digit)

theorem numeral_text_chars (numeral : Numeral) : ∀ c ∈ numeral.text, c ∈ numeralChars := by
  intro c among
  simp only [Numeral.text, Numeral.magnitudeText, Numeral.fractionText, Numeral.exponentText,
    List.mem_append] at among
  rcases among with sign | whole | fraction | exponent
  · split at sign
    · rw [List.mem_singleton.1 sign]
      decide
    · cases sign
  · exact mem_numeral_chars (numeral.wholeDigits c whole)
  · split at fraction
    · cases fraction
    · rcases List.mem_cons.1 fraction with rfl | digit
      · decide
      · exact mem_numeral_chars (numeral.fractionDigits c digit)
  · cases power : numeral.exponent with
    | none =>
        rw [power] at exponent
        cases exponent
    | some found =>
        rw [power] at exponent
        simp only [Option.map_some, Option.getD_some, Exponent.text, List.mem_cons,
          List.mem_append, Option.mem_toList] at exponent
        rcases exponent with rfl | sign | digit
        · rcases found.isLetter with letter | letter <;> rw [letter] <;> decide
        · rcases found.isSign c sign with rfl | rfl <;> decide
        · exact mem_numeral_chars (found.areDigits c digit)

theorem numeral_char_solid : ∀ c ∈ numeralChars, Plain.IsSolid c :=
  List.all_iff_forall_prop.1 (by decide)

/-! ### Digits -/

def digitValues (digits : List Char) : List Nat := digits.map fun c => c.toNat - '0'.toNat

section

variable {digit? : Char → Option Nat}
  (known : ∀ c ∈ digitChars, digit? c = some (c.toNat - '0'.toNat))
  (areDigits : ∀ c ∈ digits, c.isDigit = true)
include known areDigits

theorem digits_following : digitsFollowing? digit? true digits = some (digitValues digits) := by
  induction digits with
  | nil => rfl
  | cons c digits ih =>
      have among := mem_digit_chars (areDigits c (by simp))
      have noUnderscore : c ≠ '_' := by
        rintro rfl
        exact absurd among (by decide)
      rw [digitsFollowing?, if_neg noUnderscore, known c among]
      dsimp only
      rw [ih fun other later => areDigits other (by simp [later])]
      rfl

theorem grouped_digits (someDigits : digits ≠ []) :
    groupedDigits? digit? digits = some (digitValues digits) := by
  cases digits with
  | nil => exact absurd rfl someDigits
  | cons c digits =>
      have among := mem_digit_chars (areDigits c (by simp))
      have noUnderscore : c ≠ '_' := by
        rintro rfl
        exact absurd among (by decide)
      rw [groupedDigits?, digitsFollowing?, if_neg noUnderscore, known c among]
      dsimp only
      rw [digits_following known fun other later => areDigits other (by simp [later])]
      rfl

end

theorem decimal_digit_value :
    ∀ c ∈ digitChars, Text.digitValue? c = some (c.toNat - '0'.toNat) :=
  List.all_iff_forall_prop.1 (by decide)

theorem base_digit_value :
    ∀ c ∈ digitChars, Text.baseDigit? 10 c = some (c.toNat - '0'.toNat) :=
  List.all_iff_forall_prop.1 (by decide)

/-! ### The form of a number -/

section

variable {chars : List Char} (numeric : ∀ c ∈ chars, c ∈ numeralChars)
include numeric

theorem not_word {words : List String}
    (unlike : ∀ word ∈ words, (word.toList.all fun mark => decide (mark ∈ numeralChars)) = false) :
    String.ofList chars ∉ words := by
  intro among
  have other := unlike _ among
  rw [String.toList_ofList, List.all_iff_forall_prop.2 numeric] at other
  cases other

theorem tag_of_numeric : Tag.ofText (Text.ofChars chars) = Tag.ofForm chars := by
  have noFeed : '\n' ∉ chars := fun among => absurd (numeric '\n' among) (by decide)
  have alone : chars ≠ ['\n'] := by
    rintro rfl
    exact noFeed (by simp)
  have unbroken : unbroken chars = chars :=
    if_neg fun last => noFeed (List.mem_of_getLast? last)
  rw [Tag.ofText, Text.chars?_of_chars]
  simp only [if_neg alone, unbroken]

theorem no_truth : Resolution.isTruth (String.ofList chars) = false :=
  decide_eq_false (not_word numeric (by decide))

theorem tag_float (isFloat : Resolution.isFloat chars = true) :
    Tag.ofText (Text.ofChars chars) = .float := by
  rw [tag_of_numeric numeric, Tag.ofForm, no_truth numeric, isFloat]
  rfl

theorem tag_int (noFloat : Resolution.isFloat chars = false)
    (isInt : Resolution.isInt chars = true) : Tag.ofText (Text.ofChars chars) = .int := by
  rw [tag_of_numeric numeric, Tag.ofForm, no_truth numeric, noFloat, isInt]
  rfl

end

theorem digit_ne {mark : Char} (digit : c.isDigit = true) (other : mark ∉ digitChars) :
    c ≠ mark := by
  rintro rfl
  exact other (mem_digit_chars digit)

theorem all_digits (areDigits : ∀ c ∈ digits, c.isDigit = true) :
    digits.all Resolution.isGroupedDigit = true := by
  rw [List.all_eq_true]
  intro c among
  rw [Resolution.isGroupedDigit, areDigits c among, Bool.true_or]

theorem grouped_of_digits (areDigits : ∀ c ∈ digits, c.isDigit = true) (someDigits : digits ≠ []) :
    Resolution.isGrouped digits = true := by
  cases digits with
  | nil => exact absurd rfl someDigits
  | cons c digits =>
      rw [Resolution.isGrouped, areDigits c (by simp),
        all_digits fun other among => areDigits other (by simp [among])]
      rfl

/-- Digits stay what they are where a sign would be cut off. -/
theorem drop_sign_digits (rest : List Char) (areDigits : ∀ c ∈ digits, c.isDigit = true)
    (someDigits : digits ≠ []) : Resolution.dropSign (digits ++ rest) = digits ++ rest := by
  cases digits with
  | nil => exact absurd rfl someDigits
  | cons c digits =>
      have digit := areDigits c (by simp)
      rw [List.cons_append, Resolution.dropSign]
      · exact fun _ same => digit_ne digit (by decide) (List.cons.inj same).1
      · exact fun _ same => digit_ne digit (by decide) (List.cons.inj same).1

section

variable (numeral : Numeral)

def signText (numeral : Numeral) : List Char := if numeral.negative then ['-'] else []

theorem drop_sign_signed (rest : List Char) :
    Resolution.dropSign (signText numeral ++ (numeral.whole ++ rest)) = numeral.whole ++ rest := by
  rw [signText]
  cases numeral.negative with
  | true => rfl
  | false => exact drop_sign_digits rest numeral.wholeDigits numeral.someWhole

/-- A number without a point and without an exponent. -/
theorem whole_form (noFraction : numeral.fraction = []) (noExponent : numeral.exponent = none) :
    numeral.text = signText numeral ++ (numeral.whole ++ []) := by
  simp [Numeral.text, Numeral.magnitudeText, Numeral.fractionText, Numeral.exponentText, signText,
    noFraction, noExponent]

theorem pointed_form (someFraction : numeral.fraction ≠ []) :
    numeral.text = signText numeral ++
      (numeral.whole ++ '.' :: (numeral.fraction ++ numeral.exponentText)) := by
  simp [Numeral.text, Numeral.magnitudeText, Numeral.fractionText, signText, someFraction]

theorem is_int_whole (noFraction : numeral.fraction = []) (noExponent : numeral.exponent = none) :
    Resolution.isInt numeral.text = true := by
  rw [whole_form numeral noFraction noExponent, Resolution.isInt, drop_sign_signed,
    List.append_nil]
  have grouped := grouped_of_digits numeral.wholeDigits numeral.someWhole
  have alone := numeral.noNeedlessZero
  have areDigits := numeral.wholeDigits
  cases whole : numeral.whole with
  | nil => exact absurd whole numeral.someWhole
  | cons c others =>
      rw [whole] at grouped alone areDigits
      by_cases zero : c = '0'
      · subst zero
        rw [alone rfl]
        rfl
      · have nonzero : Resolution.startsNonzero (c :: others) = true := by
          simp [Resolution.startsNonzero, areDigits c (by simp), zero]
        split
        · exact absurd (List.cons.inj ‹_›).1 zero
        · exact absurd (List.cons.inj ‹_›).1 zero
        · rfl
        · exact absurd (List.cons.inj ‹_›).1 zero
        · rw [nonzero, grouped]
          rfl

theorem sign_numeric : ∀ c ∈ signText numeral, c ∈ numeralChars ∧ c ≠ '.' := by
  intro c among
  rw [signText] at among
  split at among
  · rw [List.mem_singleton.1 among]
    decide
  · cases among

theorem whole_numeric : ∀ c ∈ numeral.whole, c ∈ numeralChars ∧ c ≠ '.' := fun c among =>
  ⟨mem_numeral_chars (numeral.wholeDigits c among),
    digit_ne (numeral.wholeDigits c among) (by decide)⟩

theorem not_float_whole (noFraction : numeral.fraction = [])
    (noExponent : numeral.exponent = none) : Resolution.isFloat numeral.text = false := by
  have form := whole_form numeral noFraction noExponent
  have noPoint : numeral.text.contains '.' = false := by
    rw [Bool.eq_false_iff]
    intro among
    rw [List.contains_iff_mem, form, List.append_nil, List.mem_append] at among
    rcases among with sign | whole
    · exact (sign_numeric numeral '.' sign).2 rfl
    · exact (whole_numeric numeral '.' whole).2 rfl
  have noInfinity :
      String.ofList (Resolution.dropSign numeral.text) ∉ [".inf", ".Inf", ".INF"] := by
    rw [form, drop_sign_signed, List.append_nil]
    exact not_word (fun c among => (whole_numeric numeral c among).1) (by decide)
  have noNan : String.ofList numeral.text ∉ [".nan", ".NaN", ".NAN"] :=
    not_word (numeral_text_chars numeral) (by decide)
  simp only [Resolution.isFloat, Resolution.isPointed, Resolution.isPointedSexagesimal, noPoint,
    Bool.false_and, decide_eq_false noInfinity, decide_eq_false noNan, Bool.or_self]

theorem split_at_point (after before : List Char) (noPoint : ∀ c ∈ before, c ≠ '.') :
    Resolution.beforePoint (before ++ '.' :: after) = before ∧
      Resolution.afterPoint (before ++ '.' :: after) = after := by
  have holds : ∀ c ∈ before, decide (c ≠ '.') = true := by simpa using noPoint
  rw [Resolution.beforePoint, Resolution.afterPoint, List.takeWhile_append_of_pos holds,
    List.dropWhile_append_of_pos holds]
  simp

/-- A portable exponent has its sign, and digits after it. -/
theorem exponent_form (portable : numeral.IsPortable) :
    Resolution.isExponent numeral.exponentText = true ∧
      numeral.exponentText.dropWhile Resolution.isGroupedDigit = numeral.exponentText := by
  rw [Numeral.exponentText]
  cases present : numeral.exponent with
  | none => exact ⟨rfl, rfl⟩
  | some exponent =>
      obtain ⟨_, signed⟩ := portable exponent present
      obtain ⟨letter, sign, digits, isLetter, isSign, someDigits, areDigits⟩ := exponent
      cases sign with
      | none => exact absurd rfl signed
      | some c =>
          have known := isSign c rfl
          have other : Resolution.isGroupedDigit letter = false := by
            rcases isLetter with rfl | rfl <;> rfl
          have all : digits.all Char.isDigit = true := List.all_eq_true.2 areDigits
          constructor
          · change Resolution.isExponent (letter :: c :: digits) = true
            rcases isLetter with rfl | rfl <;> rcases known with rfl | rfl <;>
              simp [Resolution.isExponent, someDigits, all]
          · change (letter :: c :: digits).dropWhile Resolution.isGroupedDigit =
              letter :: c :: digits
            rw [List.dropWhile_cons_of_neg (by simp [other])]

theorem is_float_pointed (portable : numeral.IsPortable) (someFraction : numeral.fraction ≠ []) :
    Resolution.isFloat numeral.text = true := by
  have form := pointed_form numeral someFraction
  rw [← List.append_assoc] at form
  obtain ⟨before, after⟩ := split_at_point (numeral.fraction ++ numeral.exponentText)
    (signText numeral ++ numeral.whole) fun c among => by
      rcases List.mem_append.1 among with sign | whole
      · exact (sign_numeric numeral c sign).2
      · exact (whole_numeric numeral c whole).2
  obtain ⟨isExponent, stops⟩ := exponent_form numeral portable
  have fractionHolds : ∀ c ∈ numeral.fraction, Resolution.isGroupedDigit c = true :=
    List.all_eq_true.1 (all_digits numeral.fractionDigits)
  have tail : (numeral.fraction ++ numeral.exponentText).dropWhile Resolution.isGroupedDigit =
      numeral.exponentText := by
    rw [List.dropWhile_append_of_pos fractionHolds, stops]
  have unsigned : Resolution.dropSign (signText numeral ++ numeral.whole) = numeral.whole := by
    have dropped := drop_sign_signed numeral []
    rwa [List.append_nil] at dropped
  have grouped := grouped_of_digits numeral.wholeDigits numeral.someWhole
  have pointed : Resolution.isPointed numeral.text = true := by
    rw [form, Resolution.isPointed, before, after]
    simp only [tail, isExponent, unsigned, grouped]
    simp
  rw [Resolution.isFloat, pointed]
  rfl

end

end Stubwright.Yaml
