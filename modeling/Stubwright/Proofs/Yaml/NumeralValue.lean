import Mathlib.Data.List.TakeWhile
import Stubwright.Proofs.Yaml.NumeralForm

/-!
A portable number has the same value as a plain scalar: both readers find the same digits, the same
power and the same sign.
-/

namespace Stubwright.Yaml

open Decimal Json

variable {c : Char} {digits : List Char}

theorem replaced_of_chars (chars : List Char) : Text.replaced (Text.ofChars chars) = chars := by
  simp [Text.replaced, Text.ofChars, Function.comp_def, CodePoint.char?]

section

variable {chars : List Char} (numeric : ∀ c ∈ chars, c ∈ numeralChars)
include numeric

theorem no_underscores : Scalar.withoutUnderscores (Text.ofChars chars) = Text.ofChars chars := by
  rw [Scalar.withoutUnderscores, List.filter_eq_self]
  intro point among
  obtain ⟨c, inChars, rfl⟩ := List.mem_map.1 among
  have other : c ≠ '_' := by
    rintro rfl
    exact absurd (numeric '_' inChars) (by decide)
  simpa using other

theorem no_margin : Text.trim isMargin chars = chars := by
  have clean : ∀ c ∈ numeralChars, isMargin c = false :=
    List.all_iff_forall_prop.1 (by decide)
  exact Text.trim_of_none isMargin chars fun c among => clean c (numeric c among)

theorem no_colon : (Text.ofChars chars).contains (CodePoint.char ':') = false := by
  rw [Bool.eq_false_iff]
  intro among
  rw [List.contains_iff_mem] at among
  obtain ⟨c, inChars, same⟩ := List.mem_map.1 among
  cases same
  exact absurd (numeric ':' inChars) (by decide)

end

section

variable (areDigits : ∀ c ∈ digits, c.isDigit = true) (someDigits : digits ≠ [])
include areDigits someDigits

theorem take_sign_digits (rest : List Char) :
    Decimal.takeSign (digits ++ rest) = (false, digits ++ rest) := by
  cases digits with
  | nil => exact absurd rfl someDigits
  | cons c digits => exact take_sign_digit (areDigits c (by simp))

theorem take_text_sign_digits (rest : List Char) :
    Scalar.takeSign (Text.ofChars (digits ++ rest)) = (false, Text.ofChars (digits ++ rest)) := by
  cases digits with
  | nil => exact absurd rfl someDigits
  | cons c digits =>
      have digit := areDigits c (by simp)
      change Scalar.takeSign (.char c :: Text.ofChars (digits ++ rest)) = _
      rw [Scalar.takeSign]
      · rfl
      · exact fun _ same => digit_ne digit (by decide) (CodePoint.char.inj (List.cons.inj same).1)
      · exact fun _ same => digit_ne digit (by decide) (CodePoint.char.inj (List.cons.inj same).1)

theorem read_decimal_digits (short : digits.length ≤ mostDigits) :
    Scalar.readIn 10 (Text.ofChars digits) = .ok (decimalValue digits : Int) := by
  have numeric : ∀ c ∈ digits, c ∈ numeralChars :=
    fun c among => mem_numeral_chars (areDigits c among)
  have unsigned := take_sign_digits areDigits someDigits []
  rw [List.append_nil] at unsigned
  have leading : Scalar.leadingDigits (Text.ofChars digits) = digits := by
    rw [Scalar.leadingDigits, replaced_of_chars, no_margin numeric, unsigned]
    have known : ∀ c ∈ digits, (Text.digitValue? c).isSome = true := fun c among => by
      rw [decimal_digit_value c (mem_digit_chars (areDigits c among))]
      rfl
    exact List.takeWhile_eq_self_iff.2 known
  have read : readInt? 10 digits = some (decimalValue digits : Int) := by
    rw [readInt?, no_margin numeric, unsigned]
    dsimp only
    rw [if_neg (by decide), if_neg (by decide), if_neg (by decide),
      grouped_digits base_digit_value areDigits someDigits]
    rfl
  rw [Scalar.readIn, leading, replaced_of_chars, read]
  simp only
  rw [if_neg]
  simpa using short

end

section

variable (numeral : Numeral)

theorem take_text_sign (rest : List Char) :
    Scalar.takeSign (Text.ofChars (signText numeral ++ (numeral.whole ++ rest))) =
      (numeral.negative, Text.ofChars (numeral.whole ++ rest)) := by
  rw [signText]
  cases numeral.negative with
  | true => rfl
  | false => exact take_text_sign_digits numeral.wholeDigits numeral.someWhole rest

theorem value_whole (noFraction : numeral.fraction = []) (noExponent : numeral.exponent = none) :
    numeral.value = .int
      (if numeral.negative then -(decimalValue numeral.whole : Int)
        else decimalValue numeral.whole) := by
  rw [Numeral.value, if_pos ⟨noFraction, noExponent⟩, Numeral.digits, noFraction, List.append_nil]
  rfl

theorem int_whole (noFraction : numeral.fraction = []) (noExponent : numeral.exponent = none) :
    Scalar.int (Text.ofChars numeral.text) = .ok numeral.value := by
  have read := read_decimal_digits numeral.wholeDigits numeral.someWhole
    (numeral.short noFraction noExponent)
  have someText : (Text.ofChars numeral.text).isEmpty = false := by
    obtain ⟨c, others, _, text | text⟩ := numeral.exists_text <;> rw [text] <;> rfl
  have noColon := no_colon fun c among => (whole_numeric numeral c among).1
  have signed := take_text_sign numeral []
  rw [← whole_form numeral noFraction noExponent, List.append_nil] at signed
  rw [value_whole numeral noFraction noExponent, Scalar.int,
    no_underscores (numeral_text_chars numeral), someText, signed]
  simp only [Bool.false_eq_true, if_false]
  cases whole : numeral.whole with
  | nil => exact absurd whole numeral.someWhole
  | cons c others =>
      by_cases zero : c = '0'
      · subst zero
        have alone := numeral.noNeedlessZero (by rw [whole]; rfl)
        rw [whole] at alone
        rw [alone]
        rfl
      · rw [whole] at read noColon
        have other : CodePoint.char c ≠ .char '0' := fun same => zero (CodePoint.char.inj same)
        split
        · rename_i nothing
          cases nothing
        · exact absurd (List.cons.inj ‹_›).1 other
        · exact absurd (List.cons.inj ‹_›).1 other
        · exact absurd (List.cons.inj ‹_›).1 other
        · exact absurd (List.cons.inj ‹_›).1 other
        · rw [noColon, read]
          rfl

def loweredExponent (numeral : Numeral) : List Char :=
  match numeral.exponent with
  | none => []
  | some exponent => 'e' :: (exponent.sign.toList ++ exponent.digits)

theorem lower_digits (areDigits : ∀ c ∈ digits, c.isDigit = true) :
    digits.map Char.toLower = digits := by
  have known : ∀ c ∈ digitChars, c.toLower = c := List.all_iff_forall_prop.1 (by decide)
  rw [List.map_congr_left fun c among => known c (mem_digit_chars (areDigits c among)),
    List.map_id']

theorem lower_text (someFraction : numeral.fraction ≠ []) :
    numeral.text.map Char.toLower = signText numeral ++
      (numeral.whole ++ '.' :: (numeral.fraction ++ loweredExponent numeral)) := by
  have sign : (signText numeral).map Char.toLower = signText numeral := by
    rw [signText]
    split <;> rfl
  have exponent : numeral.exponentText.map Char.toLower = loweredExponent numeral := by
    rw [Numeral.exponentText, loweredExponent]
    cases numeral.exponent with
    | none => rfl
    | some exponent =>
        have letter : exponent.letter.toLower = 'e' := by
          rcases exponent.isLetter with same | same <;> rw [same] <;> rfl
        have signed : exponent.sign.toList.map Char.toLower = exponent.sign.toList := by
          cases present : exponent.sign with
          | none => rfl
          | some c => rcases exponent.isSign c present with rfl | rfl <;> rfl
        simp [Exponent.text, letter, signed, lower_digits exponent.areDigits]
  rw [pointed_form numeral someFraction]
  simp only [List.map_append, List.map_cons, sign, exponent, lower_digits numeral.wholeDigits,
    lower_digits numeral.fractionDigits]
  rfl

theorem read_exponent : (match loweredExponent numeral with
    | [] => some 0
    | _ :: power =>
        (groupedDigits? Text.digitValue? (Decimal.takeSign power).2).map fun values =>
          signed (Decimal.takeSign power).1 (ofDigitValues 10 values)) = some numeral.power := by
  rw [loweredExponent, Numeral.power]
  cases numeral.exponent with
  | none => rfl
  | some exponent =>
      have unsigned := exponent.take_sign []
      rw [List.append_nil] at unsigned
      simp only [unsigned,
        grouped_digits decimal_digit_value exponent.areDigits exponent.someDigits]
      rfl

theorem split_at_exponent :
    let text := numeral.whole ++ '.' :: (numeral.fraction ++ loweredExponent numeral)
    let goesOn (c : Char) : Bool := c ≠ 'e' && c ≠ 'E'
    text.takeWhile goesOn = numeral.whole ++ '.' :: numeral.fraction ∧
      text.dropWhile goesOn = loweredExponent numeral := by
  intro text goesOn
  have digit_goes_on : ∀ c ∈ digitChars, goesOn c = true :=
    List.all_iff_forall_prop.1 (by decide)
  have mantissa : ∀ c ∈ numeral.whole ++ '.' :: numeral.fraction, goesOn c = true := by
    intro c among
    rcases List.mem_append.1 among with whole | rest
    · exact digit_goes_on c (mem_digit_chars (numeral.wholeDigits c whole))
    · rcases List.mem_cons.1 rest with rfl | fraction
      · rfl
      · exact digit_goes_on c (mem_digit_chars (numeral.fractionDigits c fraction))
  have parts : text = (numeral.whole ++ '.' :: numeral.fraction) ++ loweredExponent numeral := by
    simp [text]
  have stops : (loweredExponent numeral).takeWhile goesOn = [] ∧
      (loweredExponent numeral).dropWhile goesOn = loweredExponent numeral := by
    rw [loweredExponent]
    cases numeral.exponent <;> exact ⟨rfl, rfl⟩
  rw [parts, List.takeWhile_append_of_pos mantissa, List.dropWhile_append_of_pos mantissa, stops.1,
    stops.2, List.append_nil]
  exact ⟨rfl, rfl⟩

theorem read_magnitude (someFraction : numeral.fraction ≠ []) :
    readMagnitude? false (numeral.whole ++ '.' :: (numeral.fraction ++ loweredExponent numeral)) =
      some (.ofDecimal false numeral.digits (numeral.power - numeral.fraction.length)) := by
  obtain ⟨mantissa, tail⟩ := split_at_exponent numeral
  obtain ⟨before, after⟩ := split_at_point numeral.fraction numeral.whole
    fun c among => (whole_numeric numeral c among).2
  change (numeral.whole ++ '.' :: numeral.fraction).takeWhile (· ≠ '.') = _ at before
  change ((numeral.whole ++ '.' :: numeral.fraction).dropWhile (· ≠ '.')).drop 1 = _ at after
  have whole := grouped_digits decimal_digit_value numeral.wholeDigits numeral.someWhole
  have fraction := grouped_digits decimal_digit_value numeral.fractionDigits someFraction
  have power := read_exponent numeral
  have someWhole : numeral.whole.isEmpty = false := by simpa using numeral.someWhole
  have filled : numeral.fraction.isEmpty = false := by simpa using someFraction
  have counted : (digitValues numeral.fraction).length = numeral.fraction.length :=
    List.length_map _
  have someValues : digitValues numeral.whole ≠ [] := by simpa [digitValues] using numeral.someWhole
  have digits : ofDigitValues 10 (digitValues numeral.whole ++ digitValues numeral.fraction) =
      numeral.digits := by
    rw [digitValues, digitValues, ← List.map_append]
    rfl
  simp only [readMagnitude?, mantissa, tail, before, after, optionalDigits?, someWhole, filled,
    whole, fraction]
  split
  · rename_i absent
    rw [absent] at power
    rw [← Option.some.inj power]
    simp [counted, someValues, digits]
  · rename_i letter rest present
    rw [present] at power
    dsimp only at power
    rw [power]
    simp [counted, someValues, digits]

theorem of_decimal_negate (digits : Nat) (exponent : Int) :
    (Double.ofDecimal false digits exponent).negate = Double.ofDecimal true digits exponent := by
  have ofRank (rank : Nat) : (Double.ofRank false rank).negate = Double.ofRank true rank := by
    rw [Double.ofRank, Double.ofRank]
    split <;> rfl
  simp only [Double.ofDecimal, Double.zero, Double.ofRatio]
  split
  · exact ofRank 0
  · split
    · rfl
    · split
      · exact ofRank 0
      · split <;> exact ofRank _

theorem value_pointed (someFraction : numeral.fraction ≠ []) :
    numeral.value = .float
      (.ofDecimal numeral.negative numeral.digits (numeral.power - numeral.fraction.length)) :=
  if_neg fun none => someFraction none.1

theorem lowered_numeric {chars : List Char} (numeric : ∀ c ∈ chars, c ∈ numeralChars) :
    ∀ c ∈ chars.map Char.toLower, c ∈ numeralChars := by
  have known : ∀ c ∈ numeralChars, c.toLower ∈ numeralChars :=
    List.all_iff_forall_prop.1 (by decide)
  intro c among
  obtain ⟨upper, inText, rfl⟩ := List.mem_map.1 among
  exact known upper (numeric upper inText)

theorem pointed_numeric (someFraction : numeral.fraction ≠ []) :
    ∀ c ∈ numeral.whole ++ '.' :: (numeral.fraction ++ loweredExponent numeral),
      c ∈ numeralChars := by
  have lowered := lowered_numeric (numeral_text_chars numeral)
  rw [lower_text numeral someFraction] at lowered
  exact fun c among => lowered c (List.mem_append_right _ among)

theorem read_real (someFraction : numeral.fraction ≠ []) :
    readDouble? (numeral.whole ++ '.' :: (numeral.fraction ++ loweredExponent numeral)) =
      some (.ofDecimal false numeral.digits (numeral.power - numeral.fraction.length)) := by
  have numeric := pointed_numeric numeral someFraction
  have noWord : String.ofList ((numeral.whole ++
      '.' :: (numeral.fraction ++ loweredExponent numeral)).map Char.toLower) ∉
        ["inf", "infinity", "nan"] := not_word (lowered_numeric numeric) (by decide)
  simp only [List.mem_cons, List.not_mem_nil, or_false, not_or] at noWord
  rw [readDouble?, no_margin numeric, take_sign_digits numeral.wholeDigits numeral.someWhole]
  simp only [noWord, decide_false, Bool.or_self, Bool.false_eq_true, if_false]
  exact read_magnitude numeral someFraction

theorem of_chars_ne_of_string {chars : List Char} {word : String}
    (unlike : String.ofList chars ≠ word) : Text.ofChars chars ≠ Text.ofString word := by
  intro same
  have read := congrArg Text.chars? same
  rw [Text.ofString, Text.chars?_of_chars, Text.chars?_of_chars] at read
  rw [Option.some.inj read, String.ofList_toList] at unlike
  exact unlike rfl

theorem float_pointed (someFraction : numeral.fraction ≠ []) :
    Scalar.float (Text.ofChars numeral.text) = .ok numeral.value := by
  have ascii : ∀ c ∈ numeral.text, c.toNat < 0x80 := fun c among => by
    have known : ∀ c ∈ numeralChars, c.toNat < 0x80 := List.all_iff_forall_prop.1 (by decide)
    exact known c (numeral_text_chars numeral c among)
  have lower : Text.lowercase (Text.ofChars numeral.text) =
      Text.ofChars (signText numeral ++
        (numeral.whole ++ '.' :: (numeral.fraction ++ loweredExponent numeral))) := by
    rw [Text.lowercase, Text.lowercase_after_of_ascii _ _ ascii, lower_text numeral someFraction]
  have signed := take_text_sign numeral ('.' :: (numeral.fraction ++ loweredExponent numeral))
  have noColon := no_colon (pointed_numeric numeral someFraction)
  have noWord : String.ofList
      (numeral.whole ++ '.' :: (numeral.fraction ++ loweredExponent numeral)) ∉ [".inf", ".nan"] :=
    not_word (pointed_numeric numeral someFraction) (by decide)
  simp only [List.mem_cons, List.not_mem_nil, or_false, not_or] at noWord
  have someText : (Text.ofChars (signText numeral ++ (numeral.whole ++
      '.' :: (numeral.fraction ++ loweredExponent numeral)))).isEmpty = false := by
    simp [Text.ofChars]
  have read := read_real numeral someFraction
  rw [Scalar.float, no_underscores (numeral_text_chars numeral), lower, signed]
  simp only [someText, of_chars_ne_of_string noWord.1, of_chars_ne_of_string noWord.2, noColon,
    Scalar.readReal, replaced_of_chars, read, Bool.false_eq_true, if_false]
  rw [value_pointed numeral someFraction]
  cases numeral.negative with
  | true => simp [bind, Except.bind, pure, Except.pure, of_decimal_negate]
  | false => simp [bind, Except.bind, pure, Except.pure]

end

end Stubwright.Yaml
