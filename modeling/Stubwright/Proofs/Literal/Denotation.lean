import Stubwright.Proofs.Literal.Accepted
import Stubwright.Proofs.Literal.Evaluator
import Stubwright.Proofs.Literal.Scalar

/-!
Texts of code that come to a value of the script: the constants, the numerals and the quoted texts.
A numeral of a number that has not got 64 bits comes to a float.
-/

namespace Stubwright.Literal

open Decimal Script

/-- What evaluating owes to the tokens of a literal: it takes exactly these. -/
structure Evaluates (found : List Text) (datum : Datum) : Prop where
  opens : ∃ first rest, found = first :: rest ∧ first ≠ closing
  evaluates : ∀ room suffix, 2 * found.length ≤ room → suffix.head? ≠ some minus →
    evaluateWithin room (found ++ suffix) = some (datum, suffix)

def Denotes (text : Text) (datum : Datum) : Prop :=
  ∃ found, Lexes text found ∧ (datum.fits = true → Evaluates found datum)

theorem evaluate_scalar_of_signed {found rest : List Text} {datum : Datum}
    (signed : evaluateSigned found = some (datum, rest)) (noMinus : rest.head? ≠ some minus) :
    evaluateScalar found = some (datum, rest) := by
  rw [evaluateScalar, signed]
  split
  · rename_i same
    obtain ⟨_, rfl⟩ := Prod.mk.inj (Option.some.inj same)
    exact absurd rfl noMinus
  · rfl

theorem scalar_difference {found suffix : List Text} {token : Text} {left right : Int}
    (signed : evaluateSigned found = some (.int left, minus :: token :: suffix))
    (numeral : numeral? token = some (.int right)) (sized : isWordSized (left - right) = true) :
    evaluateScalar found = some (.int (left - right), suffix) := by
  have whole : wholeNumber? (left - right) = some (.int (left - right)) := if_pos sized
  rw [evaluateScalar, signed]
  simp only [numeral, whole]
  rfl

def otherOpenings : Text := "[]-'\""

section

variable {first : CodePoint} {rest : Text}
  (plain : first ∉ otherOpenings)
include plain

theorem token_ne {mark : CodePoint} (among : mark ∈ otherOpenings) (more : Text) :
    first :: rest ≠ mark :: more := by
  intro same
  exact plain ((List.cons.inj same).1 ▸ among)

theorem quotation_none : quotation? (first :: rest) = none := by
  unfold quotation?
  split
  · rename_i same
    exact absurd same (token_ne plain (by decide) _)
  · rename_i same
    exact absurd same (token_ne plain (by decide) _)
  · rfl

theorem signed_operand {datum : Datum} (operand : operand? (first :: rest) = some datum)
    (suffix : List Text) :
    evaluateSigned ((first :: rest) :: suffix) = some (datum, suffix) := by
  unfold evaluateSigned
  split
  · rename_i same
    exact absurd (List.cons.inj same).1 (token_ne plain (by decide) _)
  · rename_i same
    obtain ⟨rfl, rfl⟩ := List.cons.inj same
    rw [operand]
    rfl
  · rename_i same
    cases same

theorem evaluates_operand {datum : Datum} (operand : operand? (first :: rest) = some datum) :
    Evaluates [first :: rest] datum := by
  refine ⟨⟨_, _, rfl, token_ne plain (by decide) _⟩, ?_⟩
  intro room suffix enough noMinus
  obtain ⟨less, rfl⟩ := Nat.exists_eq_add_one.2 (Nat.lt_of_lt_of_le (by simp) enough)
  have unbracketed : first :: rest ≠ opening := token_ne plain (by decide) []
  rw [List.singleton_append, evaluateWithin, if_neg unbracketed, quotation_none plain]
  exact evaluate_scalar_of_signed (signed_operand plain operand suffix) noMinus

omit plain in
theorem signed_opposite {token : Text} {datum negative : Datum}
    (operand : operand? token = some datum) (opposite : opposite? datum = some negative)
    (suffix : List Text) : evaluateSigned (minus :: token :: suffix) = some (negative, suffix) := by
  change (operand? token).bind _ = _
  rw [operand, Option.bind_some]
  change (opposite? datum).bind _ = _
  rw [opposite]
  rfl

omit plain in
theorem evaluates_opposite {token : Text} {datum negative : Datum}
    (operand : operand? token = some datum) (opposite : opposite? datum = some negative) :
    Evaluates [minus, token] negative := by
  refine ⟨⟨_, _, rfl, by decide⟩, ?_⟩
  intro room suffix enough noMinus
  obtain ⟨less, rfl⟩ := Nat.exists_eq_add_one.2 (Nat.lt_of_lt_of_le (by simp) enough)
  have signed := signed_opposite operand opposite suffix
  rw [List.cons_append, List.singleton_append, evaluateWithin, if_neg (by decide)]
  exact evaluate_scalar_of_signed signed noMinus

end

/-- An operand is one token, and with a sign in front it is another operand. -/
theorem denotes_operand {first : CodePoint} {rest : Text} {mode : Mode} {datum : Datum}
    (plain : first ∉ otherOpenings) (noMark : first ∉ markPoints)
    (ran : run .idle (first :: rest) = ([], mode)) (code : mode.isCode = true)
    (pending : mode.pending = [first :: rest])
    (operand : datum.fits = true → operand? (first :: rest) = some datum) :
    Denotes (first :: rest) datum ∧
      ∀ negative, (negative.fits = true → datum.fits = true ∧ opposite? datum = some negative) →
        Denotes (.char '-' :: first :: rest) negative := by
  have signed : run .idle (.char '-' :: first :: rest) = ([minus], mode) := by
    have opened : step .idle '-' = ([], .mark "-") := by decide
    rw [run_cons, opened, run_mark rest (by decide) (by decide) noMark, ran]
    rfl
  constructor
  · refine ⟨[first :: rest], ⟨?_, ?_⟩, fun fits => evaluates_operand plain (operand fits)⟩
    · rw [ran]
      exact code
    · rw [tokens, ran, pending]
      rfl
  · intro negative opposite
    refine ⟨[minus, first :: rest], ⟨?_, ?_⟩, ?_⟩
    · rw [signed]
      exact code
    · rw [tokens, signed, pending]
      rfl
    · intro fits
      obtain ⟨datumFits, isOpposite⟩ := opposite fits
      exact evaluates_opposite (operand datumFits) isOpposite

theorem denotes_constant {first : CodePoint} {rest : Text} {datum : Datum}
    (starts : isWordStart first = true) (letters : ∀ point ∈ rest, isWordPoint point = true)
    (operand : operand? (first :: rest) = some datum) :
    Denotes (first :: rest) datum ∧
      ∀ negative, opposite? datum = some negative → datum.fits = true →
        Denotes (.char '-' :: first :: rest) negative := by
  have plain : first ∉ otherOpenings := not_mem_of_apart starts (by decide)
  have noMark : first ∉ markPoints := not_mem_of_apart starts (by decide)
  have both := denotes_operand plain noMark
    (run_word (.inl starts) fun point member => .inl (letters point member)) rfl rfl
    fun _ => operand
  exact ⟨both.1, fun negative opposite fits => both.2 negative fun _ => ⟨fits, opposite⟩⟩

theorem denotes_null : Denotes "null" .null :=
  (denotes_constant rfl (by decide) rfl).1

theorem denotes_bool (truth : Bool) :
    Denotes (if truth then "true" else "false") (.bool truth) := by
  cases truth with
  | false => exact (denotes_constant rfl (by decide) rfl).1
  | true => exact (denotes_constant rfl (by decide) rfl).1

theorem denotes_infinite (negative : Bool) :
    Denotes (if negative then "-INF" else "INF") (.float (.infinite negative)) := by
  have both := @denotes_constant (.char 'I') [.char 'N', .char 'F'] (.float (.infinite false)) rfl
    (by decide) rfl
  cases negative with
  | false => exact both.1
  | true => exact both.2 _ rfl rfl

/-- A numeral is one token, whatever it comes to. -/
theorem denotes_number {first : Char} {rest : Text} {datum : Datum}
    (isDigit : first.isDigit = true)
    (ran : run (.number [.char first]) rest = ([], .number (.char first :: rest)))
    (operand : datum.fits = true → operand? (.char first :: rest) = some datum) :
    Denotes (.char first :: rest) datum ∧
      ∀ negative, (negative.fits = true → datum.fits = true ∧ opposite? datum = some negative) →
        Denotes (.char '-' :: .char first :: rest) negative := by
  have digit : (CodePoint.char first).isIn Char.isDigit = true := isDigit
  have plain : CodePoint.char first ∉ otherOpenings := not_mem_of_apart digit (by decide)
  have noMark : CodePoint.char first ∉ markPoints := not_mem_of_apart digit (by decide)
  have whole : run .idle (.char first :: rest) = ([], .number (.char first :: rest)) := by
    rw [run_cons, step, start_digit isDigit, ran]
    rfl
  exact denotes_operand plain noMark whole rfl rfl operand

theorem nothing_ends_number : EndsNumber [] := nofun

theorem numeral_whole (number : Nat) :
    numeral? (Text.ofChars (Nat.toDigits 10 number)) =
      some (if isWordSized number then .int number
        else .float (Double.ofDecimal false number 0)) := by
  have read := read_number_whole number [] nothing_ends_number
  rw [List.append_nil] at read
  rw [numeral?, read]
  rfl

theorem numeral_sized (number : Nat) (sized : isWordSized number = true) :
    numeral? (Text.ofChars (Nat.toDigits 10 number)) = some (.int number) := by
  rw [numeral_whole, if_pos sized]

theorem operand_of_numeral {token : Text} {datum : Datum} (numeral : numeral? token = some datum) :
    operand? token = some datum := by
  rw [operand?, numeral]
  rfl

/-- The decimal numeral of a whole number, whatever it comes to. -/
theorem denotes_digits (number : Nat) (datum : Datum) (operand : datum.fits = true →
      operand? (Text.ofChars (Nat.toDigits 10 number)) = some datum) :
    Denotes (Text.ofChars (Nat.toDigits 10 number)) datum ∧
      ∀ negative, (negative.fits = true → datum.fits = true ∧ opposite? datum = some negative) →
        Denotes (.char '-' :: Text.ofChars (Nat.toDigits 10 number)) negative := by
  have areDigits := digits_are_digits number
  obtain ⟨first, rest, digits⟩ :=
    List.exists_cons_of_ne_nil (Nat.toDigits_ne_nil : Nat.toDigits 10 number ≠ [])
  rw [digits] at areDigits operand ⊢
  have ran : run (.number [.char first]) (Text.ofChars rest) =
      ([], .number (.char first :: Text.ofChars rest)) := by
    apply run_number_points
    intro point member
    obtain ⟨c, among, rfl⟩ := List.mem_map.1 member
    exact .inl (by simp [isWordPoint, CodePoint.isIn, areDigits c (by simp [among])])
  exact denotes_number (areDigits first (by simp)) ran operand

theorem denotes_whole (number : Nat) :
    Denotes (Text.ofChars (Nat.toDigits 10 number)) (.int number) ∧
      (-(number : Int) ≠ leastInt →
        Denotes (.char '-' :: Text.ofChars (Nat.toDigits 10 number)) (.int (-number))) := by
  have both := denotes_digits number (.int number) fun fits =>
    operand_of_numeral (numeral_sized number fits)
  refine ⟨both.1, fun other => both.2 _ fun fits => ?_⟩
  have bounds : leastInt ≤ -(number : Int) ∧ -(number : Int) ≤ greatestInt := by
    simpa [Datum.fits, isWordSized] using fits
  refine ⟨?_, ?_⟩
  · have least : leastInt = -9223372036854775808 := rfl
    have greatest : greatestInt = 9223372036854775807 := rfl
    simp only [Datum.fits, isWordSized, Bool.and_eq_true, decide_eq_true_eq]
    omega
  · have sized : isWordSized (-(number : Int)) = true := fits
    rw [opposite?, wholeNumber?, if_pos sized]

/-- The numeral of a number that has not got 64 bits is one of a float. -/
theorem denotes_wide (number : Nat) (wide : isWordSized number = false) :
    Denotes (Text.ofChars (Nat.toDigits 10 number))
      (.float (Double.ofDecimal false number 0)) := by
  refine (denotes_digits number _ fun _ => operand_of_numeral ?_).1
  rw [numeral_whole, wide]
  rfl

/-- The least number is a difference of two numbers of 64 bits. -/
theorem denotes_least_int : Denotes "-9223372036854775807-1" (.int leastInt) := by
  refine ⟨[minus, "9223372036854775807", minus, "1"], ⟨by decide, by decide⟩, fun _ => ?_⟩
  refine ⟨⟨_, _, rfl, by decide⟩, ?_⟩
  intro room suffix enough noMinus
  obtain ⟨less, rfl⟩ := Nat.exists_eq_add_one.2 (Nat.lt_of_lt_of_le (by simp) enough)
  have left : operand? "9223372036854775807" = some (.int 9223372036854775807) :=
    operand_of_numeral (numeral_sized 9223372036854775807 (by decide))
  have right : numeral? "1" = some (.int 1) := numeral_sized 1 (by decide)
  have signed := signed_opposite left rfl (minus :: "1" :: suffix)
  rw [List.cons_append, List.cons_append, List.cons_append, List.singleton_append, evaluateWithin,
    if_neg (by decide)]
  exact scalar_difference signed right (by decide)

theorem denotes_int (number : Int) (text : Text) (accepted : ofInt number = .ok text) :
    Denotes text (.int number) := by
  rw [ofInt] at accepted
  split at accepted
  · rename_i least
    rw [← Except.ok.inj accepted, least]
    exact denotes_least_int
  · rename_i notLeast
    split at accepted
    · cases accepted
    · rw [← Except.ok.inj accepted]
      cases number with
      | ofNat number =>
          rw [Int.ofNat_eq_natCast, of_int_of_nat]
          exact (denotes_whole number).1
      | negSucc number =>
          rw [of_int_neg_succ]
          exact (denotes_whole (number + 1)).2 notLeast

/-- An exponent with its sign belongs to the number before it, unless that is hexadecimal. -/
theorem run_exponent (text : Text) (decimal : .char 'x' ∉ text ∧ .char 'X' ∉ text)
    (exponent : Option (Bool × List Char))
    (areDigits : ∀ known, exponent = some known → ∀ c ∈ known.2, c.isDigit = true) :
    run (.number text) (Text.ofChars (Parts.exponentText exponent)) =
      ([], .number (text ++ Text.ofChars (Parts.exponentText exponent))) := by
  match exponent with
  | none => rw [Parts.exponentText, Text.ofChars, List.map_nil, List.append_nil]; rfl
  | some (negative, digits) =>
      have marked : step (.number text) 'e' = ([], .number (text ++ [.char 'e'])) := rfl
      have signed : ∀ sign ∈ (['-', '+'] : List Char),
          step (.number (text ++ [.char 'e'])) (.char sign) =
            ([], .number (text ++ [.char 'e'] ++ [.char sign])) := by
        intro sign isSign
        have goesOn : extendsNumber (text ++ [.char 'e']) (.char sign) = true := by
          simp only [List.mem_cons, List.not_mem_nil, or_false] at isSign
          rcases isSign with rfl | rfl <;> simp [extendsNumber, decimal.1, decimal.2]
        exact if_pos goesOn
      have counted := run_number_points
        (text ++ [.char 'e'] ++ [.char (if negative then '-' else '+')]) (Text.ofChars digits) (by
          intro point member
          obtain ⟨c, among, rfl⟩ := List.mem_map.1 member
          exact .inl (by simp [isWordPoint, CodePoint.isIn, areDigits _ rfl c among]))
      have taken := signed (if negative then '-' else '+') (by cases negative <;> decide)
      change run (.number text) (.char 'e' :: .char (if negative then '-' else '+') ::
        Text.ofChars digits) = _
      rw [run_cons, marked, run_cons, taken, counted]
      simp [Parts.exponentText, Text.ofChars]

/-- Before its exponent a number has digits and the point, and nothing else. -/
theorem digit_or_point {parts : Parts} (isDecimal : parts.IsDecimal) :
    ∀ c ∈ parts.whole ++ Parts.fractionText parts.fraction, c.isDigit = true ∨ c = '.' := by
  intro c member
  rcases List.mem_append.1 member with inWhole | inFraction
  · exact .inl (isDecimal.whole_digits c inWhole)
  · have fractionDigits := isDecimal.fraction_digits
    cases fraction : parts.fraction with
    | none =>
        rw [fraction] at inFraction
        cases inFraction
    | some digits =>
        rw [fraction] at inFraction fractionDigits
        rcases List.mem_cons.1 inFraction with point | among
        · exact .inr point
        · exact .inl (fractionDigits c among)

/-- From its first digit on, a number is one token: its exponent belongs to it, since no letter
stands before that. -/
theorem run_decimal {parts : Parts} (isDecimal : parts.IsDecimal) {first : Char} {rest : List Char}
    (whole : parts.whole = first :: rest) :
    run (.number [.char first]) (Text.ofChars (rest ++ Parts.fractionText parts.fraction) ++
        Text.ofChars (Parts.exponentText parts.exponent)) =
      ([], .number (.char first :: (Text.ofChars (rest ++ Parts.fractionText parts.fraction) ++
        Text.ofChars (Parts.exponentText parts.exponent)))) := by
  have pointed := digit_or_point isDecimal
  rw [whole, List.cons_append] at pointed
  have points := run_number_points [.char first]
    (Text.ofChars (rest ++ Parts.fractionText parts.fraction)) (by
      intro point member
      obtain ⟨c, among, rfl⟩ := List.mem_map.1 member
      rcases pointed c (List.mem_cons_of_mem _ among) with isDigit | rfl
      · exact .inl (by simp [isWordPoint, CodePoint.isIn, isDigit])
      · exact .inr rfl)
  have decimal : ∀ mark : Char, mark.isDigit = false → mark ≠ '.' → .char mark ∉
      [.char first] ++ Text.ofChars (rest ++ Parts.fractionText parts.fraction) := by
    intro mark noDigit noPoint member
    change .char mark ∈ Text.ofChars (first :: (rest ++ Parts.fractionText parts.fraction)) at member
    obtain ⟨c, among, same⟩ := List.mem_map.1 member
    rw [CodePoint.char.inj same] at among
    rcases pointed mark among with isDigit | isPoint
    · exact Bool.false_ne_true (noDigit.symm.trans isDigit)
    · exact noPoint isPoint
  have exponent := run_exponent _ ⟨decimal 'x' rfl (by decide), decimal 'X' rfl (by decide)⟩
    parts.exponent fun known same => (isDecimal.exponent_digits known same).2
  rw [run_append_of points, exponent, List.append_assoc]
  rfl

theorem denotes_decimal {parts : Parts} (isDecimal : parts.IsDecimal) :
    Denotes (Text.ofChars parts.text) (.float parts.value) ∧
      Denotes (.char '-' :: Text.ofChars parts.text) (.float parts.value.negate) := by
  have read := read_number_decimal isDecimal [] nothing_ends_number
  rw [List.append_nil] at read
  have operand : operand? (Text.ofChars parts.text) = some (.float parts.value) := by
    apply operand_of_numeral
    rw [numeral?, read]
  obtain ⟨first, rest, whole⟩ := List.exists_cons_of_ne_nil isDecimal.whole_nonempty
  have split : Text.ofChars parts.text = .char first ::
      (Text.ofChars (rest ++ Parts.fractionText parts.fraction) ++
        Text.ofChars (Parts.exponentText parts.exponent)) := by
    simp [Parts.text, whole, Text.ofChars]
  have isDigit := isDecimal.whole_digits first (by simp [whole])
  rw [split] at operand ⊢
  have both := denotes_number isDigit (run_decimal isDecimal whole) fun _ => operand
  exact ⟨both.1, both.2 _ fun _ => ⟨rfl, rfl⟩⟩

theorem denotes_double (number : Double) : Denotes (ofDouble number) (.float number) := by
  cases number with
  | nan => exact (denotes_constant rfl (by decide) rfl).1
  | infinite negative => exact denotes_infinite negative
  | finite negative rank =>
      obtain ⟨parts, isDecimal, value, text⟩ := finite_text_sets_out negative rank
      have finite : Double.ofRank false rank = .finite false rank := dif_pos rank.isLt
      have both := denotes_decimal isDecimal
      rw [value, finite] at both
      change Denotes (Text.ofChars (finiteText negative rank)) _
      rw [text]
      cases negative with
      | false => exact both.1
      | true => exact both.2

theorem run_quoted_escaped (text before : Text) :
    run (.quoted (.char '\'' :: before) false) (text.flatMap escapePoint) =
      ([], .quoted (.char '\'' :: (before ++ text.flatMap escapePoint)) false) := by
  induction text generalizing before with
  | nil => rw [List.flatMap_nil, List.append_nil]; rfl
  | cons point text ih =>
      have escaped : run (.quoted (.char '\'' :: before) false) (escapePoint point) =
          ([], .quoted (.char '\'' :: (before ++ escapePoint point)) false) := by
        by_cases backslash : point = .char '\\'
        · subst backslash
          simp [escapePoint, run, step, stepQuoted, Text.ofString, Text.ofChars]
        by_cases quote : point = .char '\''
        · subst quote
          simp [escapePoint, run, step, stepQuoted, Text.ofString, Text.ofChars]
        · have plain : escapePoint point = [point] := by
            rw [escapePoint, if_neg backslash, if_neg quote]
          simp [plain, run, step, stepQuoted, backslash, Ne.symm quote]
      rw [List.flatMap_cons, run_append_of escaped, ih, List.append_assoc]
      rfl

theorem denotes_text (content : Text) : Denotes (ofText content) (.text content) := by
  have written : ofText content =
      .char '\'' :: (content.flatMap escapePoint ++ [.char '\'']) := by
    simp [ofText, Text.ofString, Text.ofChars]
  have opened : step .idle '\'' = ([], .quoted [.char '\''] false) := by decide
  have closed : ∀ before : Text, step (.quoted (.char '\'' :: before) false) '\'' =
      ([.char '\'' :: (before ++ [.char '\''])], .idle) := fun before => rfl
  have ran : run .idle (ofText content) = ([ofText content], .idle) := by
    rw [written, run_cons, opened, run_append_of (run_quoted_escaped content []), run_cons, closed]
    rfl
  refine ⟨[ofText content], ⟨?_, ?_⟩, fun _ => ⟨⟨_, _, rfl, ?_⟩, ?_⟩⟩
  · rw [ran]
    rfl
  · rw [tokens, ran]
    rfl
  · rw [written]
    exact fun same => absurd (List.cons.inj same).1 (by decide)
  · intro room suffix enough noMinus
    obtain ⟨less, rfl⟩ := Nat.exists_eq_add_one.2 (Nat.lt_of_lt_of_le (by simp) enough)
    have unbracketed : ofText content ≠ opening := by
      rw [written]
      exact fun same => absurd (List.cons.inj same).1 (by decide)
    have quotation : quotation? (ofText content) = some content := by
      rw [written, quotation?, read_quoted_escaped]
    rw [List.singleton_append, evaluateWithin, if_neg unbracketed, quotation]

end Stubwright.Literal
