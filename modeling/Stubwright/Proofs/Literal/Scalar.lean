import Stubwright.Literal
import Stubwright.Proofs.Literal.Number

/-!
Constants, numbers and texts read back: whatever may follow a literal, the reader takes exactly the
text that was written for the value.
-/

namespace Stubwright.Literal

open Decimal Script

theorem read_quoted_escaped (text suffix : Text) :
    readQuoted (text.flatMap escapePoint ++ .char '\'' :: suffix) = some (text, suffix) := by
  induction text with
  | nil => rfl
  | cons point text ih =>
      rw [List.flatMap_cons, List.append_assoc]
      by_cases backslash : point = .char '\\'
      · subst backslash
        change readQuoted (.char '\\' :: .char '\\' ::
          (text.flatMap escapePoint ++ .char '\'' :: suffix)) = _
        rw [readQuoted, ih]
        rfl
      by_cases quote : point = .char '\''
      · subst quote
        change readQuoted (.char '\\' :: .char '\'' ::
          (text.flatMap escapePoint ++ .char '\'' :: suffix)) = _
        rw [readQuoted, ih]
        rfl
      · have plain : escapePoint point = [point] := by
          rw [escapePoint, if_neg backslash, if_neg quote]
        rw [plain, List.singleton_append, readQuoted]
        · rw [ih]
          rfl
        · exact quote
        · exact fun _ same _ => backslash same
        · exact fun _ same _ => backslash same

theorem read_constant_word (word suffix : Text) (value : Value)
    (letters : ∀ point ∈ word, isWordPoint point = true) (stops : EndsWord suffix)
    (known : constant? word = some value) :
    readConstant (word ++ suffix) = some (value, suffix) := by
  rw [readConstant, take_word_points letters stops, drop_word_points letters stops, known]
  rfl

theorem Ends.word {suffix : Text} (ends : Ends suffix) : EndsWord suffix := by
  intro point first
  have among := ends point first
  simp only [List.mem_cons, List.not_mem_nil, or_false] at among
  rcases among with rfl | rfl | rfl | rfl | rfl <;> decide

theorem read_signed_plain (text : Text) (unsigned : text.head? ≠ some (.char '-')) :
    readSigned text = readOperand text := by
  unfold readSigned
  split
  · exact absurd rfl unsigned
  · rfl

theorem read_scalar_of_signed (text rest : Text) (value : Value)
    (signed : readSigned text = some (value, rest)) (noMinus : rest.head? ≠ some (.char '-')) :
    readScalar text = some (value, rest) := by
  rw [readScalar, signed]
  split
  · rename_i same
    obtain ⟨_, rfl⟩ := Prod.mk.inj (Option.some.inj same)
    exact absurd rfl noMinus
  · rfl

theorem of_nat_eq (number : Nat) : Text.ofNat number = Text.ofChars (Nat.toDigits 10 number) := by
  rw [Text.ofNat, Text.ofString, Nat.toString_eq_repr, Nat.toList_repr]

theorem of_int_of_nat (number : Nat) :
    Text.ofInt (number : Int) = Text.ofChars (Nat.toDigits 10 number) :=
  of_nat_eq number

theorem of_int_neg_succ (number : Nat) :
    Text.ofInt (Int.negSucc number) =
      .char '-' :: Text.ofChars (Nat.toDigits 10 (number + 1)) := by
  have written : toString (Int.negSucc number) = "-" ++ (number + 1).repr := rfl
  rw [Text.ofInt, Text.ofString, written, String.toList_append, Nat.toList_repr]
  rfl

/-- What reading owes to the text of a value: it takes exactly that text, whatever ends it. -/
structure Reads (text : Text) (value : Value) : Prop where
  opens : ∃ first rest, text = first :: rest ∧ isSpace first = false ∧ first ≠ .char ']'
  reads : ∀ room suffix, 2 * text.length ≤ room → Ends suffix →
    readWithin room (text ++ suffix) = some (value, suffix)

theorem reads_of_scalar (text : Text) (value : Value)
    (opens : ∃ first rest, text = first :: rest ∧ isSpace first = false ∧
      first ∉ ([']', '\'', '"', '['] : List CodePoint))
    (scalar : ∀ suffix, Ends suffix → readScalar (text ++ suffix) = some (value, suffix)) :
    Reads text value := by
  obtain ⟨first, rest, rfl, visible, unbracketed⟩ := opens
  simp only [List.mem_cons, List.not_mem_nil, or_false, not_or] at unbracketed
  obtain ⟨closing, single, double, opening⟩ := unbracketed
  refine ⟨⟨first, rest, rfl, visible, closing⟩, ?_⟩
  intro room suffix enough ends
  obtain ⟨less, rfl⟩ : ∃ less, room = less + 1 := by
    have positive : 0 < (first :: rest).length := Nat.succ_pos _
    exact ⟨room - 1, by omega⟩
  rw [List.cons_append, readWithin]
  · exact scalar suffix ends
  · exact fun _ same => single (List.cons.inj same).1
  · exact fun _ same => double (List.cons.inj same).1
  · exact fun _ same => opening (List.cons.inj same).1

theorem Ends.no_minus {suffix : Text} (ends : Ends suffix) : suffix.head? ≠ some (.char '-') :=
  ends.head_ne (by decide)

theorem read_number_none (text : Text)
    (noDigit : ∀ c, text.head? = some (.char c) → c.isDigit = false) : readNumber text = none := by
  have taken := take_digits_append [] text (by simp) noDigit
  change takeDigits text = ([], text) at taken
  simp [readNumber, taken]

/-- A number or a constant is taken with or without a sign in front. -/
theorem reads_operand (first : CodePoint) (rest : Text) (value : Value)
    (visible : isSpace first = false)
    (plain : first ∉ ([']', '\'', '"', '[', '-'] : List CodePoint))
    (operand : ∀ suffix, Ends suffix →
      readOperand (first :: rest ++ suffix) = some (value, suffix)) :
    Reads (first :: rest) value ∧
      ∀ negative, negated? value = some negative →
        Reads (.char '-' :: first :: rest) negative := by
  simp only [List.mem_cons, List.not_mem_nil, or_false, not_or] at plain
  obtain ⟨closing, single, double, opening, minus⟩ := plain
  constructor
  · apply reads_of_scalar
    · refine ⟨first, rest, rfl, visible, ?_⟩
      simp only [List.mem_cons, List.not_mem_nil, or_false, not_or]
      exact ⟨closing, single, double, opening⟩
    · intro suffix ends
      apply read_scalar_of_signed _ suffix value _ ends.no_minus
      rw [read_signed_plain, operand suffix ends]
      exact fun found => minus (Option.some.inj found)
  · intro negative negation
    apply reads_of_scalar
    · exact ⟨.char '-', first :: rest, rfl, by decide, by decide⟩
    · intro suffix ends
      apply read_scalar_of_signed _ suffix negative _ ends.no_minus
      rw [List.cons_append, readSigned, operand suffix ends]
      change (negated? value).bind (fun found => some (found, suffix)) = _
      rw [negation]
      rfl

/-- Constants are words that start with a letter, so they are taken neither for numbers nor for
texts nor for arrays. -/
theorem reads_constant (first : CodePoint) (rest : Text) (value : Value)
    (start : isWordStart first = true) (letters : ∀ point ∈ rest, isWordPoint point = true)
    (known : constant? (first :: rest) = some value) :
    Reads (first :: rest) value ∧
      ∀ negative, negated? value = some negative →
        Reads (.char '-' :: first :: rest) negative := by
  have other : ∀ mark, isWordStart mark = false → first ≠ mark := fun _ => word_start_ne start
  apply reads_operand first rest value (not_space_of_start start)
  · simp only [List.mem_cons, List.not_mem_nil, or_false, not_or]
    exact ⟨other _ rfl, other _ rfl, other _ rfl, other _ rfl, other _ rfl⟩
  · intro suffix ends
    have constant := read_constant_word (first :: rest) suffix value
      (by
        intro point member
        rcases List.mem_cons.1 member with rfl | later
        · exact word_point_of_start start
        · exact letters point later)
      ends.word known
    rw [readOperand, read_number_none, Option.none_or, constant]
    intro c found
    rw [Option.some.inj found] at start
    exact not_digit_of_start start

theorem reads_null : Reads "null" .null :=
  (reads_constant _ _ _ rfl (by decide) rfl).1

theorem reads_bool (truth : Bool) : Reads (if truth then "true" else "false") (.bool truth) := by
  cases truth with
  | false => exact (reads_constant _ _ _ rfl (by decide) rfl).1
  | true => exact (reads_constant _ _ _ rfl (by decide) rfl).1

theorem reads_infinite (negative : Bool) :
    Reads (if negative then "-INF" else "INF") (.float (.infinite negative)) := by
  have both := reads_constant (.char 'I') [.char 'N', .char 'F'] (.float (.infinite false)) rfl
    (by decide) rfl
  cases negative with
  | false => exact both.1
  | true => exact both.2 _ rfl

/-- A number takes its digits. -/
theorem reads_number (first : Char) (rest : List Char) (value : Value)
    (isDigit : first.isDigit = true)
    (number : ∀ suffix, EndsNumber suffix →
      readNumber (Text.ofChars (first :: rest) ++ suffix) = some (value, suffix)) :
    Reads (Text.ofChars (first :: rest)) value ∧
      ∀ negative, negated? value = some negative →
        Reads (.char '-' :: Text.ofChars (first :: rest)) negative := by
  have other : ∀ mark : Char, mark.isDigit = false → CodePoint.char first ≠ .char mark := by
    intro mark plain same
    rw [CodePoint.char.inj same, plain] at isDigit
    exact Bool.false_ne_true isDigit
  apply reads_operand (.char first) (Text.ofChars rest) value
  · simp only [isSpace, CodePoint.isIn, Bool.or_eq_false_iff, decide_eq_false_iff_not]
    refine ⟨⟨⟨?_, ?_⟩, ?_⟩, ?_⟩ <;> exact fun same => other _ rfl (congrArg _ same)
  · simp only [List.mem_cons, List.not_mem_nil, or_false, not_or]
    exact ⟨other _ rfl, other _ rfl, other _ rfl, other _ rfl, other _ rfl⟩
  · intro suffix ends
    have taken := number suffix ends.number
    change readOperand (Text.ofChars (first :: rest) ++ suffix) = _
    rw [readOperand, taken, Option.some_or]

theorem reads_whole (number : Nat) :
    Reads (Text.ofChars (Nat.toDigits 10 number)) (.int number) ∧
      Reads (.char '-' :: Text.ofChars (Nat.toDigits 10 number)) (.int (-number)) := by
  have areDigits := digits_are_digits number
  have number_read := read_number_whole number
  obtain ⟨first, rest, digits⟩ :=
    List.exists_cons_of_ne_nil (Nat.toDigits_ne_nil : Nat.toDigits 10 number ≠ [])
  rw [digits] at areDigits number_read ⊢
  have both := reads_number first rest (.int number) (areDigits first (by simp)) number_read
  exact ⟨both.1, both.2 _ rfl⟩

/-- The least 64-bit number is a difference, which the reader evaluates. -/
theorem reads_least_int : Reads "-9223372036854775807-1" (.int leastInt) := by
  apply reads_of_scalar
  · exact ⟨_, _, rfl, by decide, by decide⟩
  · intro suffix ends
    have text : Text.ofString "-9223372036854775807-1" ++ suffix =
        .char '-' :: (Text.ofChars (Nat.toDigits 10 9223372036854775807) ++
          (.char '-' :: (Text.ofChars (Nat.toDigits 10 1) ++ suffix))) := rfl
    have left := read_number_whole 9223372036854775807
      (.char '-' :: (Text.ofChars (Nat.toDigits 10 1) ++ suffix))
      (by
        intro c first
        rw [← CodePoint.char.inj (Option.some.inj first)]
        decide)
    have right := read_number_whole 1 suffix ends.number
    have signed : readSigned (Text.ofString "-9223372036854775807-1" ++ suffix) =
        some (.int (-9223372036854775807),
          .char '-' :: (Text.ofChars (Nat.toDigits 10 1) ++ suffix)) := by
      rw [text, readSigned, readOperand, left, Option.some_or]
      rfl
    rw [readScalar, signed]
    simp only [right]
    rfl

theorem reads_int (number : Int) (text : Text) (accepted : ofInt number = .ok text) :
    Reads text (.int number) := by
  rw [ofInt] at accepted
  split at accepted
  · rename_i least
    rw [← Except.ok.inj accepted, least]
    exact reads_least_int
  split at accepted
  · exact absurd accepted (by simp)
  · rw [← Except.ok.inj accepted]
    cases number with
    | ofNat number =>
        have written := (reads_whole number).1
        rw [← of_int_of_nat] at written
        exact written
    | negSucc number =>
        rw [of_int_neg_succ]
        exact (reads_whole (number + 1)).2

theorem reads_double (number : Double) : Reads (ofDouble number) (.float number) := by
  cases number with
  | nan => exact (reads_constant _ _ _ rfl (by decide) rfl).1
  | infinite negative => exact reads_infinite negative
  | finite negative rank =>
      obtain ⟨parts, isDecimal, value, text⟩ := finite_text_sets_out negative rank
      have finite : Double.ofRank false rank = .finite false rank := dif_pos rank.isLt
      obtain ⟨first, rest, whole⟩ := List.exists_cons_of_ne_nil isDecimal.whole_nonempty
      have isDigit := isDecimal.whole_digits first (by simp [whole])
      have number_read := read_number_decimal isDecimal
      have split : parts.text = first :: (rest ++ Parts.fractionText parts.fraction ++
          Parts.exponentText parts.exponent) := by
        rw [Parts.text, whole]
        rfl
      change Reads (Text.ofChars (finiteText negative rank)) _
      rw [text]
      rw [value, finite, split] at number_read
      rw [split]
      have both := reads_number first _ (.float (.finite false rank)) isDigit number_read
      cases negative with
      | false => exact both.1
      | true => exact both.2 _ rfl

theorem reads_text (text : Text) : Reads (ofText text) (.str text) := by
  refine ⟨⟨.char '\'', _, rfl, rfl, by decide⟩, ?_⟩
  intro room suffix enough ends
  obtain ⟨less, rfl⟩ : ∃ less, room = less + 1 := by
    have positive : 0 < (ofText text).length := by simp [ofText, Text.ofString, Text.ofChars]
    exact ⟨room - 1, by omega⟩
  have written : ofText text ++ suffix =
      .char '\'' :: (text.flatMap escapePoint ++ .char '\'' :: suffix) := by
    simp [ofText, Text.ofString, Text.ofChars]
  rw [written, readWithin, read_quoted_escaped]
  rfl

end Stubwright.Literal
