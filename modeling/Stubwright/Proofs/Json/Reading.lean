import Stubwright.Proofs.Json.Syntax
import Stubwright.Proofs.Outcome

/-!
The text of a syntax tree is read as the tree means. Each part of the reader takes just its part of
the text, whatever follows it, except that a number must not go on.
-/

namespace Stubwright.Json

open Decimal

variable {text rest : List Char}

/-- Nothing comes first that white space is skipped for. -/
def Opens (text : List Char) : Prop := ∀ c, text.head? = some c → isSpace c = false

def EndsNumber (rest : List Char) : Prop :=
  ∀ c, rest.head? = some c → c.isDigit = false ∧ c ≠ '.' ∧ c ≠ 'e' ∧ c ≠ 'E'

theorem opens_cons {c : Char} (visible : isSpace c = false) : Opens (c :: rest) := by
  intro first same
  cases same
  exact visible

theorem not_continued_of_space {c : Char} (space : isSpace c = true) :
    c.isDigit = false ∧ c ≠ '.' ∧ c ≠ 'e' ∧ c ≠ 'E' := by
  simp only [isSpace, Bool.or_eq_true, decide_eq_true_eq] at space
  rcases space with ((rfl | rfl) | rfl) | rfl <;> decide

theorem Gap.ends_number (gap : Gap) (ends : EndsNumber rest) : EndsNumber (gap.chars ++ rest) := by
  obtain ⟨chars, spaces⟩ := gap
  cases chars with
  | nil => exact ends
  | cons c chars =>
      intro first same
      cases same
      exact not_continued_of_space (spaces c (by simp))

theorem skip_gap (gap : Gap) (opens : Opens rest) : skipSpace (gap.chars ++ rest) = rest := by
  rw [skipSpace, List.dropWhile_append_of_pos gap.spaces]
  cases rest with
  | nil => rfl
  | cons c rest => simp [opens c rfl]

theorem skip_gap_mark (gap : Gap) (mark : Char) (rest : List Char)
    (visible : isSpace mark = false) : skipSpace (gap.chars ++ mark :: rest) = mark :: rest :=
  skip_gap gap (opens_cons visible)

/-! ### Strings -/

theorem string_units_letter (letter : Letter) (rest : List Char) :
    stringUnits (letter.text ++ rest) =
      (stringUnits rest).map fun found => (letter.unit :: found.1, found.2) := by
  cases letter with
  | plain c ordinary =>
      obtain ⟨noQuote, noBackslash, printable⟩ := ordinary
      change stringUnits (c :: rest) = _
      rw [stringUnits, if_neg (by omega)]
      · cases stringUnits rest <;> rfl
      · exact noQuote
      · exact fun _ _ _ _ _ same => absurd same noBackslash
      · exact fun _ _ same => absurd same noBackslash
  | short c unit known =>
      have noNumber : c ≠ 'u' := by
        rintro rfl
        cases known
      change stringUnits ('\\' :: c :: rest) = _
      rw [stringUnits]
      · rw [known]
        cases stringUnits rest <;> rfl
      · exact fun _ _ _ _ _ same => absurd same noNumber
  | numbered a b c d unit known =>
      change stringUnits ('\\' :: 'u' :: a :: b :: c :: d :: rest) = _
      rw [stringUnits, known]
      cases stringUnits rest <;> rfl

theorem string_units_body (letters : Letters) (rest : List Char) :
    stringUnits (letters.body ++ '"' :: rest) = some (letters.map Letter.unit, rest) := by
  induction letters with
  | nil => rfl
  | cons letter letters ih =>
      have parts : Letters.body (letter :: letters) ++ '"' :: rest =
          letter.text ++ (Letters.body letters ++ '"' :: rest) := by
        simp [Letters.body]
      rw [parts, string_units_letter, ih]
      rfl

theorem read_string_body (letters : Letters) (rest : List Char) :
    readString (letters.body ++ '"' :: rest) = .ok (letters.value, rest) := by
  rw [readString, string_units_body]
  rfl

/-! ### Numbers -/

theorem take_digits_append {digits : List Char} (areDigits : ∀ c ∈ digits, c.isDigit = true)
    (stops : ∀ c, rest.head? = some c → c.isDigit = false) :
    takeDigits (digits ++ rest) = (digits, rest) := by
  have none_taken : rest.takeWhile Char.isDigit = [] ∧ rest.dropWhile Char.isDigit = rest := by
    cases rest with
    | nil => exact ⟨rfl, rfl⟩
    | cons c rest => simp [stops c rfl]
  rw [takeDigits, List.takeWhile_append_of_pos areDigits, List.dropWhile_append_of_pos areDigits,
    none_taken.1, none_taken.2, List.append_nil]

theorem take_sign_digit {c : Char} (digit : c.isDigit = true) :
    takeSign (c :: rest) = (false, c :: rest) := by
  rw [takeSign]
  · rintro _ ⟨⟩
    cases digit
  · rintro _ ⟨⟩
    cases digit

theorem Exponent.take_sign (exponent : Exponent) (rest : List Char) :
    takeSign (exponent.sign.toList ++ (exponent.digits ++ rest)) =
      (decide (exponent.sign = some '-'), exponent.digits ++ rest) := by
  obtain ⟨letter, sign, digits, isLetter, isSign, someDigits, areDigits⟩ := exponent
  cases sign with
  | some c => rcases isSign c rfl with rfl | rfl <;> rfl
  | none =>
      cases digits with
      | nil => exact absurd rfl someDigits
      | cons c digits => exact take_sign_digit (areDigits c (by simp))

theorem take_exponent_text (exponent : Exponent) (ends : EndsNumber rest) :
    takeExponent (exponent.text ++ rest) = some (exponent.power, rest) := by
  have taken := take_digits_append exponent.areDigits fun c first => (ends c first).1
  have unsigned := exponent.take_sign rest
  rw [Exponent.text, List.cons_append, List.append_assoc]
  simp only [takeExponent, if_pos exponent.isLetter, unsigned, taken]
  simp [exponent.someDigits, Exponent.power]

theorem take_exponent_none (ends : EndsNumber rest) : takeExponent rest = none := by
  cases rest with
  | nil => rfl
  | cons c rest =>
      have other := ends c rfl
      simp [takeExponent, other.2.2.1, other.2.2.2]

namespace Numeral

variable (numeral : Numeral)

theorem after_fraction (ends : EndsNumber rest) (c : Char)
    (first : (numeral.exponentText ++ rest).head? = some c) : c.isDigit = false ∧ c ≠ '.' := by
  rw [exponentText] at first
  cases exponent : numeral.exponent with
  | none =>
      rw [exponent] at first
      exact ⟨(ends c first).1, (ends c first).2.1⟩
  | some power =>
      rw [exponent] at first
      cases first
      rcases power.isLetter with letter | letter <;> rw [letter] <;> decide

theorem after_whole (ends : EndsNumber rest) (c : Char)
    (first : (numeral.fractionText ++ (numeral.exponentText ++ rest)).head? = some c) :
    c.isDigit = false := by
  rw [fractionText] at first
  split at first
  · exact (numeral.after_fraction ends c first).1
  · cases first
    rfl

theorem take_whole (ends : EndsNumber rest) :
    takeWhole (numeral.whole ++ (numeral.fractionText ++ (numeral.exponentText ++ rest))) =
      some (numeral.whole, numeral.fractionText ++ (numeral.exponentText ++ rest)) := by
  have taken := take_digits_append numeral.wholeDigits (numeral.after_whole ends)
  cases whole : numeral.whole with
  | nil => exact absurd whole numeral.someWhole
  | cons c others =>
      by_cases zero : c = '0'
      · subst zero
        have alone := numeral.noNeedlessZero (by rw [whole]; rfl)
        rw [whole] at alone
        rw [alone]
        rfl
      · rw [whole] at taken
        rw [takeWhole]
        · rw [taken]
          rfl
        · intro rest same
          exact zero (List.cons.inj same).1

theorem take_fraction (ends : EndsNumber rest) :
    takeFraction (numeral.fractionText ++ (numeral.exponentText ++ rest)) =
      (numeral.fraction, numeral.exponentText ++ rest) := by
  have stops := numeral.after_fraction ends
  by_cases none : numeral.fraction = []
  · rw [fractionText, if_pos none, none, List.nil_append, takeFraction]
    intro rest same
    exact (stops '.' (by rw [same]; rfl)).2 rfl
  · have taken := take_digits_append numeral.fractionDigits fun c first => (stops c first).1
    rw [fractionText, if_neg none]
    change takeFraction ('.' :: (numeral.fraction ++ (numeral.exponentText ++ rest))) = _
    rw [takeFraction, taken]
    simp [none]

/-- A number is told to be negative by its first character, which is otherwise a digit. -/
theorem text_signed (rest : List Char) :
    ((numeral.text ++ rest).head? = some '-' ↔ numeral.negative = true) ∧
      (if numeral.negative then (numeral.text ++ rest).drop 1 else numeral.text ++ rest) =
        numeral.magnitudeText ++ rest := by
  rw [text]
  cases numeral.negative with
  | true => exact ⟨⟨fun _ => rfl, fun _ => rfl⟩, rfl⟩
  | false =>
      refine ⟨⟨fun first => ?_, fun same => Bool.noConfusion same⟩, rfl⟩
      cases whole : numeral.whole with
      | nil => exact absurd whole numeral.someWhole
      | cons c others =>
          have digit := numeral.wholeDigits c (by simp [whole])
          rw [magnitudeText, whole] at first
          cases first
          cases digit

theorem read (ends : EndsNumber rest) :
    readNumber (numeral.text ++ rest) = .ok (numeral.value, rest) := by
  obtain ⟨negative, unsigned⟩ := numeral.text_signed rest
  have whole := numeral.take_whole ends
  have fraction := numeral.take_fraction ends
  have parts : numeral.magnitudeText ++ rest =
      numeral.whole ++ (numeral.fractionText ++ (numeral.exponentText ++ rest)) := by
    simp [magnitudeText]
  simp only [readNumber, negative, unsigned, parts, whole, demand, bind, Except.bind, fraction]
  rw [value, power, exponentText]
  cases exponent : numeral.exponent with
  | some power =>
      simp [take_exponent_text power ends, pure, Except.pure, digits]
  | none =>
      simp only [take_exponent_none ends, Option.map_none, Option.getD_none, List.nil_append]
      by_cases absent : numeral.fraction = []
      · have short := numeral.short absent exponent
        simp [absent, short, pure, Except.pure, digits]
      · simp [absent, pure, Except.pure, digits]

end Numeral

/-! ### Values -/

theorem read_word_known {chars : List Char} {value : Value} (known : (chars, value) ∈ words)
    (rest : List Char) : readWord (chars ++ rest) = some (value, rest) := by
  simp only [words, List.mem_cons, Prod.mk.injEq, List.not_mem_nil, or_false] at known
  rcases known with ⟨rfl, rfl⟩ | ⟨rfl, rfl⟩ | ⟨rfl, rfl⟩ | ⟨rfl, rfl⟩ | ⟨rfl, rfl⟩ | ⟨rfl, rfl⟩ <;>
    rfl

/-- A number starts with a digit, perhaps after a minus. -/
theorem Numeral.exists_text (numeral : Numeral) : ∃ c others, c.isDigit = true ∧
    (numeral.text = c :: others ∨ numeral.text = '-' :: c :: others) := by
  cases whole : numeral.whole with
  | nil => exact absurd whole numeral.someWhole
  | cons c others =>
      refine ⟨c, others ++ (numeral.fractionText ++ numeral.exponentText),
        numeral.wholeDigits c (by simp [whole]), ?_⟩
      rw [text, magnitudeText, whole]
      cases numeral.negative with
      | true => exact .inr rfl
      | false => exact .inl rfl

theorem mark_ne_digit {mark c : Char} (other : mark.isDigit = false) (digit : c.isDigit = true) :
    mark ≠ c := by
  rintro rfl
  rw [digit] at other
  cases other

theorem read_word_number (numeral : Numeral) (rest : List Char) :
    readWord (numeral.text ++ rest) = none := by
  obtain ⟨c, others, digit, text | text⟩ := numeral.exists_text
  · rw [text]
    simp [readWord, words, mark_ne_digit _ digit]
  · rw [text]
    simp [readWord, words, mark_ne_digit _ digit]

def StartsBare (text : List Char) : Prop :=
  ∃ c others, text = c :: others ∧ isSpace c = false ∧ c ∉ ['"', '[', '\x7b', ']']

theorem word_starts_bare {chars : List Char} {value : Value} (known : (chars, value) ∈ words) :
    StartsBare chars := by
  simp only [words, List.mem_cons, Prod.mk.injEq, List.not_mem_nil, or_false] at known
  rcases known with ⟨rfl, _⟩ | ⟨rfl, _⟩ | ⟨rfl, _⟩ | ⟨rfl, _⟩ | ⟨rfl, _⟩ | ⟨rfl, _⟩ <;>
    exact ⟨_, _, rfl, by decide⟩

theorem Numeral.starts_bare (numeral : Numeral) : StartsBare numeral.text := by
  obtain ⟨c, others, digit, text | text⟩ := numeral.exists_text
  · have visible : isSpace c = false := by
      rw [Bool.eq_false_iff]
      intro space
      rw [(not_continued_of_space space).1] at digit
      cases digit
    refine ⟨c, others, text, visible, fun among => ?_⟩
    simp only [List.mem_cons, List.not_mem_nil, or_false] at among
    rcases among with rfl | rfl | rfl | rfl <;> cases digit
  · exact ⟨'-', _, text, by decide⟩

theorem read_value_bare (room fuel : Nat) (bare : StartsBare text) :
    readValue room (fuel + 1) (text ++ rest) =
      match readWord (text ++ rest) with
      | some word => .ok word
      | none => readNumber (text ++ rest) := by
  obtain ⟨c, others, rfl, _, unlike⟩ := bare
  have noMark (mark : Char) (marks : mark ∈ ['"', '[', '\x7b', ']']) (left : List Char) :
      c :: (others ++ rest) ≠ mark :: left := by
    rintro ⟨⟩
    exact unlike marks
  rw [List.cons_append]
  exact readValue.eq_5 room _ fuel (noMark '"' (by simp)) (noMark '[' (by simp))
    (noMark '\x7b' (by simp))

/-- A value starts with a character that no white space is, and that closes nothing. -/
theorem Tree.exists_text (tree : Tree) :
    ∃ c others, tree.text = c :: others ∧ isSpace c = false ∧ c ≠ ']' := by
  cases tree with
  | word chars value known =>
      obtain ⟨c, others, same, visible, unlike⟩ := word_starts_bare known
      exact ⟨c, others, same, visible, fun closing => unlike (by simp [closing])⟩
  | number numeral =>
      obtain ⟨c, others, same, visible, unlike⟩ := numeral.starts_bare
      exact ⟨c, others, same, visible, fun closing => unlike (by simp [closing])⟩
  | string letters => exact ⟨_, _, rfl, by decide⟩
  | emptyArray gap => exact ⟨_, _, rfl, by decide⟩
  | array gap items => exact ⟨_, _, rfl, by decide⟩
  | emptyObject gap => exact ⟨_, _, rfl, by decide⟩
  | object gap members => exact ⟨_, _, rfl, by decide⟩

theorem Items.exists_text (items : Items) :
    ∃ c others, items.text = c :: others ∧ isSpace c = false ∧ c ≠ ']' := by
  cases items with
  | last item after =>
      obtain ⟨c, others, same, visible⟩ := item.exists_text
      exact ⟨c, others ++ after.chars, by rw [text, same]; rfl, visible⟩
  | more item after next rest =>
      obtain ⟨c, others, same, visible⟩ := item.exists_text
      exact ⟨c, others ++ _, by rw [text, same]; rfl, visible⟩

theorem Members.exists_text (members : Members) : ∃ others, members.text = '"' :: others := by
  cases members with
  | last key value after => exact ⟨_, rfl⟩
  | more key value after next others => exact ⟨_, rfl⟩

theorem skip_gap_tree (gap : Gap) (tree : Tree) (rest : List Char) :
    skipSpace (gap.chars ++ (tree.text ++ rest)) = tree.text ++ rest := by
  obtain ⟨c, others, same, visible, _⟩ := tree.exists_text
  rw [same]
  exact skip_gap gap (opens_cons visible)

theorem skip_gap_items (gap : Gap) (items : Items) (rest : List Char) :
    skipSpace (gap.chars ++ (items.text ++ rest)) = items.text ++ rest := by
  obtain ⟨c, others, same, visible, _⟩ := items.exists_text
  rw [same]
  exact skip_gap gap (opens_cons visible)

theorem skip_gap_members (gap : Gap) (members : Members) (rest : List Char) :
    skipSpace (gap.chars ++ (members.text ++ rest)) = members.text ++ rest := by
  obtain ⟨others, same⟩ := members.exists_text
  rw [same]
  exact skip_gap gap (opens_cons rfl)

theorem inside_of_pos {room : Nat} (isObject : Bool) (positive : 0 < room) :
    inside isObject room = .ok (room - 1) := by
  cases room with
  | zero => cases positive
  | succ room => rfl

theorem ends_number_mark {mark : Char} (known : mark ∈ [',', ']', '\x7d']) :
    EndsNumber (mark :: rest) := by
  intro c first
  cases first
  simp only [List.mem_cons, List.not_mem_nil, or_false] at known
  rcases known with rfl | rfl | rfl <;> decide

mutual

theorem Tree.read (tree : Tree) (room fuel : Nat) (rest : List Char)
    (shallow : tree.depth ≤ room) (enough : tree.text.length ≤ fuel)
    (ends : EndsNumber rest) :
    readValue room fuel (tree.text ++ rest) = .ok (tree.value, rest) := by
  cases fuel with
  | zero =>
      obtain ⟨c, others, same, _⟩ := tree.exists_text
      rw [same] at enough
      cases enough
  | succ fuel =>
      cases tree with
      | word chars value known =>
          rw [Tree.text, read_value_bare room fuel (word_starts_bare known),
            read_word_known known]
          rfl
      | number numeral =>
          rw [Tree.text, read_value_bare room fuel numeral.starts_bare, read_word_number]
          exact numeral.read ends
      | string letters =>
          rw [Tree.text, letters.text_append, readValue, read_string_body]
          rfl
      | emptyArray gap =>
          rw [Tree.depth] at shallow
          rw [Tree.empty_array_append, readValue, inside_of_pos false (by omega)]
          simp only [bind, Except.bind, skip_gap_mark gap ']' _ rfl]
          rfl
      | array gap items =>
          simp only [Tree.text, List.length_cons, List.length_append, List.length_nil] at enough
          rw [Tree.depth] at shallow
          have read := items.read (room - 1) fuel rest (by omega) (by omega)
          rw [Tree.array_append, readValue, inside_of_pos false (by omega)]
          simp only [bind, Except.bind, skip_gap_items gap items]
          split
          · rename_i after closing
            obtain ⟨c, others, same, _, unlike⟩ := items.exists_text
            rw [same] at closing
            exact absurd (List.cons.inj closing).1 unlike
          · rw [read]
            rfl
      | emptyObject gap =>
          rw [Tree.depth] at shallow
          rw [Tree.empty_object_append, readValue, inside_of_pos true (by omega)]
          simp only [bind, Except.bind, skip_gap_mark gap '\x7d' _ rfl]
          rfl
      | object gap members =>
          simp only [Tree.text, List.length_cons, List.length_append, List.length_nil] at enough
          rw [Tree.depth] at shallow
          have read := members.read (room - 1) fuel rest (by omega) (by omega)
          rw [Tree.object_append, readValue, inside_of_pos true (by omega)]
          simp only [bind, Except.bind, skip_gap_members gap members]
          split
          · rename_i after closing
            obtain ⟨others, same⟩ := members.exists_text
            rw [same] at closing
            cases closing
          · rw [read]
            rfl

theorem Items.read (items : Items) (room fuel : Nat) (rest : List Char)
    (shallow : items.depth ≤ room) (enough : items.text.length < fuel) :
    readItems room fuel (items.text ++ ']' :: rest) = .ok (items.values, rest) := by
  cases fuel with
  | zero => omega
  | succ fuel =>
      cases items with
      | last item after =>
          rw [Items.text, List.length_append] at enough
          rw [Items.depth] at shallow
          have read := item.read room fuel (after.chars ++ ']' :: rest) shallow (by omega)
            (after.ends_number (ends_number_mark (by decide)))
          rw [Items.last_append, readItems, read]
          simp only [bind, Except.bind, skip_gap_mark after ']' _ rfl]
          rfl
      | more item after next others =>
          rw [Items.text, List.length_append, List.length_append, List.length_cons,
            List.length_append] at enough
          rw [Items.depth] at shallow
          have read := item.read room fuel
            (after.chars ++ ',' :: (next.chars ++ (others.text ++ ']' :: rest)))
            (by omega) (by omega) (after.ends_number (ends_number_mark (by decide)))
          have readOthers := others.read room fuel rest (by omega) (by omega)
          rw [Items.more_append, readItems, read]
          simp only [bind, Except.bind, skip_gap_mark after ',' _ rfl,
            skip_gap_items next others, readOthers]
          rfl

theorem Members.read (members : Members) (room fuel : Nat) (rest : List Char)
    (shallow : members.depth ≤ room) (enough : members.text.length < fuel) :
    readMembers room fuel (members.text ++ '\x7d' :: rest) = .ok (members.entries, rest) := by
  cases fuel with
  | zero => omega
  | succ fuel =>
      cases members with
      | last key value after =>
          rw [Members.text, List.length_append, List.length_append] at enough
          rw [Members.depth] at shallow
          have read := value.read room fuel (after.chars ++ '\x7d' :: rest) shallow (by omega)
            (after.ends_number (ends_number_mark (by decide)))
          rw [Members.last_append, Key.text_append, readMembers, read_string_body]
          simp only [bind, Except.bind, skip_gap_mark key.before ':' _ rfl,
            skip_gap_tree key.after value, read, skip_gap_mark after '\x7d' _ rfl]
          rfl
      | more key value after next others =>
          rw [Members.text, List.length_append, List.length_append, List.length_append,
            List.length_cons, List.length_append] at enough
          rw [Members.depth] at shallow
          have read := value.read room fuel
            (after.chars ++ ',' :: (next.chars ++ (others.text ++ '\x7d' :: rest)))
            (by omega) (by omega) (after.ends_number (ends_number_mark (by decide)))
          have readOthers := others.read room fuel rest (by omega) (by omega)
          rw [Members.more_append, Key.text_append, readMembers, read_string_body]
          simp only [bind, Except.bind, skip_gap_mark key.before ':' _ rfl,
            skip_gap_tree key.after value, read, skip_gap_mark after ',' _ rfl,
            skip_gap_members next others, readOthers]
          rfl

end

theorem Gap.skipped (gap : Gap) : skipSpace gap.chars = [] := by
  have nothing : Opens [] := by rintro c ⟨⟩
  have skipped := skip_gap gap nothing
  rwa [List.append_nil] at skipped

theorem Gap.ends_text (gap : Gap) : EndsNumber gap.chars := by
  have nothing : EndsNumber [] := by rintro c ⟨⟩
  have ends := gap.ends_number nothing
  rwa [List.append_nil] at ends

/-- A text with a syntax tree that is not too deep is read as the tree means. -/
theorem Document.read (document : Document) {room : Nat}
    (shallow : document.root.depth ≤ room) : ofChars room document.text = .ok document.value := by
  obtain ⟨before, root, after⟩ := document
  have long : root.text.length ≤ (before.chars ++ (root.text ++ after.chars)).length + 1 := by
    simp only [List.length_append]
    omega
  have read := root.read room _ after.chars shallow long after.ends_text
  simp only [text, ofChars, skip_gap_tree, read, bind, Except.bind, after.skipped]
  rfl

theorem inside_more {isObject : Bool} {room more left : Nat} (le : room ≤ more)
    (enters : inside isObject room = .ok left) :
    ∃ inner, inside isObject more = .ok inner ∧ left ≤ inner := by
  cases room with
  | zero => cases enters
  | succ room =>
      cases enters
      rw [inside_of_pos isObject (by omega)]
      exact ⟨_, rfl, by omega⟩

mutual

/-- What can be read is read alike where there is more room. -/
theorem read_value_more {text : List Char} {room more : Nat} (le : room ≤ more) (fuel : Nat)
    {result : Value × List Char} (read : readValue room fuel text = .ok result) :
    readValue more fuel text = .ok result := by
  cases fuel with
  | zero =>
      rw [readValue] at read
      cases read
  | succ fuel =>
      rw [readValue.eq_def] at read ⊢
      dsimp only at read ⊢
      split at read
      · exact read
      · obtain ⟨left, enters, read⟩ := bind_ok_iff.1 read
        obtain ⟨inner, entersMore, le⟩ := inside_more le enters
        refine bind_ok_iff.2 ⟨inner, entersMore, ?_⟩
        split at read
        · exact read
        · obtain ⟨items, readItems, same⟩ := bind_ok_iff.1 read
          exact bind_ok_iff.2 ⟨items, read_items_more le fuel readItems, same⟩
      · obtain ⟨left, enters, read⟩ := bind_ok_iff.1 read
        obtain ⟨inner, entersMore, le⟩ := inside_more le enters
        refine bind_ok_iff.2 ⟨inner, entersMore, ?_⟩
        split at read
        · exact read
        · obtain ⟨members, readMembers, same⟩ := bind_ok_iff.1 read
          exact bind_ok_iff.2 ⟨members, read_members_more le fuel readMembers, same⟩
      · exact read

theorem read_items_more {text : List Char} {room more : Nat} (le : room ≤ more) (fuel : Nat)
    {result : List Value × List Char} (read : readItems room fuel text = .ok result) :
    readItems more fuel text = .ok result := by
  cases fuel with
  | zero =>
      rw [readItems] at read
      cases read
  | succ fuel =>
      rw [readItems] at read ⊢
      obtain ⟨item, readItem, read⟩ := bind_ok_iff.1 read
      refine bind_ok_iff.2 ⟨item, read_value_more le fuel readItem, ?_⟩
      dsimp only at read ⊢
      split at read
      · obtain ⟨items, readItems, same⟩ := bind_ok_iff.1 read
        exact bind_ok_iff.2 ⟨items, read_items_more le fuel readItems, same⟩
      · exact read
      · exact read

theorem read_members_more {text : List Char} {room more : Nat} (le : room ≤ more) (fuel : Nat)
    {result : List (Value × Value) × List Char} (read : readMembers room fuel text = .ok result) :
    readMembers more fuel text = .ok result := by
  cases fuel with
  | zero =>
      rw [readMembers] at read
      cases read
  | succ fuel =>
      rw [readMembers.eq_def] at read ⊢
      dsimp only at read ⊢
      split at read
      · obtain ⟨key, readKey, read⟩ := bind_ok_iff.1 read
        refine bind_ok_iff.2 ⟨key, readKey, ?_⟩
        split at read
        · obtain ⟨value, readValue, read⟩ := bind_ok_iff.1 read
          refine bind_ok_iff.2 ⟨value, read_value_more le fuel readValue, ?_⟩
          split at read
          · obtain ⟨members, readMembers, same⟩ := bind_ok_iff.1 read
            exact bind_ok_iff.2 ⟨members, read_members_more le fuel readMembers, same⟩
          · exact read
          · exact read
        · exact read
      · exact read

end

theorem of_chars_more {room more : Nat} {value : Value} (le : room ≤ more)
    (read : ofChars room text = .ok value) : ofChars more text = .ok value := by
  obtain ⟨part, readPart, ends⟩ := bind_ok_iff.1 read
  exact bind_ok_iff.2 ⟨part, read_value_more le _ readPart, ends⟩

/-- Wherever a text with a syntax tree is read at all, it is read as the tree means. -/
theorem Document.value_of_read (document : Document) {room : Nat} {value : Value}
    (read : ofChars room document.text = .ok value) : value = document.value := by
  have roomy := of_chars_more (Nat.le_max_left room document.root.depth) read
  rw [document.read (Nat.le_max_right ..)] at roomy
  exact (Except.ok.inj roomy).symm

end Stubwright.Json
