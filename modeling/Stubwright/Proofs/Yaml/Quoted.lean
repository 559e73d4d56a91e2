import Stubwright.Proofs.Json.Portable
import Stubwright.Proofs.Yaml.Cursor
import Stubwright.Yaml.Scalar

/-!
A portable JSON string is a double quoted scalar of the same text. The scalar is read in turns of
solid text and of blanks, and the letters of the string are cut up accordingly.
-/

namespace Stubwright.Yaml.Quoted

open Json

variable {cursor : Cursor} {c : Char} {rest : List Char}

/-! ### One letter of solid text -/

theorem solid_ordinary (fuel : Nat) (here : cursor.rest = c :: rest)
    (ordinary : isOrdinary c = true) :
    solid true (fuel + 1) cursor =
      (solid true (fuel + 1) cursor.next).map fun found => (.char c :: found.1, found.2) := by
  simp only [solid, Cursor.run_next here ordinary]
  generalize cursor.next.run isOrdinary = found
  obtain ⟨run, after⟩ := found
  simp only [if_true, bind, Except.bind]
  split
  · cases solid true fuel after.next <;> rfl
  · rfl
  · cases escape after.next with
    | error failure => rfl
    | ok found =>
        dsimp only
        cases solid true fuel found.2 <;> rfl
  · rfl

theorem solid_quote (fuel : Nat) (here : cursor.rest = '\'' :: rest) :
    solid true (fuel + 1) cursor =
      (solid true fuel cursor.next).map fun found => (.char '\'' :: found.1, found.2) := by
  have stops : cursor.run isOrdinary = ([], cursor) := Cursor.run_none here rfl
  simp only [solid, stops, Cursor.peek_eq here, if_true, bind, Except.bind]
  cases solid true fuel cursor.next <;> rfl

theorem solid_escape {read : Text} {next : Cursor} (fuel : Nat) (here : cursor.rest = '\\' :: rest)
    (escaped : escape cursor.next = .ok (read, next)) :
    solid true (fuel + 1) cursor =
      (solid true fuel next).map fun found => (read ++ found.1, found.2) := by
  have stops : cursor.run isOrdinary = ([], cursor) := Cursor.run_none here rfl
  simp only [solid, stops, Cursor.peek_eq here, if_true, bind, Except.bind, escaped]
  cases solid true fuel next <;> rfl

theorem solid_stops (fuel : Nat) (here : cursor.rest = c :: rest) (stop : c = ' ' ∨ c = '"') :
    solid true (fuel + 1) cursor = .ok ([], cursor) := by
  have stops : cursor.run isOrdinary = ([], cursor) := by
    rcases stop with rfl | rfl <;> exact Cursor.run_none here rfl
  rcases stop with rfl | rfl <;> simp only [solid, stops, Cursor.peek_eq here] <;> rfl

/-! ### Escapes -/

/-- The escapes of one letter are also those of YAML. -/
theorem simple_escape_known {unit : Nat} (known : simpleEscape? c = some unit) :
    ∃ meaning, escapes.lookup c = some meaning ∧ CodePoint.ofNumber unit = .char meaning := by
  have among := short_known known
  simp only [List.mem_cons, Prod.mk.injEq, List.not_mem_nil, or_false] at among
  rcases among with ⟨rfl, rfl⟩ | ⟨rfl, rfl⟩ | ⟨rfl, rfl⟩ | ⟨rfl, rfl⟩ | ⟨rfl, rfl⟩ | ⟨rfl, rfl⟩ |
    ⟨rfl, rfl⟩ | ⟨rfl, rfl⟩ <;> exact ⟨_, rfl, rfl⟩

theorem escape_simple {unit : Nat} (here : cursor.rest = c :: rest)
    (known : simpleEscape? c = some unit) :
    escape cursor = .ok ([.ofNumber unit], cursor.next) := by
  obtain ⟨meaning, found, same⟩ := simple_escape_known known
  simp only [escape, Cursor.peek_eq here, Option.bind_some, found, same]

theorem ascii_digit_lt {base value : Nat} (digit : Text.asciiDigit? base c = some value) :
    value < base := by
  have bounded := (Option.filter_eq_some_iff.1 digit).2
  simpa using bounded

theorem code_point_of_unit {number : Nat} (small : number < 0x10000) :
    codePoint number = .ok (.ofNumber number) := by
  rw [codePoint, if_neg (by omega), if_neg (by omega)]

theorem numbered_known {a b c d : Char} {unit : Nat} (here : cursor.rest = a :: b :: c :: d :: rest)
    (known : unit? a b c d = some unit) :
    numbered 4 cursor = .ok ([.ofNumber unit], cursor.past [a, b, c, d]) := by
  obtain ⟨first, second, third, fourth, ofA, ofB, ofC, ofD, rfl⟩ := unit_digits known
  have taken : (cursor.rest.take 4).takeWhile isHexDigit = [a, b, c, d] := by
    simp [here, isHexDigit, ofA, ofB, ofC, ofD]
  have bounds := And.intro (And.intro (ascii_digit_lt ofA) (ascii_digit_lt ofB))
    (And.intro (ascii_digit_lt ofC) (ascii_digit_lt ofD))
  have values : [a, b, c, d].filterMap (Text.asciiDigit? 16) = [first, second, third, fourth] := by
    simp [ofA, ofB, ofC, ofD]
  have small : Decimal.ofDigitValues 16 [first, second, third, fourth] < 0x10000 := by
    simp only [Decimal.ofDigitValues, List.foldl_cons, List.foldl_nil]
    omega
  simp only [numbered, taken, values, code_point_of_unit small]
  rfl

theorem escape_numbered {a b c d : Char} {unit : Nat}
    (here : cursor.rest = 'u' :: a :: b :: c :: d :: rest) (known : unit? a b c d = some unit) :
    escape cursor = .ok ([.ofNumber unit], cursor.past ['u', a, b, c, d]) := by
  have read := numbered_known (Cursor.next_at here).1 known
  have noLetter : escapes.lookup 'u' = none := by decide
  have wide : escapeWidths.lookup 'u' = some 4 := by decide
  simp only [escape, Cursor.peek_eq here, Option.bind_some, noLetter, wide, read]
  rfl

/-! ### Letters -/

/-- What a letter means where it is not put together with another. -/
def meaning (letter : Letter) : CodePoint := .ofNumber letter.unit

theorem of_number_to_nat (c : Char) : CodePoint.ofNumber c.toNat = .char c := by
  have outside : ¬(CodePoint.firstHalf ≤ c.toNat ∧ c.toNat < CodePoint.firstHalf + 0x800) := by
    have valid := c.valid
    simp only [UInt32.isValidChar, Nat.isValidChar] at valid
    change ¬(0xd800 ≤ c.val.toNat ∧ c.val.toNat < 0xd800 + 0x800)
    omega
  rw [CodePoint.ofNumber, dif_neg outside, Char.ofNat_toNat]

theorem join_unpaired (units : List Nat) (unpaired : AreUnpaired units) :
    joinSurrogates units = units.map .ofNumber := by
  induction units using joinSurrogates.induct with
  | case1 => rfl
  | case2 unit => rfl
  | case3 high low rest pair =>
      rw [unpaired.1] at pair
      cases pair
  | case4 high low rest other ih =>
      rw [joinSurrogates, if_neg other, ih unpaired.2]
      rfl

/-- The meanings of the letters of a string are its text, where no two halves are put together. -/
theorem value_eq_meanings {letters : Letters} (unpaired : AreUnpaired (letters.map Letter.unit)) :
    letters.value = letters.map meaning := by
  rw [Letters.value, join_unpaired _ unpaired, List.map_map]
  rfl

theorem body_cons (letter : Letter) (letters : Letters) (rest : List Char) :
    Letters.body (letter :: letters) ++ rest = letter.text ++ (letters.body ++ rest) := by
  simp [Letters.body]

theorem body_append (first second : Letters) (rest : List Char) :
    Letters.body (first ++ second) ++ rest = first.body ++ (second.body ++ rest) := by
  simp [Letters.body]

theorem ordinary_of_plain (noBreak : isBreak c = false) (noQuote : c ≠ '\'') (noSpace : c ≠ ' ')
    (ordinary : c ≠ '"' ∧ c ≠ '\\' ∧ 0x20 ≤ c.toNat) : isOrdinary c = true := by
  have noTab : c ≠ '\t' := by
    rintro rfl
    exact absurd ordinary.2.2 (by decide)
  simp [isOrdinary, isBlankOrBreak, noBreak, noQuote, noSpace, noTab, ordinary.1, ordinary.2.1]

/-- A letter is read before what follows it. One that is read together with its neighbours uses no
fuel of its own, so what follows must be read with either amount. -/
theorem solid_letter {more : Text} {last : Cursor} (letter : Letter) (fuel : Nat)
    (portable : letter.IsPortable) (noSpace : letter.text ≠ [' '])
    (here : cursor.rest = letter.text ++ rest)
    (later : ∀ enough, fuel ≤ enough →
      solid true enough (cursor.past letter.text) = .ok (more, last)) :
    solid true (fuel + 1) cursor = .ok (meaning letter :: more, last) := by
  cases letter with
  | plain first ordinary =>
      have meant : meaning (.plain first ordinary) = .char first := of_number_to_nat first
      by_cases quote : first = '\''
      · subst quote
        have read : solid true fuel cursor.next = .ok (more, last) := later fuel (Nat.le_refl _)
        rw [solid_quote fuel here, read, meant]
        rfl
      · have space : first ≠ ' ' := fun same => noSpace (congrArg (fun c => [c]) same)
        have read : solid true (fuel + 1) cursor.next = .ok (more, last) :=
          later (fuel + 1) (Nat.le_succ _)
        rw [solid_ordinary fuel here (ordinary_of_plain portable.2 quote space ordinary), read,
          meant]
        rfl
  | short first unit known =>
      have read : solid true fuel cursor.next.next = .ok (more, last) :=
        later fuel (Nat.le_refl _)
      rw [solid_escape fuel here (escape_simple (Cursor.next_at here).1 known), read]
      rfl
  | numbered a b c d unit known =>
      have read : solid true fuel (cursor.next.past ['u', a, b, c, d]) = .ok (more, last) :=
        later fuel (Nat.le_refl _)
      rw [solid_escape fuel here (escape_numbered (Cursor.next_at here).1 known), read]
      rfl

/-- Letters without a space in between are read in one go. -/
theorem solid_letters (letters : Letters) (portable : ∀ letter ∈ letters, letter.IsPortable)
    (noSpace : ∀ letter ∈ letters, letter.text ≠ [' ']) (fuel : Nat)
    (enough : letters.length < fuel)
    (here : cursor.rest = letters.body ++ c :: rest) (stop : c = ' ' ∨ c = '"') :
    solid true fuel cursor = .ok (letters.map meaning, cursor.past letters.body) := by
  induction letters generalizing cursor fuel with
  | nil =>
      cases fuel with
      | zero => cases enough
      | succ fuel => exact solid_stops fuel here stop
  | cons letter letters ih =>
      cases fuel with
      | zero => cases enough
      | succ fuel =>
          rw [List.length_cons] at enough
          rw [body_cons] at here
          have moved : cursor.past (Letters.body (letter :: letters)) =
              (cursor.past letter.text).past (Letters.body letters) := Cursor.past_append _ _ _
          rw [moved]
          refine solid_letter letter fuel (portable letter (by simp)) (noSpace letter (by simp))
            here
            fun more least => ?_
          exact ih (fun other among => portable other (by simp [among]))
            (fun other among => noSpace other (by simp [among])) more (by omega)
            (Cursor.rest_past here)

/-! ### The whole scalar -/

theorem spaces_on_line {blanks : List Char} (here : cursor.rest = blanks ++ c :: rest)
    (blank : ∀ c ∈ blanks, c = ' ') (other : isBlankOrBreak c = false) :
    spaces cursor = .ok (blanks, cursor.past blanks) := by
  have parts := (Bool.or_eq_false_iff.1 other)
  have taken : cursor.run (fun c => c = ' ' || c = '\t') = (blanks, cursor.past blanks) :=
    Cursor.run_past here (fun c among => by simp [blank c among]) (by
      rintro _ ⟨⟩
      exact parts.1)
  have after := Cursor.rest_past here
  simp only [spaces, taken, Cursor.line_break_none after parts.2, Cursor.peek_eq after]
  rfl

def isSpaceLetter (letter : Letter) : Bool := letter.text = [' ']

/-- Letters that hold a space are cut up before the first one and after those next to it. -/
theorem exists_turn (letters : Letters) (spaced : ∃ letter ∈ letters, letter.text = [' ']) :
    ∃ word blanks more : Letters, letters = word ++ (blanks ++ more) ∧ blanks ≠ [] ∧
      (∀ letter ∈ word, letter.text ≠ [' ']) ∧ (∀ letter ∈ blanks, letter.text = [' ']) ∧
      ∀ letter, more.head? = some letter → letter.text ≠ [' '] := by
  induction letters with
  | nil => simp at spaced
  | cons letter letters ih =>
      by_cases first : letter.text = [' ']
      · refine ⟨[], letter :: letters.takeWhile isSpaceLetter, letters.dropWhile isSpaceLetter,
          by simp [List.takeWhile_append_dropWhile], by simp, by simp, ?_, ?_⟩
        · intro other among
          rcases List.mem_cons.1 among with rfl | later
          · exact first
          · simpa [isSpaceLetter] using List.all_eq_true.1 List.all_takeWhile other later
        · intro other next
          have stop := List.head?_dropWhile_not isSpaceLetter letters
          rw [next] at stop
          simpa [isSpaceLetter] using stop
      · have later : ∃ letter ∈ letters, letter.text = [' '] := by simpa [first] using spaced
        obtain ⟨word, blanks, more, rfl, someBlanks, noSpace, space, solidNext⟩ := ih later
        exact ⟨letter :: word, blanks, more, rfl, someBlanks,
          List.forall_mem_cons.2 ⟨first, noSpace⟩, space, solidNext⟩

theorem body_of_spaces (blanks : Letters) (space : ∀ letter ∈ blanks, letter.text = [' ']) :
    (∀ c ∈ blanks.body, c = ' ') ∧ Text.ofChars blanks.body = blanks.map meaning := by
  induction blanks with
  | nil => exact ⟨by simp [Letters.body], rfl⟩
  | cons letter blanks ih =>
      obtain ⟨blank, same⟩ := ih fun other among => space other (by simp [among])
      have here := space letter (by simp)
      have meant : meaning letter = .char ' ' := by
        cases letter with
        | plain c ordinary =>
            cases here
            rfl
        | short c unit known => cases here
        | numbered a b c d unit known => cases here
      constructor
      · intro c among
        rw [Letters.body, List.flatMap_cons, here] at among
        rcases List.mem_append.1 among with first | later
        · exact List.mem_singleton.1 first
        · exact blank c later
      · rw [Letters.body, List.flatMap_cons, here, List.map_cons, meant, ← same]
        rfl

theorem starts_solid (letters : Letters) (rest : List Char)
    (portable : ∀ letter ∈ letters, letter.IsPortable)
    (noSpace : ∀ letter, letters.head? = some letter → letter.text ≠ [' ']) :
    ∃ c others, letters.body ++ '"' :: rest = c :: others ∧ isBlankOrBreak c = false := by
  cases letters with
  | nil => exact ⟨'"', rest, rfl, rfl⟩
  | cons letter letters =>
      have other := noSpace letter rfl
      have plain := portable letter (by simp)
      rw [body_cons]
      cases letter with
      | plain c ordinary =>
          have noTab : c ≠ '\t' := by
            rintro rfl
            exact absurd ordinary.2.2 (by decide)
          have space : c ≠ ' ' := fun same => other (congrArg (fun c => [c]) same)
          exact ⟨c, _, rfl, by simp [isBlankOrBreak, noTab, space, plain.2]⟩
      | short c unit known => exact ⟨'\\', _, rfl, rfl⟩
      | numbered a b c d unit known => exact ⟨'\\', _, rfl, rfl⟩

theorem exists_space_body (blanks : Letters) (someBlanks : blanks ≠ [])
    (space : ∀ letter ∈ blanks, letter.text = [' ']) : ∃ others, blanks.body = ' ' :: others := by
  cases blanks with
  | nil => exact absurd rfl someBlanks
  | cons letter blanks =>
      refine ⟨Letters.body blanks, ?_⟩
      rw [Letters.body, List.flatMap_cons, space letter (by simp)]
      rfl

theorem parts_end {word : Text} {after : Cursor} (fuel : Nat)
    (read : solid true (cursor.size + 1) cursor = .ok (word, after))
    (closing : after.peek = some '"') :
    parts true '"' (fuel + 1) cursor = .ok (word, after.next) := by
  rw [parts, read]
  simp only [bind, Except.bind, closing, if_true]
  rfl

theorem parts_turn {word more : Text} {blanks : List Char} {after next last : Cursor} (fuel : Nat)
    (read : solid true (cursor.size + 1) cursor = .ok (word, after))
    (unclosed : after.peek ≠ some '"') (skipped : spaces after = .ok (blanks, next))
    (later : parts true '"' fuel next = .ok (more, last)) :
    parts true '"' (fuel + 1) cursor = .ok (word ++ Text.ofChars blanks ++ more, last) := by
  rw [parts, read]
  simp only [bind, Except.bind, if_neg unclosed, skipped, later]
  rfl

/-- Solid text and blanks take turns up to the closing quote. -/
theorem parts_letters (letters : Letters) (portable : ∀ letter ∈ letters, letter.IsPortable)
    (fuel : Nat) (enough : letters.length < fuel) (long : letters.length ≤ cursor.size)
    (here : cursor.rest = letters.body ++ '"' :: rest) :
    parts true '"' fuel cursor =
      .ok (letters.map meaning, cursor.past (letters.body ++ ['"'])) := by
  induction fuel generalizing letters cursor with
  | zero => cases enough
  | succ fuel ih =>
      by_cases spaced : ∃ letter ∈ letters, letter.text = [' ']
      · obtain ⟨word, blanks, more, rfl, someBlanks, noSpace, space, solidNext⟩ :=
          exists_turn letters spaced
        have count : 0 < blanks.length := List.length_pos_iff.2 someBlanks
        simp only [List.length_append] at enough long
        have portableMore : ∀ letter ∈ more, letter.IsPortable :=
          fun letter among => portable letter (by simp [among])
        obtain ⟨blank, same⟩ := body_of_spaces blanks space
        obtain ⟨spaces, body⟩ := exists_space_body blanks someBlanks space
        obtain ⟨next, others, starts, noBlank⟩ := starts_solid more rest portableMore solidNext
        rw [body_append, body_append, body, List.cons_append] at here
        have afterWord := Cursor.rest_past here
        have read := solid_letters word (fun letter among => portable letter (by simp [among]))
          noSpace (cursor.size + 1) (by omega) here (.inl rfl)
        rw [← List.cons_append, ← body] at afterWord
        have skipped := spaces_on_line (starts ▸ afterWord) blank noBlank
        have later := ih more portableMore (by omega) (by simp only [Cursor.size_past]; omega)
          (Cursor.rest_past afterWord)
        have unclosed : (cursor.past word.body).peek ≠ some '"' := by
          rw [Cursor.peek_eq (Cursor.rest_past here)]
          decide
        have moved : cursor.past (Letters.body (word ++ (blanks ++ more)) ++ ['"']) =
            ((cursor.past word.body).past blanks.body).past (more.body ++ ['"']) := by
          rw [body_append, body_append, Cursor.past_append, Cursor.past_append blanks.body]
        rw [parts_turn fuel read unclosed skipped later, moved, same]
        simp
      · have solidText : ∀ letter ∈ letters, letter.text ≠ [' '] :=
          fun letter among same => spaced ⟨letter, among, same⟩
        have read := solid_letters letters portable solidText (cursor.size + 1) (by omega) here
          (.inr rfl)
        have closing := Cursor.peek_eq (Cursor.rest_past here)
        rw [parts_end fuel read closing, Cursor.past_append]
        rfl

theorem length_le_body (letters : Letters) : letters.length ≤ letters.body.length := by
  induction letters with
  | nil => exact Nat.le_refl _
  | cons letter letters ih =>
      have filled : 0 < letter.text.length := by cases letter <;> exact Nat.zero_lt_succ _
      have body : (Letters.body (letter :: letters)).length =
          letter.text.length + (Letters.body letters).length := by simp [Letters.body]
      rw [body, List.length_cons]
      omega

/-- A portable string is read as the text that it means, up to its closing quote. -/
theorem scan_letters (letters : Letters) (portable : letters.IsPortable)
    (here : cursor.rest = letters.text ++ rest) (long : cursor.rest.length ≤ cursor.size) :
    scan true cursor = .ok (letters.value, cursor.past letters.text) := by
  have count := length_le_body letters
  rw [here, letters.text_append, List.length_cons, List.length_append] at long
  rw [letters.text_append] at here
  have read := parts_letters letters portable.each (cursor.size + 1) (by omega)
    (by rw [Cursor.size_next]; omega) (Cursor.next_at here).1
  rw [value_eq_meanings portable.unpaired]
  exact read

end Stubwright.Yaml.Quoted
