import Mathlib.Logic.Relation
import Stubwright.Proofs.Yaml.NumeralForm
import Stubwright.Proofs.Yaml.Scanner

/-!
The tokens of a portable JSON text. Each bracket, comma, colon and scalar of its syntax tree is one
token, and a key is announced by a token in front of it.
-/

namespace Stubwright.Yaml.Scanner

open Json

variable {scanner after : Scanner} {level : Nat} {tokens : List Token} {text rest : List Char}
  {c : Char}

def Step (before after : Scanner) : Prop :=
  before.fetch = .ok after ∧ after.finished = false ∧
    after.cursor.rest.length < before.cursor.rest.length

abbrev Fetches : Scanner → Scanner → Prop := Relation.ReflTransGen Step

theorem Reading.congr (reading : Reading scanner level tokens text)
    (same : ahead text = ahead rest) : Reading scanner level tokens rest :=
  ⟨reading.atLevel, reading.read, reading.counted, reading.before.trans same, reading.long,
    reading.whole, reading.unfinished, reading.indent, reading.outer, reading.optional⟩

/-- What the next character yields is the next step. -/
theorem Reading.step {other : Nat} {more : List Token} {left : List Char} (mayStart : Bool)
    (reading : Reading scanner level tokens text) (next : ahead text = c :: rest)
    (visible : IsVisible c)
    (yields : ∀ ready, Reading ready level tokens (c :: rest) → ready.cursor.rest = c :: rest →
      Yields (fetchChar c ready) mayStart ready.cursor.rest.length other more left) :
    ∃ after, Step scanner after ∧ Reading after other more left ∧
      (mayStart = true → after.keyAllowed = true) := by
  obtain ⟨ready, standing, exactly, _, shorter, fetched⟩ := reading.fetched next visible
  obtain ⟨after, same, readingAfter, allowed, less⟩ := yields ready standing exactly
  exact ⟨after, ⟨fetched.trans same, readingAfter.unfinished, Nat.lt_of_lt_of_le less shorter⟩,
    readingAfter, allowed⟩

end Stubwright.Yaml.Scanner

namespace Stubwright.Json

open Yaml

mutual

def Tree.tokens : Tree → List Token
  | .word chars _ _ => [.scalar (.ofChars chars) true]
  | .number numeral => [.scalar (.ofChars numeral.text) true]
  | .string letters => [.scalar letters.value false]
  | .emptyArray _ => [.flowSequenceStart, .flowSequenceEnd]
  | .array _ items => .flowSequenceStart :: (items.tokens ++ [.flowSequenceEnd])
  | .emptyObject _ => [.flowMappingStart, .flowMappingEnd]
  | .object _ members => .flowMappingStart :: (members.tokens ++ [.flowMappingEnd])

def Items.tokens : Items → List Token
  | .last item _ => item.tokens
  | .more item _ _ rest => item.tokens ++ .flowEntry :: rest.tokens

def Members.tokens : Members → List Token
  | .last key value _ => .key :: .scalar key.letters.value false :: .value :: value.tokens
  | .more key value _ _ rest =>
      .key :: .scalar key.letters.value false :: .value ::
        (value.tokens ++ .flowEntry :: rest.tokens)

end

end Stubwright.Json

namespace Stubwright.Yaml.Scanner

open Json

variable {scanner : Scanner} {level : Nat} {tokens : List Token} {text rest : List Char} {c : Char}

theorem mark_visible {mark : Char}
    (known : mark ∈ ['[', ']', '\x7b', '\x7d', ',', ':', '"']) : IsVisible mark := by
  simp only [List.mem_cons, List.not_mem_nil, or_false] at known
  rcases known with rfl | rfl | rfl | rfl | rfl | rfl | rfl <;>
    exact ⟨rfl, rfl, by decide, by decide⟩

theorem Reading.plain_step {word gap : List Char}
    (reading : Reading scanner (level + 1) tokens (word ++ (gap ++ c :: rest)))
    (solid : ∀ c ∈ word, Plain.IsSolid c) (starts : StartsPlain word)
    (trail : Plain.IsTrail gap c) :
    ∃ after, Step scanner after ∧
      Reading after (level + 1) (.scalar (.ofChars word) true :: tokens) (gap ++ c :: rest) := by
  obtain ⟨first, others, rfl, visible, plain⟩ := starts.fetched
  obtain ⟨after, step, readingAfter, _⟩ := reading.step false (ahead_visible visible) visible
    fun ready standing here => by
      rw [plain ready (gap ++ c :: rest) here]
      exact plain_yields standing solid (by simpa using visible.2.2.1) (List.cons_ne_nil _ _)
        trail here
  exact ⟨after, step, readingAfter.congr (ahead_gap trail.blank _).symm⟩

theorem key_on_line {key : Key} (portable : key.IsPortable) :
    ∀ c ∈ key.letters.text ++ key.before.chars, isBreak c = false := by
  intro c among
  rcases List.mem_append.1 among with quoted | blank
  · exact (Letters.inline portable.letters c quoted).onLine
  · rw [portable.before c blank]
    rfl

/-- The mark of a key is not too old at its colon. -/
theorem mark_kept {ready string : Scanner} {key : Key} {allowed : Bool}
    (own : string.marks.head? = some ready.ownMark)
    (stands : ready.cursor.rest = key.letters.text ++ (key.before.chars ++ ':' :: rest))
    (moved : string.cursor = ready.cursor.past key.letters.text) (portable : key.IsPortable) :
    (string.readied key.before.chars allowed).marks.head? = some ready.ownMark := by
  have behind : (string.movedTo (string.cursor.past key.before.chars) allowed).cursor =
      ready.cursor.past (key.letters.text ++ key.before.chars) := by
    rw [Cursor.past_append, ← moved]
    rfl
  rw [← List.append_assoc] at stands
  have fresh : (string.movedTo (string.cursor.past key.before.chars) allowed).isStale
      ready.ownMark = false := by
    have short := portable.short
    rw [isStale, behind, Cursor.line_past stands (key_on_line portable), Cursor.index_past stands,
      List.length_append]
    simp only [ownMark, longestKey] at short ⊢
    simp
    omega
  obtain ⟨others, marks⟩ := List.head?_eq_some_iff.1 own
  have kept : (string.readied key.before.chars allowed).marks = ready.ownMark ::
      others.filter fun mark =>
        !(string.movedTo (string.cursor.past key.before.chars) allowed).isStale mark := by
    change string.marks.filter _ = _
    rw [marks, List.filter_cons_of_pos (by rw [fresh]; rfl)]
  rw [kept]
  rfl

/-- A string in front of a colon is a key: its mark is still there, because the two stand close
together on one line. -/
theorem Reading.key_step {key : Key} (portable : key.IsPortable)
    (reading : Reading scanner (level + 1) tokens (key.text ++ rest))
    (allowed : scanner.keyAllowed = true) :
    ∃ after, Fetches scanner after ∧ Reading after (level + 1)
      (.value :: .scalar key.letters.value false :: .key :: tokens) rest := by
  have parts : key.text ++ rest =
      key.letters.text ++ (key.before.chars ++ ':' :: (key.after.chars ++ rest)) := by
    simp [Key.text]
  have visible : IsVisible '"' := mark_visible (by decide)
  have next : ahead (key.text ++ rest) = key.text ++ rest := ahead_visible visible
  obtain ⟨ready, standing, here, kept, shorter, fetched⟩ := reading.fetched next visible
  have stands : ready.cursor.rest =
      key.letters.text ++ (key.before.chars ++ ':' :: (key.after.chars ++ rest)) := here.trans parts
  obtain ⟨marks, read, optional, own⟩ := quoted_eq standing key.letters portable.letters stands
  let string := push (.scalar key.letters.value false) (moved
    (ready.cursor.past key.letters.text) ((ready.withMarks marks).entered (level + 1) false))
  have stringRead : Reading string (level + 1) (.scalar key.letters.value false :: tokens)
      (key.before.chars ++ ':' :: (key.after.chars ++ rest)) :=
    ((standing.with_marks optional).entered (level + 1) false).pushed key.letters.text _ stands
  have behind : string.cursor.rest = key.before.chars ++ ':' :: (key.after.chars ++ rest) :=
    Cursor.rest_past stands
  have blank : IsGap key.before.chars := fun c among => .inl (portable.before c among)
  obtain ⟨mayStart, _, colonFetched⟩ :=
    fetch_visible stringRead blank behind (mark_visible (by decide))
  obtain ⟨colonRead, colonHere⟩ := stringRead.readied mayStart behind (by
    rw [ahead_gap blank])
  have first : (string.readied key.before.chars mayStart).marks.head? = some ready.ownMark :=
    mark_kept (own (kept allowed)) stands rfl portable
  obtain ⟨after, valued, afterRead, _, less⟩ := value_yields colonRead colonHere first
    standing.atLevel standing.counted
  have inFlow : (string.readied key.before.chars mayStart).inFlow = true :=
    decide_eq_true (by rw [colonRead.atLevel]; exact Nat.succ_ne_zero level)
  refine ⟨after, .tail
    (.single ⟨fetched.trans ((fetch_quoted stands).trans read), stringRead.unfinished, ?_⟩)
    ⟨colonFetched.trans ((fetch_value colonHere inFlow).trans valued), afterRead.unfinished, ?_⟩,
    afterRead.congr (ahead_gap portable.after rest)⟩
  · exact Nat.lt_of_lt_of_le (rest_shortens key.letters.text stands (List.cons_ne_nil _ _)) shorter
  · rw [colonHere] at less
    rw [behind, List.length_append]
    omega

theorem Reading.string_step {letters : Letters} (portable : letters.IsPortable)
    (reading : Reading scanner level tokens (letters.text ++ rest)) :
    ∃ after, Step scanner after ∧
      Reading after level (.scalar letters.value false :: tokens) rest := by
  have visible : IsVisible '"' := mark_visible (by decide)
  obtain ⟨after, step, readingAfter, _⟩ := reading.step false
    (ahead_visible visible) visible fun ready standing here => by
      rw [fetch_quoted here]
      exact quoted_yields standing letters portable here
  exact ⟨after, step, readingAfter⟩

section

variable {gap : Gap} {mark : Char} {token : Token}

/-- An opening bracket and the white space after it. -/
theorem Reading.open_step (portable : gap.IsPortable) (opens : Opens mark token)
    (reading : Reading scanner level tokens (mark :: (gap.chars ++ rest))) :
    ∃ after, Step scanner after ∧ Reading after (level + 1) (token :: tokens) rest ∧
      after.keyAllowed = true := by
  have visible : IsVisible mark := mark_visible (by cases opens <;> decide)
  obtain ⟨after, step, readingAfter, allowed⟩ := reading.step true
    (ahead_visible visible) visible fun ready standing here => by
      rw [fetch_open opens here]
      exact flow_start_yields here standing token
  exact ⟨after, step, readingAfter.congr (ahead_gap portable rest), allowed rfl⟩

theorem Reading.close_step (closes : Closes mark token)
    (reading : Reading scanner (level + 1) tokens (mark :: rest)) :
    ∃ after, Step scanner after ∧ Reading after level (token :: tokens) rest := by
  have visible : IsVisible mark := mark_visible (by cases closes <;> decide)
  obtain ⟨after, step, readingAfter, _⟩ := reading.step false
    (ahead_visible visible) visible fun ready standing here => by
      rw [fetch_close closes here]
      exact flow_end_yields here standing token
  exact ⟨after, step, readingAfter⟩

/-- A comma with the white space on both its sides. -/
theorem Reading.entry_step {next : Gap} (portable : gap.IsPortable) (portableNext : next.IsPortable)
    (reading : Reading scanner level tokens (gap.chars ++ ',' :: (next.chars ++ rest))) :
    ∃ after, Step scanner after ∧ Reading after level (.flowEntry :: tokens) rest ∧
      after.keyAllowed = true := by
  have visible : IsVisible ',' := mark_visible (by decide)
  have ahead_comma :
      ahead (gap.chars ++ ',' :: (next.chars ++ rest)) = ',' :: (next.chars ++ rest) :=
    (ahead_gap portable _).trans (ahead_visible visible)
  obtain ⟨after, step, readingAfter, allowed⟩ := reading.step true ahead_comma visible
    fun ready standing here => by
      rw [fetch_entry here]
      exact flow_entry_yields here standing
  exact ⟨after, step, readingAfter.congr (ahead_gap portableNext rest), allowed rfl⟩

end

/-! ### Words and numbers -/

theorem word_solid {chars : List Char} {value : Value} (known : (chars, value) ∈ words)
    (portable : (Tree.word chars value known).IsPortable) :
    (∀ c ∈ chars, Plain.IsSolid c) ∧ StartsPlain chars := by
  have alphabetic (c : Char) (others : List Char)
      (facts : isLayout c = false ∧ isBreak c = false ∧ c ≠ '#' ∧ c ≠ '\ufeff')
      (plain : isIndicator c = false ∧ c ≠ '.') : StartsPlain (c :: others) :=
    .visible c others facts plain.1 plain.2
  simp only [words, List.mem_cons, Prod.mk.injEq, List.not_mem_nil, or_false] at known
  rcases known with ⟨rfl, rfl⟩ | ⟨rfl, rfl⟩ | ⟨rfl, rfl⟩ | ⟨rfl, rfl⟩ | ⟨rfl, rfl⟩ | ⟨rfl, rfl⟩
  · exact ⟨List.all_iff_forall_prop.1 (by decide), alphabetic _ _ (by decide) (by decide)⟩
  · exact ⟨List.all_iff_forall_prop.1 (by decide), alphabetic _ _ (by decide) (by decide)⟩
  · exact ⟨List.all_iff_forall_prop.1 (by decide), alphabetic _ _ (by decide) (by decide)⟩
  · rcases portable with same | ⟨_, same⟩ <;> cases same
  · rcases portable with same | ⟨_, same⟩ <;> cases same
  · rcases portable with same | ⟨_, same⟩ <;> cases same

theorem digit_starts (digit : c.isDigit = true) :
    IsVisible c ∧ isIndicator c = false ∧ isBlankOrBreak c = false ∧ c ≠ '.' ∧ c ≠ '-' := by
  have known : ∀ c ∈ digitChars, (isLayout c = false ∧ isBreak c = false ∧ c ≠ '#' ∧ c ≠ '\ufeff') ∧
      isIndicator c = false ∧ isBlankOrBreak c = false ∧ c ≠ '.' ∧ c ≠ '-' :=
    List.all_iff_forall_prop.1 (by decide)
  exact known c (mem_digit_chars digit)

theorem numeral_starts_plain (numeral : Numeral) : StartsPlain numeral.text := by
  obtain ⟨c, others, digit, text | text⟩ := numeral.exists_text
  · obtain ⟨visible, noIndicator, _, noPoint, _⟩ := digit_starts digit
    exact text ▸ .visible c others visible noIndicator noPoint
  · obtain ⟨_, _, solid, _, noDash⟩ := digit_starts digit
    exact text ▸ .dash c others solid noDash

end Stubwright.Yaml.Scanner

namespace Stubwright.Json

open Yaml Scanner

/-- A collection ends with its bracket, a word or a number where something else follows that does
not belong to it. -/
inductive Tree.IsEnded (tree : Tree) : Nat → List Char → Prop where
  | closed {level : Nat} {rest : List Char} (deep : 0 < tree.depth) : tree.IsEnded level rest
  | followed {level : Nat} {gap rest : List Char} {c : Char} (trail : Plain.IsTrail gap c) :
      tree.IsEnded (level + 1) (gap ++ c :: rest)

theorem Tree.ended_gap (tree : Tree) {gap : Gap} {level : Nat} {mark : Char} {rest : List Char}
    (portable : gap.IsPortable) (delimiter : Plain.IsDelimiter mark) :
    tree.IsEnded (level + 1) (gap.chars ++ mark :: rest) :=
  .followed ⟨portable, delimiter⟩

theorem comma_delimiter : Plain.IsDelimiter ',' := by decide

theorem closing_delimiter : Plain.IsDelimiter ']' ∧ Plain.IsDelimiter '\x7d' := by decide

mutual

/-- The tokens of a value are read, and no more of the text than the white space after it. -/
theorem Tree.fetched (tree : Tree) {scanner : Scanner} {level : Nat} {tokens : List Token}
    {rest : List Char} (portable : tree.IsPortable) (ended : tree.IsEnded level rest)
    (reading : Reading scanner level tokens (tree.text ++ rest)) :
    ∃ after, Fetches scanner after ∧ Reading after level (tree.tokens.reverse ++ tokens) rest :=
  match tree with
  | .word chars value known => by
      obtain ⟨solid, starts⟩ := word_solid known portable
      cases ended with
      | closed deep => cases deep
      | followed trail =>
          obtain ⟨after, step, reading⟩ := reading.plain_step solid starts trail
          exact ⟨after, .single step, reading⟩
  | .number numeral => by
      cases ended with
      | closed deep => cases deep
      | followed trail =>
          obtain ⟨after, step, reading⟩ := reading.plain_step
            (fun c among => numeral_char_solid c (numeral_text_chars numeral c among))
            (numeral_starts_plain numeral) trail
          exact ⟨after, .single step, reading⟩
  | .string letters => by
      obtain ⟨after, step, reading⟩ := reading.string_step portable
      exact ⟨after, .single step, reading⟩
  | .emptyArray gap => by
      rw [Tree.empty_array_append] at reading
      obtain ⟨inside, first, reading, _⟩ := reading.open_step portable .sequence
      obtain ⟨after, last, reading⟩ := reading.close_step .sequence
      exact ⟨after, .tail (.single first) last, reading⟩
  | .array gap items => by
      rw [Tree.array_append] at reading
      obtain ⟨inside, first, reading, _⟩ := reading.open_step portable.1 .sequence
      obtain ⟨before, steps, reading⟩ := Items.fetched items portable.2 reading
      obtain ⟨after, last, reading⟩ := reading.close_step .sequence
      refine ⟨after, .tail (.head first steps) last, ?_⟩
      simpa [Tree.tokens] using reading
  | .emptyObject gap => by
      rw [Tree.empty_object_append] at reading
      obtain ⟨inside, first, reading, _⟩ := reading.open_step portable .mapping
      obtain ⟨after, last, reading⟩ := reading.close_step .mapping
      exact ⟨after, .tail (.single first) last, reading⟩
  | .object gap members => by
      rw [Tree.object_append] at reading
      obtain ⟨inside, first, reading, allowed⟩ := reading.open_step portable.1 .mapping
      obtain ⟨before, steps, reading⟩ := Members.fetched members portable.2 reading allowed
      obtain ⟨after, last, reading⟩ := reading.close_step .mapping
      refine ⟨after, .tail (.head first steps) last, ?_⟩
      simpa [Tree.tokens] using reading

theorem Items.fetched (items : Items) {scanner : Scanner} {level : Nat} {tokens : List Token}
    {rest : List Char} (portable : items.IsPortable)
    (reading : Reading scanner (level + 1) tokens (items.text ++ ']' :: rest)) :
    ∃ after, Fetches scanner after ∧
      Reading after (level + 1) (items.tokens.reverse ++ tokens) (']' :: rest) :=
  match items with
  | .last item gap => by
      rw [Items.last_append] at reading
      obtain ⟨after, steps, reading⟩ :=
        Tree.fetched item portable.1 (item.ended_gap portable.2 closing_delimiter.1) reading
      exact ⟨after, steps, reading.congr (ahead_gap portable.2 _)⟩
  | .more item gap next others => by
      obtain ⟨portableItem, portableGap, portableNext, portableOthers⟩ := portable
      rw [Items.more_append] at reading
      obtain ⟨_, steps, reading⟩ :=
        Tree.fetched item portableItem (item.ended_gap portableGap comma_delimiter) reading
      obtain ⟨_, step, reading, _⟩ := reading.entry_step portableGap portableNext
      obtain ⟨after, more, reading⟩ := Items.fetched others portableOthers reading
      refine ⟨after, steps.trans (.head step more), ?_⟩
      simpa [Items.tokens] using reading

/-- The tokens of members where a key may start. -/
theorem Members.fetched (members : Members) {scanner : Scanner} {level : Nat}
    {tokens : List Token} {rest : List Char} (portable : members.IsPortable)
    (reading : Reading scanner (level + 1) tokens (members.text ++ '\x7d' :: rest))
    (allowed : scanner.keyAllowed = true) :
    ∃ after, Fetches scanner after ∧
      Reading after (level + 1) (members.tokens.reverse ++ tokens) ('\x7d' :: rest) :=
  match members with
  | .last key value gap => by
      obtain ⟨portableKey, portableValue, portableGap⟩ := portable
      rw [Members.last_append] at reading
      obtain ⟨_, keySteps, reading⟩ := reading.key_step portableKey allowed
      obtain ⟨after, steps, reading⟩ :=
        Tree.fetched value portableValue (value.ended_gap portableGap closing_delimiter.2) reading
      refine ⟨after, keySteps.trans steps, ?_⟩
      simpa [Members.tokens] using reading.congr (ahead_gap portableGap _)
  | .more key value gap next others => by
      obtain ⟨portableKey, portableValue, portableGap, portableNext, portableOthers⟩ := portable
      rw [Members.more_append] at reading
      obtain ⟨_, keySteps, reading⟩ := reading.key_step portableKey allowed
      obtain ⟨_, steps, reading⟩ :=
        Tree.fetched value portableValue (value.ended_gap portableGap comma_delimiter) reading
      obtain ⟨_, step, reading, again⟩ := reading.entry_step portableGap portableNext
      obtain ⟨after, more, reading⟩ := Members.fetched others portableOthers reading again
      refine ⟨after, keySteps.trans (steps.trans (.head step more)), ?_⟩
      simpa [Members.tokens] using reading

end

/-! ### All tokens of a text -/

section

variable {scanner : Scanner} {tokens : List Token} {text : List Char}

/-- Enough fuel for the rest of a text is enough at every later place. -/
theorem fetch_all_along {after : Scanner} (steps : Fetches scanner after) (fuel : Nat)
    (enough : scanner.cursor.rest.length < fuel) :
    ∃ left, after.cursor.rest.length < left ∧
      TokenList.fetchAll fuel scanner = TokenList.fetchAll left after := by
  induction steps using Relation.ReflTransGen.head_induction_on generalizing fuel with
  | refl => exact ⟨fuel, enough, rfl⟩
  | head step _ ih =>
      obtain ⟨fetched, unfinished, less⟩ := step
      cases fuel with
      | zero => cases enough
      | succ fuel =>
          obtain ⟨left, still, same⟩ := ih fuel (by omega)
          refine ⟨left, still, Eq.trans ?_ same⟩
          simp only [TokenList.fetchAll, fetched, unfinished, Bool.false_eq_true, if_false]

theorem fetch_all_end {level fuel : Nat} (reading : Reading scanner level tokens text)
    (areBlanks : IsGap text) (enough : scanner.cursor.rest.length < fuel) :
    TokenList.fetchAll fuel scanner = ⟨tokens.reverse, none⟩ := by
  have blank : IsGap scanner.cursor.rest := by
    obtain ⟨gap, isGap, same⟩ := exists_layout scanner.cursor.rest
    have nothing : ahead text = [] := by
      have none := ahead_gap areBlanks []
      rwa [List.append_nil] at none
    rw [reading.before, nothing, List.append_nil] at same
    rwa [same]
  obtain ⟨last, fetched, finished, same⟩ := fetch_end reading blank
  cases fuel with
  | zero => cases enough
  | succ fuel => simp only [TokenList.fetchAll, fetched, finished, if_true, same]

end

/-- The tokens of a portable text that is a collection are those of its tree. -/
theorem Document.tokens (document : Document) {deepest : Nat}
    (portable : document.IsPortable deepest) (deep : 0 < document.root.depth) :
    TokenList.ofStream ⟨document.text, none⟩ = ⟨document.root.tokens, none⟩ := by
  let start : Scanner := { cursor := .start document.text none }
  have starts : Reading start 0 [] (document.root.text ++ document.after.chars) :=
    ⟨rfl, rfl, rfl, ahead_gap portable.before _, Nat.le_refl _, rfl, rfl, rfl, rfl, by rintro _ ⟨⟩⟩
  obtain ⟨last, steps, reading⟩ := document.root.fetched portable.root (.closed deep) starts
  obtain ⟨fuel, enough, same⟩ :=
    fetch_all_along steps (document.text.length + 2) (Nat.lt_add_of_pos_right (by decide))
  have ended := fetch_all_end reading portable.after enough
  rw [List.append_nil, List.reverse_reverse] at ended
  exact same.trans ended

end Stubwright.Json
