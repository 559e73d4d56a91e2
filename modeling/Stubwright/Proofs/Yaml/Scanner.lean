import Stubwright.Proofs.Yaml.Cursor
import Stubwright.Proofs.Yaml.Plain
import Stubwright.Proofs.Yaml.Quoted
import Stubwright.Yaml.Token

/-!
How a scanner goes on inside flow collections. What it stands before is a text up to its white
space: a plain scalar takes the white space after it, other tokens leave it. No mark of a key is
ever required there, so marks can always be dropped.
-/

namespace Stubwright.Yaml.Scanner

variable {scanner : Scanner} {level : Nat} {tokens : List Token} {text rest : List Char} {c : Char}

def isLayout (c : Char) : Bool := c = ' ' || c = '\n'

def ahead (text : List Char) : List Char := text.dropWhile isLayout

/-- No mark says that a key must start there. -/
def AreOptional (marks : List KeyMark) : Prop := ∀ mark ∈ marks, mark.required = false

/-- A scanner that has read some tokens, the last one first, and stands before a text. -/
structure Reading (scanner : Scanner) (level : Nat) (tokens : List Token) (text : List Char) :
    Prop where
  atLevel : scanner.level = level
  read : scanner.tokens = tokens
  counted : scanner.count = tokens.length
  before : ahead scanner.cursor.rest = ahead text
  long : scanner.cursor.rest.length ≤ scanner.cursor.size
  whole : scanner.cursor.ending = none
  unfinished : scanner.finished = false
  indent : scanner.indent = -1
  outer : scanner.outer = []
  optional : AreOptional scanner.marks

def withMarks (marks : List KeyMark) (scanner : Scanner) : Scanner :=
  { scanner with marks := marks }

/-- A change of the marks changes nothing else. -/
theorem Reading.with_marks {marks : List KeyMark} (reading : Reading scanner level tokens text)
    (optional : AreOptional marks) : Reading (scanner.withMarks marks) level tokens text :=
  ⟨reading.atLevel, reading.read, reading.counted, reading.before, reading.long, reading.whole,
    reading.unfinished, reading.indent, reading.outer, optional⟩

theorem none_required (optional : AreOptional scanner.marks) (chosen : KeyMark → Bool) :
    (scanner.marks.any fun mark => chosen mark && mark.required) = false := by
  rw [List.any_eq_false]
  intro mark among
  rw [optional mark among, Bool.and_false]
  exact Bool.false_ne_true

theorem optional_filter {marks : List KeyMark} (optional : AreOptional marks)
    (kept : KeyMark → Bool) : AreOptional (marks.filter kept) :=
  fun mark among => optional mark (List.mem_filter.1 among).1

theorem drop_mark_optional (optional : AreOptional scanner.marks) :
    ∃ marks, scanner.dropMark = .ok (scanner.withMarks marks) ∧ AreOptional marks := by
  refine ⟨_, if_neg ?_, optional_filter optional _⟩
  rw [none_required optional]
  exact Bool.false_ne_true

def freshMarks (scanner : Scanner) : List KeyMark :=
  scanner.marks.filter fun mark => !scanner.isStale mark

theorem drop_stale_optional (optional : AreOptional scanner.marks) :
    scanner.dropStale = .ok (scanner.withMarks scanner.freshMarks) := by
  refine if_neg ?_
  rw [none_required optional]
  exact Bool.false_ne_true

def ownMark (scanner : Scanner) : KeyMark :=
  ⟨scanner.level, scanner.count, false, scanner.cursor.index, scanner.cursor.line,
    scanner.cursor.column⟩

theorem save_mark_optional (optional : AreOptional scanner.marks) (indent : scanner.indent = -1) :
    ∃ marks, scanner.saveMark = .ok (scanner.withMarks marks) ∧ AreOptional marks ∧
      (scanner.keyAllowed = true → marks.head? = some scanner.ownMark) := by
  by_cases allowed : scanner.keyAllowed = true
  · obtain ⟨marks, dropped, others⟩ := drop_mark_optional optional
    have below : (scanner.indent == (scanner.cursor.column : Int)) = false := by
      rw [indent, beq_eq_false_iff_ne]
      omega
    refine ⟨scanner.ownMark :: marks, ?_, List.forall_mem_cons.2 ⟨rfl, others⟩, fun _ => rfl⟩
    simp only [saveMark, dropped, below, allowed, Bool.not_true, Bool.false_eq_true, if_false,
      Bool.and_false, bind, Except.bind]
    rfl
  · have refused : (!scanner.keyAllowed) = true := by simpa using allowed
    exact ⟨scanner.marks, if_pos refused, optional, fun same => absurd same allowed⟩

/-! ### White space before a token -/

def IsVisible (c : Char) : Prop := isLayout c = false ∧ isBreak c = false ∧ c ≠ '#' ∧ c ≠ '\ufeff'

def IsGap (gap : List Char) : Prop := ∀ c ∈ gap, c = ' ' ∨ c = '\n'

def movedTo (cursor : Cursor) (allowed : Bool) (scanner : Scanner) : Scanner :=
  { scanner with cursor := cursor, keyAllowed := allowed }

theorem no_comment {cursor : Cursor} (other : cursor.peek ≠ some '#') :
    cursor.skipComment = cursor := if_neg other

/-- On the last line of white space there are only blanks to skip. -/
theorem to_next_token_blanks {blanks : List Char} (fuel : Nat)
    (allSpaces : ∀ c ∈ blanks, decide (c = ' ') = true)
    (here : scanner.cursor.rest = blanks ++ rest) (stops : ∀ c, rest.head? = some c → IsVisible c) :
    toNextToken (fuel + 1) scanner =
      scanner.movedTo (scanner.cursor.past blanks) scanner.keyAllowed := by
  have skipped : scanner.cursor.skip (· = ' ') = scanner.cursor.past blanks :=
    Cursor.skip_past here allSpaces fun c first => by
      have visible := (stops c first).1
      simp only [isLayout, Bool.or_eq_false_iff] at visible
      exact visible.1
  have next : (scanner.cursor.past blanks).peek = rest.head? :=
    congrArg List.head? (Cursor.rest_past here)
  have noComment : (scanner.cursor.past blanks).peek ≠ some '#' := fun first =>
    (stops '#' (next ▸ first)).2.2.1 rfl
  have noBreak : (scanner.cursor.past blanks).lineBreak? = none :=
    Cursor.line_break_none_of fun c first => (stops c (next ▸ first)).2.1
  simp only [toNextToken, skipped, no_comment noComment, noBreak]
  rfl

/-- A line break is skipped together with the blanks before it, and a key may follow it. -/
theorem to_next_token_feed {blanks : List Char} (fuel : Nat)
    (allSpaces : ∀ c ∈ blanks, decide (c = ' ') = true)
    (here : scanner.cursor.rest = blanks ++ '\n' :: rest) :
    toNextToken (fuel + 1) scanner = toNextToken fuel
      (scanner.movedTo (scanner.cursor.past blanks).next
        (scanner.keyAllowed || !scanner.inFlow)) := by
  have skipped : scanner.cursor.skip (· = ' ') = scanner.cursor.past blanks :=
    Cursor.skip_past here allSpaces (by rintro _ ⟨⟩; rfl)
  have feed := Cursor.rest_past here
  have noComment : (scanner.cursor.past blanks).peek ≠ some '#' := by
    rw [Cursor.peek_eq feed]
    decide
  simp only [toNextToken, skipped, no_comment noComment, Cursor.line_break_feed feed]
  rfl

theorem to_next_token_gap {gap : List Char} (fuel : Nat) (enough : gap.length < fuel)
    (areBlanks : IsGap gap) (here : scanner.cursor.rest = gap ++ rest)
    (stops : ∀ c, rest.head? = some c → IsVisible c) :
    ∃ allowed, toNextToken fuel scanner = scanner.movedTo (scanner.cursor.past gap) allowed ∧
      (scanner.keyAllowed = true → allowed = true) := by
  induction fuel generalizing scanner gap with
  | zero => cases enough
  | succ fuel ih =>
      obtain ⟨blanks, areSpaces, parts⟩ := Plain.exists_lines gap areBlanks
      have allSpaces : ∀ c ∈ blanks, decide (c = ' ') = true := by simpa using areSpaces
      rcases parts with rfl | ⟨more, rfl⟩
      · exact ⟨scanner.keyAllowed, to_next_token_blanks fuel allSpaces here stops, id⟩
      · rw [List.append_assoc, List.cons_append] at here
        rw [List.length_append, List.length_cons] at enough
        have behind : (scanner.movedTo (scanner.cursor.past blanks).next
            (scanner.keyAllowed || !scanner.inFlow)).cursor.rest = more ++ rest :=
          (Cursor.next_at (Cursor.rest_past here)).1
        obtain ⟨allowed, moved, kept⟩ :=
          ih (by omega) (fun c among => areBlanks c (by simp [among])) behind
        refine ⟨allowed, ?_, fun same => kept ?_⟩
        · rw [to_next_token_feed fuel allSpaces here, Cursor.past_append]
          exact moved
        · change (scanner.keyAllowed || !scanner.inFlow) = true
          rw [same, Bool.true_or]

def readied (gap : List Char) (allowed : Bool) (scanner : Scanner) : Scanner :=
  let moved := scanner.movedTo (scanner.cursor.past gap) allowed
  moved.withMarks moved.freshMarks

theorem Reading.readied {gap : List Char} (reading : Reading scanner level tokens text)
    (allowed : Bool) (here : scanner.cursor.rest = gap ++ rest)
    (same : ahead rest = ahead text) :
    Reading (scanner.readied gap allowed) level tokens text ∧
      (scanner.readied gap allowed).cursor.rest = rest := by
  have behind : (scanner.cursor.past gap).rest = rest := Cursor.rest_past here
  have long := reading.long
  rw [here, List.length_append] at long
  refine ⟨⟨reading.atLevel, reading.read, reading.counted, ?_, ?_, ?_, reading.unfinished,
    reading.indent, reading.outer, optional_filter reading.optional _⟩, behind⟩
  · change ahead (scanner.cursor.past gap).rest = ahead text
    rw [behind, same]
  · change (scanner.cursor.past gap).rest.length ≤ (scanner.cursor.past gap).size
    rw [behind, Cursor.size_past]
    omega
  · change (scanner.cursor.past gap).ending = none
    rw [Cursor.ending_past]
    exact reading.whole

theorem unwind_flow (outer : scanner.outer = []) (column : Int) :
    scanner.unwind column = scanner := by
  rw [unwind, outer, unwindFrom, ite_self]

theorem no_order_mark {gap : List Char} (areBlanks : IsGap gap)
    (here : scanner.cursor.rest = gap ++ rest) (stops : ∀ c, rest.head? = some c → IsVisible c) :
    scanner.skipOrderMark = scanner := by
  refine if_neg fun both => ?_
  have first := both.2
  rw [Cursor.peek, here] at first
  cases gap with
  | nil => exact (stops _ first).2.2.2 rfl
  | cons c gap =>
      cases Option.some.inj first
      exact absurd (areBlanks '\ufeff' (by simp)) (by decide)

/-- White space is skipped before anything is fetched. -/
theorem ready_behind {gap : List Char} (reading : Reading scanner level tokens text)
    (areBlanks : IsGap gap) (here : scanner.cursor.rest = gap ++ rest)
    (stops : ∀ c, rest.head? = some c → IsVisible c) :
    ∃ allowed, (scanner.keyAllowed = true → allowed = true) ∧
      (toNextToken (scanner.cursor.size + 1) scanner.skipOrderMark).dropStale =
        .ok (scanner.readied gap allowed) := by
  have long := reading.long
  rw [here, List.length_append] at long
  obtain ⟨allowed, moved, kept⟩ :=
    to_next_token_gap (scanner.cursor.size + 1) (by omega) areBlanks here stops
  refine ⟨allowed, kept, ?_⟩
  rw [no_order_mark areBlanks here stops, moved]
  exact drop_stale_optional reading.optional

/-- What is fetched is the token that the first visible character starts. -/
theorem fetch_visible {gap : List Char} (reading : Reading scanner level tokens text)
    (areBlanks : IsGap gap) (here : scanner.cursor.rest = gap ++ c :: rest)
    (visible : IsVisible c) :
    ∃ allowed, (scanner.keyAllowed = true → allowed = true) ∧
      scanner.fetch = fetchChar c (scanner.readied gap allowed) := by
  obtain ⟨allowed, kept, ready⟩ :=
    ready_behind reading areBlanks here (by rintro _ ⟨⟩; exact visible)
  have first : (scanner.readied gap allowed).cursor.peek = some c :=
    Cursor.peek_eq (Cursor.rest_past here)
  have whole : (scanner.readied gap allowed).cursor.ending = none :=
    (Cursor.ending_past gap scanner.cursor).trans reading.whole
  have outer : (scanner.readied gap allowed).outer = [] := reading.outer
  refine ⟨allowed, kept, ?_⟩
  simp only [fetch, ready, bind, Except.bind, unwind_flow outer, first, whole]
  cases fetchChar c (scanner.readied gap allowed) with
  | error failure => rfl
  | ok after =>
      dsimp only
      split <;> rfl

/-- Where only white space is left nothing more is read. -/
theorem fetch_end (reading : Reading scanner level tokens text)
    (areBlanks : IsGap scanner.cursor.rest) :
    ∃ after, scanner.fetch = .ok after ∧ after.finished = true ∧ after.tokens = tokens := by
  have here : scanner.cursor.rest = scanner.cursor.rest ++ [] := (List.append_nil _).symm
  obtain ⟨allowed, _, ready⟩ := ready_behind reading areBlanks here (by rintro _ ⟨⟩)
  have nothing : (scanner.readied scanner.cursor.rest allowed).cursor.peek = none :=
    congrArg List.head? (Cursor.rest_past here)
  have whole : (scanner.readied scanner.cursor.rest allowed).cursor.ending = none :=
    (Cursor.ending_past _ _).trans reading.whole
  have outer : (scanner.readied scanner.cursor.rest allowed).outer = [] := reading.outer
  have optional : AreOptional (scanner.readied scanner.cursor.rest allowed).marks :=
    optional_filter reading.optional _
  obtain ⟨marks, dropped, _⟩ := drop_mark_optional optional
  refine ⟨{ (scanner.readied scanner.cursor.rest allowed).withMarks marks with finished := true },
    ?_, rfl, reading.read⟩
  simp only [fetch, ready, bind, Except.bind, unwind_flow outer, nothing, whole, dropped]
  rfl

theorem exists_layout (text : List Char) : ∃ gap, IsGap gap ∧ text = gap ++ ahead text := by
  refine ⟨text.takeWhile isLayout, fun c among => ?_, List.takeWhile_append_dropWhile.symm⟩
  have layout := List.all_eq_true.1 List.all_takeWhile c among
  simpa [isLayout] using layout

theorem ahead_gap {gap : List Char} (areBlanks : IsGap gap) (rest : List Char) :
    ahead (gap ++ rest) = ahead rest := by
  refine List.dropWhile_append_of_pos fun c among => ?_
  rcases areBlanks c among with rfl | rfl <;> rfl

theorem ahead_visible (visible : IsVisible c) : ahead (c :: rest) = c :: rest := by
  rw [ahead, List.dropWhile_cons_of_neg (by simp [visible.1])]

/-- Before the next token the scanner stands right at it. -/
theorem Reading.fetched (reading : Reading scanner level tokens text)
    (next : ahead text = c :: rest) (visible : IsVisible c) :
    ∃ ready, Reading ready level tokens (c :: rest) ∧ ready.cursor.rest = c :: rest ∧
      (scanner.keyAllowed = true → ready.keyAllowed = true) ∧
      ready.cursor.rest.length ≤ scanner.cursor.rest.length ∧
      scanner.fetch = fetchChar c ready := by
  obtain ⟨gap, areBlanks, here⟩ := exists_layout scanner.cursor.rest
  rw [reading.before, next] at here
  obtain ⟨allowed, kept, fetched⟩ := fetch_visible reading areBlanks here visible
  have same : ahead (c :: rest) = ahead text := by rw [next, ahead_visible visible]
  obtain ⟨standing, exactly⟩ := reading.readied allowed here same
  refine ⟨_, ⟨standing.atLevel, standing.read, standing.counted, ?_, standing.long, standing.whole,
    standing.unfinished, standing.indent, standing.outer, standing.optional⟩, exactly, kept, ?_,
    fetched⟩
  · rw [exactly]
  · rw [exactly, here, List.length_append]
    omega

/-! ### One token -/

def entered (level : Nat) (allowed : Bool) (scanner : Scanner) : Scanner :=
  { scanner with level := level, keyAllowed := allowed }

theorem Reading.entered (reading : Reading scanner level tokens text) (other : Nat)
    (allowed : Bool) : Reading (scanner.entered other allowed) other tokens text :=
  ⟨rfl, reading.read, reading.counted, reading.before, reading.long, reading.whole,
    reading.unfinished, reading.indent, reading.outer, reading.optional⟩

/-- A token has been read whose text stood where the scanner stands. -/
theorem Reading.pushed (reading : Reading scanner level tokens text) (part : List Char)
    (token : Token) (here : scanner.cursor.rest = part ++ rest) :
    Reading ((scanner.moved (scanner.cursor.past part)).push token) level (token :: tokens)
      rest := by
  have behind : (scanner.cursor.past part).rest = rest := Cursor.rest_past here
  have long := reading.long
  rw [here, List.length_append] at long
  refine ⟨reading.atLevel, congrArg _ reading.read, congrArg (· + 1) reading.counted, ?_, ?_, ?_,
    reading.unfinished, reading.indent, reading.outer, reading.optional⟩
  · exact congrArg ahead behind
  · change (scanner.cursor.past part).rest.length ≤ (scanner.cursor.past part).size
    rw [behind, Cursor.size_past]
    omega
  · exact (Cursor.ending_past part scanner.cursor).trans reading.whole

/-- An outcome in which tokens have been read, less of the text is left than a bound, and a key may
start if that is asked for. -/
def Yields (outcome : Except Failure Scanner) (mayStart : Bool) (bound level : Nat)
    (tokens : List Token) (text : List Char) : Prop :=
  ∃ after, outcome = .ok after ∧ Reading after level tokens text ∧
    (mayStart = true → after.keyAllowed = true) ∧ after.cursor.rest.length < bound

theorem rest_shortens {cursor : Cursor} (part : List Char) (here : cursor.rest = part ++ rest)
    (filled : part ≠ []) : (cursor.past part).rest.length < cursor.rest.length := by
  have some_chars := List.length_pos_iff.2 filled
  rw [Cursor.rest_past here, here, List.length_append]
  omega

theorem Reading.single (reading : Reading scanner level tokens text) (token : Token)
    (here : scanner.cursor.rest = c :: rest) :
    Reading (single token scanner) level (token :: tokens) rest ∧
      (Scanner.single token scanner).cursor.rest.length < scanner.cursor.rest.length :=
  ⟨reading.pushed [c] token here, rest_shortens [c] here (by simp)⟩

section

variable (here : scanner.cursor.rest = c :: rest)
include here

theorem flow_start_yields (reading : Reading scanner level tokens text) (token : Token) :
    Yields (scanner.flowStart token) true scanner.cursor.rest.length (level + 1)
      (token :: tokens) rest := by
  obtain ⟨marks, saved, optional, _⟩ := save_mark_optional reading.optional reading.indent
  have inside := (reading.with_marks optional).entered (level + 1) true
  obtain ⟨pushed, shorter⟩ := inside.single token here
  refine ⟨_, ?_, pushed, fun _ => rfl, shorter⟩
  rw [flowStart, saved, ← reading.atLevel]
  rfl

theorem flow_end_yields (reading : Reading scanner (level + 1) tokens text) (token : Token) :
    Yields (scanner.flowEnd token) false scanner.cursor.rest.length level (token :: tokens)
      rest := by
  obtain ⟨marks, dropped, optional⟩ := drop_mark_optional reading.optional
  have outside := (reading.with_marks optional).entered level false
  obtain ⟨pushed, shorter⟩ := outside.single token here
  refine ⟨_, ?_, pushed, fun same => Bool.noConfusion same, shorter⟩
  have inner : (scanner.withMarks marks).level = level + 1 := reading.atLevel
  rw [flowEnd, dropped]
  simp only [bind, Except.bind, inner, Nat.succ_ne_zero, if_false]
  rfl

theorem flow_entry_yields (reading : Reading scanner level tokens text) :
    Yields scanner.flowEntry true scanner.cursor.rest.length level (.flowEntry :: tokens) rest := by
  obtain ⟨marks, dropped, optional⟩ := drop_mark_optional reading.optional
  have same := (reading.with_marks optional).entered level true
  obtain ⟨pushed, shorter⟩ := same.single .flowEntry here
  refine ⟨_, ?_, pushed, fun _ => rfl, shorter⟩
  rw [flowEntry, dropped, ← reading.atLevel]
  rfl

end

/-- Behind a string the mark of the key that it may be comes first. -/
theorem quoted_eq (reading : Reading scanner level tokens text) (letters : Json.Letters)
    (portable : letters.IsPortable) (here : scanner.cursor.rest = letters.text ++ rest) :
    ∃ marks, quoted true scanner = .ok (push (.scalar letters.value false)
        (moved (scanner.cursor.past letters.text)
          ((scanner.withMarks marks).entered level false))) ∧
      AreOptional marks ∧ (scanner.keyAllowed = true → marks.head? = some scanner.ownMark) := by
  obtain ⟨marks, saved, optional, own⟩ := save_mark_optional reading.optional reading.indent
  have scanned : Quoted.scan true (scanner.withMarks marks).cursor =
      .ok (letters.value, scanner.cursor.past letters.text) :=
    Quoted.scan_letters letters portable here reading.long
  refine ⟨marks, ?_, optional, own⟩
  rw [quoted, keyable, saved, ← reading.atLevel]
  simp only [bind, Except.bind, scanned]
  rfl

theorem quoted_yields (reading : Reading scanner level tokens text) (letters : Json.Letters)
    (portable : letters.IsPortable) (here : scanner.cursor.rest = letters.text ++ rest) :
    Yields (quoted true scanner) false scanner.cursor.rest.length level
      (.scalar letters.value false :: tokens) rest := by
  obtain ⟨marks, same, optional, _⟩ := quoted_eq reading letters portable here
  have inside := (reading.with_marks optional).entered level false
  exact ⟨_, same, inside.pushed _ _ here, fun same => Bool.noConfusion same,
    rest_shortens _ here (List.cons_ne_nil _ _)⟩

theorem plain_yields {word gap : List Char} (reading : Reading scanner (level + 1) tokens text)
    (solid : ∀ c ∈ word, Plain.IsSolid c) (starts : word.head? ≠ some '#') (someWord : word ≠ [])
    (trail : Plain.IsTrail gap c) (here : scanner.cursor.rest = word ++ (gap ++ c :: rest)) :
    Yields scanner.plain false scanner.cursor.rest.length (level + 1)
      (.scalar (.ofChars word) true :: tokens) (c :: rest) := by
  obtain ⟨marks, saved, optional, _⟩ := save_mark_optional reading.optional reading.indent
  obtain ⟨ended, scanned⟩ : ∃ ended, Plain.scan true (scanner.withMarks marks).indent
      (scanner.withMarks marks).cursor = (word, scanner.cursor.past (word ++ gap), ended) :=
    Plain.scan_solid scanner.indent solid starts someWord trail here reading.long
  have inFlow : (scanner.withMarks marks).inFlow = true := by
    change decide (scanner.level ≠ 0) = true
    rw [reading.atLevel]
    rfl
  have behind : scanner.cursor.rest = (word ++ gap) ++ c :: rest := by
    rw [here, List.append_assoc]
  have same := (reading.with_marks optional).entered (level + 1) ended
  refine ⟨_, ?_, same.pushed _ _ behind, fun same => Bool.noConfusion same,
    rest_shortens _ behind (by simp [someWord])⟩
  rw [plain, saved, ← reading.atLevel]
  simp only [bind, Except.bind, inFlow, scanned]
  rfl

/-- A token comes in front of the last one. -/
theorem Reading.inserted {last : Token} (reading : Reading scanner level (last :: tokens) text)
    (token : Token) :
    Reading (scanner.insertAt tokens.length token) level (last :: token :: tokens) text := by
  have behind : scanner.count - tokens.length = 1 := by
    rw [reading.counted, List.length_cons]
    omega
  refine ⟨reading.atLevel, ?_, congrArg (· + 1) reading.counted, reading.before, reading.long,
    reading.whole, reading.unfinished, reading.indent, reading.outer, reading.optional⟩
  simp only [insertAt, behind, reading.read]
  rfl

/-- A colon makes a key of the string in front of it, if its mark is still there. -/
theorem value_yields {mark : KeyMark} {string : Token}
    (reading : Reading scanner (level + 1) (string :: tokens) text)
    (here : scanner.cursor.rest = c :: rest) (first : scanner.marks.head? = some mark)
    (sameLevel : mark.level = level + 1) (number : mark.number = tokens.length) :
    Yields scanner.value false scanner.cursor.rest.length (level + 1)
      (.value :: string :: .key :: tokens) rest := by
  have found : scanner.marks.find? (·.level = scanner.level) = some mark := by
    cases marks : scanner.marks with
    | nil =>
        rw [marks] at first
        cases first
    | cons other others =>
        rw [marks] at first
        cases first
        rw [List.find?_cons_of_pos]
        rw [sameLevel, reading.atLevel]
        exact decide_eq_true rfl
  have inFlow : scanner.inFlow = true := by
    change decide (scanner.level ≠ 0) = true
    rw [reading.atLevel]
    rfl
  have cleared := (reading.with_marks (optional_filter reading.optional
    fun other => other.level ≠ scanner.level)).entered (level + 1) false
  obtain ⟨pushed, shorter⟩ := (cleared.inserted .key).single .value here
  refine ⟨_, ?_, pushed, fun same => Bool.noConfusion same, shorter⟩
  simp only [value, found, inFlow, if_true, number]
  rw [← reading.atLevel]
  rfl

/-! ### Which token a character starts -/

inductive Opens : Char → Token → Prop where
  | sequence : Opens '[' .flowSequenceStart
  | mapping : Opens '\x7b' .flowMappingStart

inductive Closes : Char → Token → Prop where
  | sequence : Closes ']' .flowSequenceEnd
  | mapping : Closes '\x7d' .flowMappingEnd

section

variable {cursor : Cursor}

theorem unmarked_line (here : scanner.cursor.rest = c :: rest) (noDash : c ≠ '-')
    (noPoint : c ≠ '.') :
    scanner.cursor.atMarks '-' = false ∧ scanner.cursor.atMarks '.' = false :=
  ⟨Cursor.at_marks_false here noDash, Cursor.at_marks_false here noPoint⟩

theorem fetch_open {token : Token} (opens : Opens c token)
    (here : scanner.cursor.rest = c :: rest) : fetchChar c scanner = scanner.flowStart token := by
  cases opens <;>
  · obtain ⟨noDash, noPoint⟩ := unmarked_line here (by decide) (by decide)
    simp [fetchChar, noDash, noPoint]

theorem fetch_close {token : Token} (closes : Closes c token)
    (here : scanner.cursor.rest = c :: rest) : fetchChar c scanner = scanner.flowEnd token := by
  cases closes <;>
  · obtain ⟨noDash, noPoint⟩ := unmarked_line here (by decide) (by decide)
    simp [fetchChar, noDash, noPoint]

theorem fetch_entry (here : scanner.cursor.rest = ',' :: rest) :
    fetchChar ',' scanner = scanner.flowEntry := by
  obtain ⟨noDash, noPoint⟩ := unmarked_line here (by decide) (by decide)
  simp [fetchChar, noDash, noPoint]

theorem fetch_value (here : scanner.cursor.rest = ':' :: rest) (inFlow : scanner.inFlow = true) :
    fetchChar ':' scanner = scanner.value := by
  obtain ⟨noDash, noPoint⟩ := unmarked_line here (by decide) (by decide)
  simp [fetchChar, noDash, noPoint, inFlow]

theorem fetch_quoted (here : scanner.cursor.rest = '"' :: rest) :
    fetchChar '"' scanner = scanner.quoted true := by
  obtain ⟨noDash, noPoint⟩ := unmarked_line here (by decide) (by decide)
  simp [fetchChar, noDash, noPoint]

end

theorem fetch_plain_visible (here : scanner.cursor.rest = c :: rest)
    (noIndicator : isIndicator c = false) (noPoint : c ≠ '.') :
    fetchChar c scanner = scanner.plain := by
  have starts : scanner.startsPlain c = true := by rw [startsPlain, noIndicator]; rfl
  simp only [isIndicator, Bool.or_eq_false_iff, decide_eq_false_iff_not, List.mem_cons,
    List.not_mem_nil, or_false, not_or] at noIndicator
  obtain ⟨noDashes, noPoints⟩ := unmarked_line here noIndicator.2.1 noPoint
  simp [fetchChar, noDashes, noPoints, noIndicator, starts]

theorem fetch_plain_dash (here : scanner.cursor.rest = '-' :: c :: rest)
    (solid : isBlankOrBreak c = false) (noDash : c ≠ '-') :
    fetchChar '-' scanner = scanner.plain := by
  have second : scanner.cursor.peekAt 1 = some c := by rw [Cursor.peekAt, here]; rfl
  have noDashes : scanner.cursor.atMarks '-' = false := by
    simp [Cursor.atMarks, here, List.isPrefixOf, noDash.symm]
  have noPoints : scanner.cursor.atMarks '.' = false := Cursor.at_marks_false here (by decide)
  simp [fetchChar, noDashes, noPoints, second, endOr, solid, startsPlain]

/-- The start of a plain scalar: no indicator, or a dash that nothing follows which would make it
one. -/
inductive StartsPlain : List Char → Prop where
  | visible (c : Char) (others : List Char) (visible : IsVisible c)
      (noIndicator : isIndicator c = false) (noPoint : c ≠ '.') : StartsPlain (c :: others)
  | dash (c : Char) (others : List Char) (solid : isBlankOrBreak c = false) (noDash : c ≠ '-') :
      StartsPlain ('-' :: c :: others)

theorem StartsPlain.fetched {word : List Char} (starts : StartsPlain word) :
    ∃ first others, word = first :: others ∧ IsVisible first ∧
      ∀ (ready : Scanner) (rest : List Char), ready.cursor.rest = word ++ rest →
        fetchChar first ready = ready.plain := by
  cases starts with
  | visible c others visible noIndicator noPoint =>
      exact ⟨c, others, rfl, visible,
        fun ready rest here => fetch_plain_visible here noIndicator noPoint⟩
  | dash c others solid noDash =>
      exact ⟨'-', c :: others, rfl, ⟨rfl, rfl, by decide, by decide⟩,
        fun ready rest here => fetch_plain_dash here solid noDash⟩

end Stubwright.Yaml.Scanner
