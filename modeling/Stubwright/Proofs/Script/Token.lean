import Stubwright.Proofs.Script.Reader
import Stubwright.Name

/-!
The tokens of a script, found by a machine that takes one point after the other. Words, names with
their separators, variables, numbers, quoted texts and marks are tokens; blanks and comments only
stand between them. What the readers of a script skip is no part of any token.
-/

namespace Stubwright.Script

/-- Marks of more than one point. A mark is taken as far as one of these can still come of it. -/
def longMarks : List String :=
  ["==", "===", "!=", "!==", "<>", "<=", ">=", "<=>", "=>", "->", "?->", "::", "??", "??=", "...",
    "++", "--", "**", "&&", "||", "<<", ">>", "+=", "-=", "*=", "/=", ".=", "%=", "&=", "|=", "^=",
    "**=", "<<=", ">>=", "#["]

def isMark (text : Text) : Bool :=
  longMarks.any fun known => text.isPrefixOf (Text.ofString known)

inductive Mode where
  | idle
  | word (text : Text)
  | variableName (text : Text)
  | number (text : Text)
  | mark (text : Text)
  /-- A quoted text from its opening quote on. -/
  | quoted (text : Text) (escaped : Bool)
  | comment (starred : Bool)
  | line (asked : Bool)
  /-- Text that is not taken apart: what stands after the script or in a block of its own, and
  quoted text with expressions filled in. -/
  | apart (text : Text)
  deriving DecidableEq

namespace Mode

def pending : Mode → List Text
  | .idle => []
  | .word text => [text]
  | .variableName text => [text]
  | .number text => [text]
  | .mark text => [text]
  | .quoted text _ => [text]
  | .comment _ => []
  | .line _ => []
  | .apart text => [text]

/-- Whether the next point is code: it is neither quoted nor in a comment. -/
def isCode : Mode → Bool
  | .idle => true
  | .word _ => true
  | .variableName _ => true
  | .number _ => true
  | .mark text => text ≠ "#"
  | _ => false

end Mode

/-- A point that nothing before goes on with. A mark that is never longer is complete at once. -/
def start (point : CodePoint) : List Text × Mode :=
  if isSpace point then ([], .idle)
  else if isWordStart point ∨ point = separator then ([], .word [point])
  else if point.isIn Char.isDigit then ([], .number [point])
  else if point = '$' then ([], .variableName [point])
  else if point ∈ (['\'', '"', '\x60'] : List CodePoint) then ([], .quoted [point] false)
  else if isMark [point] then ([], .mark [point])
  else ([[point]], .idle)

/-- Whether a number goes on. A sign belongs to it right after the mark of an exponent. -/
def extendsNumber (text : Text) (point : CodePoint) : Bool :=
  isWordPoint point || point = '.' ||
    ((point = '+' || point = '-') && (text.getLast? = some 'e' || text.getLast? = some 'E') &&
      !text.contains 'x' && !text.contains 'X')

def stepLine (asked : Bool) (point : CodePoint) : Mode :=
  if point = '\n' ∨ point = '\r' then .idle
  else if asked ∧ point = '>' then .apart "?>"
  else .line (point = '?')

/-- Some marks open a comment, and some a text that is not taken apart. -/
def stepMark (text : Text) (point : CodePoint) : List Text × Mode :=
  if text = "#" ∧ point ≠ '[' then ([], stepLine false point)
  else if text = "/" ∧ point = '*' then ([], .comment false)
  else if text = "/" ∧ point = '/' then ([], .line false)
  else if text = "?" ∧ point = '>' ∨ text = "<<" ∧ point = '<' then ([], .apart (text ++ [point]))
  else if isMark (text ++ [point]) then ([], .mark (text ++ [point]))
  else if text = "." ∧ point.isIn Char.isDigit then ([], .number (text ++ [point]))
  else (text :: (start point).1, (start point).2)

/-- Only a text in single quotes is never filled in. -/
def stepQuoted (text : Text) (escaped : Bool) (point : CodePoint) : List Text × Mode :=
  if escaped then ([], .quoted (text ++ [point]) false)
  else if point = '\\' then ([], .quoted (text ++ [point]) true)
  else if text.head? = some point then ([text ++ [point]], .idle)
  else if text.head? ≠ some '\'' ∧ (text.getLast? = some '\x7b' ∧ point = '$' ∨
      text.getLast? = some '$' ∧ point = '\x7b') then ([], .apart (text ++ [point]))
  else ([], .quoted (text ++ [point]) false)

def step : Mode → CodePoint → List Text × Mode
  | .idle, point => start point
  | .word text, point =>
      if isWordPoint point ∨ point = separator then ([], .word (text ++ [point]))
      else (text :: (start point).1, (start point).2)
  | .variableName text, point =>
      if isWordPoint point then ([], .variableName (text ++ [point]))
      else (text :: (start point).1, (start point).2)
  | .number text, point =>
      if extendsNumber text point then ([], .number (text ++ [point]))
      else (text :: (start point).1, (start point).2)
  | .mark text, point => stepMark text point
  | .quoted text escaped, point => stepQuoted text escaped point
  | .comment starred, point =>
      if starred ∧ point = '/' then ([], .idle) else ([], .comment (point = '*'))
  | .line asked, point => ([], stepLine asked point)
  | .apart text, point => ([], .apart (text ++ [point]))

def run : Mode → Text → List Text × Mode
  | mode, [] => ([], mode)
  | mode, point :: rest =>
      let (found, next) := step mode point
      let (others, last) := run next rest
      (found ++ others, last)

def tokens (text : Text) : List Text := (run .idle text).1 ++ (run .idle text).2.pending

/-- The tokens of a file, which are code after the opening tag. -/
def fileTokens (text : Text) : List Text :=
  if text.take 5 = "<?php" ∧ ((text.drop 5).head?.any isSpace) then
    "<?php" :: tokens (text.drop 5)
  else [text]

theorem run_cons (mode : Mode) (point : CodePoint) (rest : Text) :
    run mode (point :: rest) = ((step mode point).1 ++ (run (step mode point).2 rest).1,
      (run (step mode point).2 rest).2) := rfl

theorem run_append (mode : Mode) (text rest : Text) :
    run mode (text ++ rest) = ((run mode text).1 ++ (run (run mode text).2 rest).1,
      (run (run mode text).2 rest).2) := by
  induction text generalizing mode with
  | nil => rfl
  | cons point text ih => rw [List.cons_append, run_cons, run_cons, ih, List.append_assoc]

/-- What a text leaves open goes on with the rest. -/
theorem run_append_of {mode next : Mode} {text : Text} {found : List Text}
    (ran : run mode text = (found, next)) (rest : Text) :
    run mode (text ++ rest) = (found ++ (run next rest).1, (run next rest).2) := by
  rw [run_append, ran]

section

variable {text rest : Text}

theorem run_inside_comment (starred : Bool) (other : starred = true → rest.head? ≠ some '/')
    (nonempty : rest ≠ []) : run (.comment starred) rest = run (.comment false) rest := by
  cases rest with
  | nil => exact absurd rfl nonempty
  | cons point rest =>
      have same : step (.comment starred) point = step (.comment false) point := by
        have unclosed : ¬(starred = true ∧ point = '/') :=
          fun closes => other closes.1 (congrArg some closes.2)
        rw [step, step, if_neg unclosed, if_neg (by simp)]
      rw [run_cons, run_cons, same]

/-- The machine passes over what the readers skip, inside of a comment as well. -/
theorem run_skip (inside : Bool) (text rest : Text) (skipped : skip inside text = some rest) :
    run (if inside then .comment false else .idle) text = run .idle rest := by
  fun_induction skip inside text with
  | case1 later ih => exact ih skipped
  | case2 point later other blank ih =>
      have passed : step .idle point = ([], .idle) := by rw [step, start, if_pos blank]
      change run .idle (point :: later) = _
      rw [run_cons, passed]
      exact ih skipped
  | case3 point later other visible =>
      rw [Option.some.inj skipped]
      rfl
  | case4 =>
      rw [Option.some.inj skipped]
      rfl
  | case5 later ih => exact ih skipped
  | case6 point later other ih =>
      have entered : step (.comment false) point = ([], .comment (point = '*')) := by
        rw [step, if_neg (by simp)]
      have nonempty : later ≠ [] := by
        rintro rfl
        cases skipped
      have open_still : decide (point = '*') = true → later.head? ≠ some '/' := by
        intro star first
        obtain ⟨rest, rfl⟩ := List.head?_eq_some_iff.1 first
        exact other rest (of_decide_eq_true star) rfl
      change run (.comment false) (point :: later) = _
      rw [run_cons, entered, run_inside_comment _ open_still nonempty]
      exact ih skipped
  | case7 => cases skipped

theorem run_trivia {lead : Text} (isTrivia : IsTrivia lead) : run .idle lead = ([], .idle) := by
  have skipped := isTrivia []
  rw [List.append_nil] at skipped
  exact run_skip false lead [] skipped

end

theorem not_mem_of_apart {p : CodePoint → Bool} {point : CodePoint} {marks : Text}
    (holds : p point = true) (apart : ∀ mark ∈ marks, p mark = false) : point ∉ marks := by
  intro among
  exact Bool.false_ne_true ((apart point among).symm.trans holds)

def markPoints : Text := "=!<>-?:.+*&|/%^#["

/-- Every point of a mark is one of a few. -/
theorem mem_of_is_mark {text : Text} {point : CodePoint} (isMark_text : isMark text = true)
    (member : point ∈ text) : point ∈ markPoints := by
  have known_points : ∀ known ∈ longMarks, ∀ point ∈ Text.ofString known, point ∈ markPoints := by
    decide
  obtain ⟨known, among, isPrefix⟩ := List.any_eq_true.1 isMark_text
  exact known_points known among point ((List.isPrefixOf_iff_prefix.1 isPrefix).subset member)

/-- A mark is complete before a point that no mark is made of, except that a point may begin a
number. -/
theorem step_mark_other {text : Text} {point : CodePoint} (code : text ≠ "#")
    (other : point ∉ markPoints) :
    stepMark text point =
      if text = "." ∧ point.isIn Char.isDigit then ([], .number (text ++ [point]))
      else (text :: (start point).1, (start point).2) := by
  have apart : ∀ mark ∈ markPoints, point ≠ mark := fun mark member same => other (same ▸ member)
  have complete : isMark (text ++ [point]) = false := by
    apply Bool.eq_false_iff.2
    intro longer
    exact other (mem_of_is_mark longer (by simp))
  simp only [stepMark, code, complete, apart '*' (by decide), apart '/' (by decide),
    apart '>' (by decide), apart '<' (by decide), false_and, and_false, or_self, if_false,
    Bool.false_eq_true]

/-- Points that no code goes on with, whatever it is. -/
def delimiters : Text := " \t\n\r,;()]\x7b\x7d"

theorem delimiter_ends {point : CodePoint} (among : point ∈ delimiters) :
    isWordPoint point = false ∧ point ≠ separator ∧ point ∉ markPoints := by
  have each : ∀ point ∈ delimiters,
      isWordPoint point = false ∧ point ≠ separator ∧ point ∉ markPoints := by decide
  exact each point among

theorem start_delimiter {point : CodePoint} (among : point ∈ delimiters) :
    (start point).2 = .idle := by
  have each : ∀ point ∈ delimiters, (start point).2 = .idle := by decide
  exact each point among

theorem delimiter_of_space {point : CodePoint} (blank : isSpace point = true) :
    point ∈ delimiters := by
  have blanks : ∀ point ∈ Text.ofString " \t\n\r", point ∈ delimiters := by decide
  apply blanks
  cases point with
  | half offset => exact absurd blank (by simp [isSpace, CodePoint.isIn])
  | char c =>
      simp only [isSpace, CodePoint.isIn, Bool.or_eq_true, decide_eq_true_eq] at blank
      rcases blank with ((rfl | rfl) | rfl) | rfl <;> decide

/-- A delimiter completes whatever code has been left open. -/
theorem step_delimiter {mode : Mode} {point : CodePoint} (code : mode.isCode = true)
    (among : point ∈ delimiters) :
    step mode point = (mode.pending ++ (start point).1, (start point).2) := by
  obtain ⟨noWord, noSeparator, noMark⟩ := delimiter_ends among
  have other : ∀ mark ∈ markPoints, point ≠ mark := fun mark member same => noMark (same ▸ member)
  have noDigit : point.isIn Char.isDigit = false := (Bool.or_eq_false_iff.1 noWord).2
  cases mode with
  | idle => rfl
  | word text => rw [step, if_neg (by simp [noWord, noSeparator])]; rfl
  | variableName text => rw [step, if_neg (by simp [noWord])]; rfl
  | number text =>
      have stops : extendsNumber text point = false := by
        simp [extendsNumber, noWord, other '.' (by decide), other '+' (by decide),
          other '-' (by decide)]
      rw [step, if_neg (by simp [stops])]
      rfl
  | mark text =>
      rw [step, step_mark_other (of_decide_eq_true code) noMark, if_neg (by simp [noDigit])]
      rfl
  | quoted text escaped => cases code
  | comment starred => cases code
  | line asked => cases code
  | apart text => cases code

/-- A mark is complete before a point that no mark is made of. -/
theorem run_mark {mark : Text} {first : CodePoint} (rest : Text) (code : mark ≠ "#")
    (noPoint : mark ≠ ".") (other : first ∉ markPoints) :
    run (.mark mark) (first :: rest) =
      (mark :: (run .idle (first :: rest)).1, (run .idle (first :: rest)).2) := by
  have stepped : step (.mark mark) first = (mark :: (start first).1, (start first).2) := by
    rw [step, step_mark_other code other, if_neg (by simp [noPoint])]
  rw [run_cons, run_cons, stepped]
  rfl

/-- A word or a name, with its separators. -/
theorem run_word {first : CodePoint} {rest : Text}
    (starts : isWordStart first = true ∨ first = separator)
    (points : ∀ point ∈ rest, isWordPoint point = true ∨ point = separator) :
    run .idle (first :: rest) = ([], .word (first :: rest)) := by
  have goesOn : ∀ (text more : Text), (∀ point ∈ more, isWordPoint point = true ∨
      point = separator) → run (.word text) more = ([], .word (text ++ more)) := by
    intro text more
    induction more generalizing text with
    | nil => intro _; rw [List.append_nil]; rfl
    | cons point more ih =>
        intro each
        have taken : step (.word text) point = ([], .word (text ++ [point])) :=
          if_pos (each point (by simp))
        rw [run_cons, taken, ih _ fun other member => each other (by simp [member]),
          List.append_assoc]
        rfl
  have visible : isSpace first = false := by
    rcases starts with isStart | rfl
    · exact not_space_of_start isStart
    · decide
  have opened : step .idle first = ([], .word [first]) := by
    rw [step, start, if_neg (by simp [visible]), if_pos starts]
  rw [run_cons, opened, goesOn _ _ points]
  rfl

/-- A number goes on with digits and points. -/
theorem run_number_points (text more : Text)
    (points : ∀ point ∈ more, isWordPoint point = true ∨ point = '.') :
    run (.number text) more = ([], .number (text ++ more)) := by
  induction more generalizing text with
  | nil => rw [List.append_nil]; rfl
  | cons point more ih =>
      have goesOn : extendsNumber text point = true := by
        rcases points point (by simp) with isPoint | isDot
        · simp [extendsNumber, isPoint]
        · simp [extendsNumber, isDot]
      have taken : step (.number text) point = ([], .number (text ++ [point])) := if_pos goesOn
      rw [run_cons, taken, ih _ fun other member => points other (by simp [member]),
        List.append_assoc]
      rfl

theorem start_digit {c : Char} (isDigit : c.isDigit = true) :
    start (.char c) = ([], .number [.char c]) := by
  have noStart : isWordStart (.char c) = false := by
    cases starts : isWordStart (.char c) with
    | false => rfl
    | true => exact absurd ((not_digit_of_start starts).symm.trans isDigit) Bool.false_ne_true
  have other : ∀ mark : Char, mark.isDigit = false → CodePoint.char c ≠ .char mark := by
    intro mark plain same
    rw [CodePoint.char.inj same, plain] at isDigit
    exact Bool.false_ne_true isDigit
  have visible : isSpace (.char c) = false := by
    simp only [isSpace, CodePoint.isIn, Bool.or_eq_false_iff, decide_eq_false_iff_not]
    refine ⟨⟨⟨?_, ?_⟩, ?_⟩, ?_⟩ <;> exact fun same => other _ rfl (congrArg _ same)
  have digit : (CodePoint.char c).isIn Char.isDigit = true := isDigit
  rw [start, if_neg (by simp [visible]), if_neg (by simp [noStart, separator, other '\\' rfl]),
    if_pos digit]

/-- A text with the tokens that it has on its own, of which nothing is left open but code. -/
structure Lexes (text : Text) (found : List Text) : Prop where
  code : (run .idle text).2.isCode = true
  found : tokens text = found

/-- Before a delimiter all tokens of a text are complete. -/
theorem Lexes.run_before {text : Text} {found : List Text} (lexes : Lexes text found)
    {point : CodePoint} (among : point ∈ delimiters) (rest : Text) :
    run .idle (text ++ point :: rest) =
      (found ++ (start point).1 ++ (run .idle rest).1, (run .idle rest).2) := by
  rw [run_append, run_cons, step_delimiter lexes.code among, start_delimiter among,
    ← lexes.found, tokens]
  simp only [List.append_assoc]

end Stubwright.Script
