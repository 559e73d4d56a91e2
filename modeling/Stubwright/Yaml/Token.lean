import Stubwright.Text.Utf8
import Stubwright.Yaml.Scalar
import Stubwright.Yaml.Stream

/-!
The tokens of a YAML text. Indentation becomes explicit marks of where block collections start and
end. Whether a token starts the key of a mapping is known only once its colon is found, so the mark
of a key is put in front of tokens that have been read already.
-/

namespace Stubwright.Yaml

/-- A tag as it is written: a handle, which directives may expand, and the rest. -/
structure TagName where
  handle : Option String
  rest : String
  deriving DecidableEq

inductive Directive where
  | version (major : Nat)
  | tag (handle expansion : String)
  | other
  deriving DecidableEq

inductive Token where
  | directive (content : Directive)
  | documentStart
  | documentEnd
  | blockSequenceStart
  | blockMappingStart
  | blockEnd
  | flowSequenceStart
  | flowSequenceEnd
  | flowMappingStart
  | flowMappingEnd
  | blockEntry
  | flowEntry
  | key
  | value
  | alias (name : String)
  | anchor (name : String)
  | tag (name : TagName)
  | scalar (text : Text) (plain : Bool)
  deriving DecidableEq

/-- A token that may turn out to start a key: its number among the tokens, whether a colon must
follow, and where it stands. -/
structure KeyMark where
  level : Nat
  number : Nat
  required : Bool
  index : Nat
  line : Nat
  column : Nat

/-- The state of reading tokens; the tokens are held last first. -/
structure Scanner where
  cursor : Cursor
  tokens : List Token := []
  count : Nat := 0
  level : Nat := 0
  indent : Int := -1
  outer : List Int := []
  keyAllowed : Bool := true
  marks : List KeyMark := []
  finished : Bool := false

namespace Scanner

def push (token : Token) (scanner : Scanner) : Scanner :=
  { scanner with tokens := token :: scanner.tokens, count := scanner.count + 1 }

def insertAt (number : Nat) (token : Token) (scanner : Scanner) : Scanner :=
  let later := scanner.count - number
  { scanner with
    tokens := scanner.tokens.take later ++ token :: scanner.tokens.drop later
    count := scanner.count + 1 }

def moved (cursor : Cursor) (scanner : Scanner) : Scanner := { scanner with cursor := cursor }

def inFlow (scanner : Scanner) : Bool := scanner.level ≠ 0

/-- A key stands on one line and is not too long. -/
def isStale (scanner : Scanner) (mark : KeyMark) : Bool :=
  mark.line ≠ scanner.cursor.line || 1024 < scanner.cursor.index - mark.index

/-- Drops the marks at which no key can start any more. It is an error if one was required there. -/
def dropStale (scanner : Scanner) : Except Failure Scanner :=
  if scanner.marks.any fun mark => scanner.isStale mark && mark.required then .error .malformed
  else .ok { scanner with marks := scanner.marks.filter fun mark => !scanner.isStale mark }

def dropMark (scanner : Scanner) : Except Failure Scanner :=
  let here (mark : KeyMark) : Bool := mark.level = scanner.level
  if scanner.marks.any fun mark => here mark && mark.required then .error .malformed
  else .ok { scanner with marks := scanner.marks.filter fun mark => !here mark }

def saveMark (scanner : Scanner) : Except Failure Scanner :=
  if !scanner.keyAllowed then .ok scanner
  else do
    let cursor := scanner.cursor
    let cleared ← scanner.dropMark
    let mark : KeyMark := ⟨scanner.level, scanner.count,
      !scanner.inFlow && scanner.indent == (cursor.column : Int), cursor.index, cursor.line,
      cursor.column⟩
    return { cleared with marks := mark :: cleared.marks }

def unwindFrom (column : Int) : List Int → Scanner → Scanner
  | [], scanner => scanner
  | outer :: rest, scanner =>
      if column < scanner.indent then
        unwindFrom column rest (push .blockEnd { scanner with indent := outer, outer := rest })
      else scanner

def unwind (column : Int) (scanner : Scanner) : Scanner :=
  if scanner.inFlow then scanner else unwindFrom column scanner.outer scanner

/-- Starts a block collection where the column is beyond the indentation: the scanner with the new
indentation, or nothing. -/
def indentTo? (column : Nat) (scanner : Scanner) : Option Scanner :=
  if scanner.indent < column then
    some { scanner with indent := column, outer := scanner.indent :: scanner.outer }
  else none

def openBlock (token : Token) (scanner : Scanner) : Scanner :=
  match scanner.indentTo? scanner.cursor.column with
  | some deeper => deeper.push token
  | none => scanner

/-- Skips spaces, comments and line ends. Tabs are not skipped. -/
def toNextToken : Nat → Scanner → Scanner
  | 0, scanner => scanner
  | fuel + 1, scanner =>
      let cursor := (scanner.cursor.skip (· = ' ')).skipComment
      match cursor.lineBreak? with
      | some (_, after) =>
          toNextToken fuel
            { scanner with cursor := after, keyAllowed := scanner.keyAllowed || !scanner.inFlow }
      | none => scanner.moved cursor

/-- A byte order mark at the very start is no part of the text. -/
def skipOrderMark (scanner : Scanner) : Scanner :=
  if scanner.cursor.index = 0 ∧ scanner.cursor.peek = some '\ufeff' then
    scanner.moved scanner.cursor.next
  else scanner

def single (token : Token) (scanner : Scanner) : Scanner :=
  (scanner.moved scanner.cursor.next).push token

/-- A mark that only stands between documents: all blocks end and no key may follow on its line. -/
def beforeDocument (scanner : Scanner) : Except Failure Scanner := do
  let cleared ← (scanner.unwind (-1)).dropMark
  return { cleared with keyAllowed := false }

def documentMark (token : Token) (scanner : Scanner) : Except Failure Scanner := do
  let ready ← scanner.beforeDocument
  return (ready.moved (ready.cursor.advance 3)).push token

def flowStart (token : Token) (scanner : Scanner) : Except Failure Scanner := do
  let saved ← scanner.saveMark
  return single token { saved with level := saved.level + 1, keyAllowed := true }

/-- A closing bracket without an opening one has no level to return to. -/
def flowEnd (token : Token) (scanner : Scanner) : Except Failure Scanner := do
  let cleared ← scanner.dropMark
  if cleared.level = 0 then throw .malformed
  return single token { cleared with level := cleared.level - 1, keyAllowed := false }

def flowEntry (scanner : Scanner) : Except Failure Scanner := do
  let cleared ← scanner.dropMark
  return single .flowEntry { cleared with keyAllowed := true }

/-- An indicator that may start a block collection, where a key could stand. -/
def blockIndicator (opening : Token) (scanner : Scanner) : Except Failure Scanner :=
  if scanner.inFlow then .ok scanner
  else if !scanner.keyAllowed then .error .malformed
  else .ok (scanner.openBlock opening)

def blockEntry (scanner : Scanner) : Except Failure Scanner := do
  let opened ← scanner.blockIndicator .blockSequenceStart
  let cleared ← opened.dropMark
  return single .blockEntry { cleared with keyAllowed := true }

def key (scanner : Scanner) : Except Failure Scanner := do
  let opened ← scanner.blockIndicator .blockMappingStart
  let cleared ← opened.dropMark
  return single .key { cleared with keyAllowed := !scanner.inFlow }

/-- A colon. If a key has been marked, it starts there; otherwise the value has no key, or one that
was announced. -/
def value (scanner : Scanner) : Except Failure Scanner :=
  match scanner.marks.find? (·.level = scanner.level) with
  | some mark =>
      let cleared := { scanner with
        marks := scanner.marks.filter fun other => other.level ≠ scanner.level
        keyAllowed := false }
      let keyed := cleared.insertAt mark.number .key
      let opened :=
        if scanner.inFlow then keyed
        else match keyed.indentTo? mark.column with
          | some deeper => deeper.insertAt mark.number .blockMappingStart
          | none => keyed
      .ok (single .value opened)
  | none => do
      let opened ← scanner.blockIndicator .blockMappingStart
      let cleared ← { opened with keyAllowed := !scanner.inFlow }.dropMark
      return single .value cleared

def mayFollowAnchor (c : Char) : Bool :=
  isBlankOrBreak c || c ∈ ['?', ':', ',', ']', '\x7d', '%', '@', '\x60']

def anchorName (cursor : Cursor) : Except Failure (String × Cursor) :=
  let (name, after) := cursor.next.run isNameChar
  if name.isEmpty || !endOr mayFollowAnchor after.peek then .error after.refusal
  else .ok (String.ofList name, after)

def isTagChar (c : Char) : Bool :=
  c.isAlphanum || c ∈ ['-', ';', '/', '?', ':', '@', '&', '=', '+', '$', ',', '_', '.', '!', '~',
    '*', '\'', '(', ')', '[', ']']

def escapedBytes : Nat → Cursor → Except Failure (List UInt8 × Cursor)
  | 0, _ => .error .malformed
  | fuel + 1, cursor =>
      if cursor.peek ≠ some '%' then .ok ([], cursor)
      else match cursor.next.rest.take 2 with
        | [a, b] =>
            match Text.asciiDigit? 16 a, Text.asciiDigit? 16 b with
            | some high, some low => do
                let (octets, after) ← escapedBytes fuel (cursor.advance 3)
                return (UInt8.ofNat (high * 16 + low) :: octets, after)
            | _, _ => .error .malformed
        | _ => .error (cursor.advance 3).refusal

/-- The text of a tag after its handle; it may be empty only in between. -/
def tagText : Nat → Cursor → Except Failure (List Char × Cursor)
  | 0, _ => .error .malformed
  | fuel + 1, cursor => do
      let (text, after) := cursor.run isTagChar
      if after.peek = some '%' then
        let (octets, next) ← escapedBytes (after.size + 1) after
        match Text.decodeUtf8? octets with
        | some decoded =>
            let (more, last) ← tagText fuel next
            return (text ++ decoded ++ more, last)
        | none => throw .malformed
      else return (text, after)

def tagUri (cursor : Cursor) : Except Failure (String × Cursor) := do
  let (text, after) ← tagText (cursor.size + 1) cursor
  if text.isEmpty then throw after.refusal
  return (String.ofList text, after)

def tagHandle (cursor : Cursor) : Except Failure (String × Cursor) :=
  if cursor.peek ≠ some '!' then .error cursor.refusal
  else
    let (name, after) := cursor.next.run isNameChar
    if after.peek = some '!' then .ok (String.ofList ('!' :: name ++ ['!']), after.next)
    else if name.isEmpty && cursor.peekAt 1 == some ' ' then .ok ("!", cursor.next)
    else .error after.refusal

/-- Whether a second exclamation mark stands in the same word. -/
def hasHandle (cursor : Cursor) : Bool :=
  (cursor.next.rest.takeWhile fun c => !isSpaceOrBreak c).contains '!'

def tagName (cursor : Cursor) : Except Failure (TagName × Cursor) := do
  let (name, after) ← match cursor.peekAt 1 with
    | some '<' => do
        let (uri, after) ← tagUri (cursor.advance 2)
        if after.peek ≠ some '>' then throw after.refusal
        pure (⟨none, uri⟩, after.next)
    | next =>
        if endOr isBlankOrBreak next then pure (⟨none, "!"⟩, cursor.next)
        else do
          let (handle, start) ← if hasHandle cursor then tagHandle cursor
            else pure ("!", cursor.next)
          let (uri, after) ← tagUri start
          pure (⟨some handle, uri⟩, after)
  if endOr isSpaceOrBreak after.peek then return (name, after) else throw after.refusal

def number (cursor : Cursor) : Except Failure (Nat × Cursor) :=
  let (digits, after) := cursor.run Char.isDigit
  if digits.isEmpty then .error cursor.refusal
  else if Decimal.mostDigits < digits.length then .error (.longNumeral digits.length)
  else .ok (Decimal.ofDigitValues 10 (digits.map fun c => c.toNat - '0'.toNat), after)

def versionDirective (cursor : Cursor) : Except Failure (Directive × Cursor) := do
  let (major, afterMajor) ← number (cursor.skip (· = ' '))
  if afterMajor.peek ≠ some '.' then throw afterMajor.refusal
  let (_, after) ← number afterMajor.next
  if endOr isSpaceOrBreak after.peek then return (.version major, after) else throw after.refusal

def tagDirective (cursor : Cursor) : Except Failure (Directive × Cursor) := do
  let (handle, afterHandle) ← tagHandle (cursor.skip (· = ' '))
  if afterHandle.peek ≠ some ' ' then throw afterHandle.refusal
  let (expansion, after) ← tagUri (afterHandle.skip (· = ' '))
  if endOr isSpaceOrBreak after.peek then return (.tag handle expansion, after)
  else throw after.refusal

def directive (scanner : Scanner) : Except Failure Scanner := do
  let ready ← scanner.beforeDocument
  let (name, after) := ready.cursor.next.run isNameChar
  if name.isEmpty || !endOr isSpaceOrBreak after.peek then throw after.refusal
  let (content, last) ←
    if name = "YAML".toList then versionDirective after
    else if name = "TAG".toList then tagDirective after
    else pure (.other, after.skip (!isBreak ·))
  let next ← last.endLine
  return (ready.moved next).push (.directive content)

/-- A token that may start a key and after which none may start on the same line. -/
def keyable (read : Cursor → Except Failure (Token × Cursor)) (scanner : Scanner) :
    Except Failure Scanner := do
  let saved ← scanner.saveMark
  let (token, after) ← read saved.cursor
  return push token { saved with cursor := after, keyAllowed := false }

def quoted (double : Bool) : Scanner → Except Failure Scanner :=
  keyable fun cursor => do
    let (text, after) ← Quoted.scan double cursor
    return (.scalar text false, after)

def plain (scanner : Scanner) : Except Failure Scanner := do
  let saved ← scanner.saveMark
  let (text, after, ended) := Plain.scan saved.inFlow saved.indent saved.cursor
  return push (.scalar (.ofChars text) true)
    { saved with cursor := after, keyAllowed := ended }

def block (fold : Bool) (scanner : Scanner) : Except Failure Scanner := do
  let cleared ← scanner.dropMark
  let (text, after) ← Block.scan fold cleared.indent cleared.cursor
  return push (.scalar (.ofChars text) false)
    { cleared with cursor := after, keyAllowed := true }

def isIndicator (c : Char) : Bool :=
  isBlankOrBreak c ||
    c ∈ ['-', '?', ':', ',', '[', ']', '\x7b', '\x7d', '#', '&', '*', '!', '|', '>', '\'', '"',
      '%', '@', '\x60']

/-- A dash, and outside flow collections a question mark or a colon, may start a plain scalar if
no blank follows. -/
def startsPlain (scanner : Scanner) (c : Char) : Bool :=
  !isIndicator c ||
    (!endOr isBlankOrBreak (scanner.cursor.peekAt 1) &&
      (c = '-' || (!scanner.inFlow && (c = '?' || c = ':'))))

def fetchChar (c : Char) (scanner : Scanner) : Except Failure Scanner :=
  let cursor := scanner.cursor
  let blankAfter := endOr isBlankOrBreak (cursor.peekAt 1)
  let lineStart := cursor.column = 0
  if c = '%' ∧ lineStart then scanner.directive
  else if lineStart ∧ cursor.atMarks '-' then scanner.documentMark .documentStart
  else if lineStart ∧ cursor.atMarks '.' then scanner.documentMark .documentEnd
  else if c = '[' then scanner.flowStart .flowSequenceStart
  else if c = '\x7b' then scanner.flowStart .flowMappingStart
  else if c = ']' then scanner.flowEnd .flowSequenceEnd
  else if c = '\x7d' then scanner.flowEnd .flowMappingEnd
  else if c = ',' then scanner.flowEntry
  else if c = '-' ∧ blankAfter then scanner.blockEntry
  else if c = '?' ∧ (scanner.inFlow ∨ blankAfter) then scanner.key
  else if c = ':' ∧ (scanner.inFlow ∨ blankAfter) then scanner.value
  else if c = '*' then
    scanner.keyable fun cursor => do
      let (name, after) ← anchorName cursor
      return (.alias name, after)
  else if c = '&' then
    scanner.keyable fun cursor => do
      let (name, after) ← anchorName cursor
      return (.anchor name, after)
  else if c = '!' then
    scanner.keyable fun cursor => do
      let (name, after) ← tagName cursor
      return (.tag name, after)
  else if c = '|' ∧ !scanner.inFlow then scanner.block false
  else if c = '>' ∧ !scanner.inFlow then scanner.block true
  else if c = '\'' then scanner.quoted false
  else if c = '"' then scanner.quoted true
  else if scanner.startsPlain c then scanner.plain
  else .error .malformed

/-- Reads on by one token, or by several where blocks end in front of it; at the end of the text
all blocks end. -/
def fetch (scanner : Scanner) : Except Failure Scanner := do
  let fresh ← (toNextToken (scanner.cursor.size + 1) scanner.skipOrderMark).dropStale
  let level := fresh.unwind fresh.cursor.column
  match level.cursor.peek, level.cursor.ending with
  | some c, ending =>
      let after ← level.fetchChar c
      if after.cursor.peek.isNone then
        if let some failure := ending then throw failure
      return after
  | none, some failure => throw failure
  | none, none =>
      let closed ← (level.unwind (-1)).dropMark
      return { closed with finished := true }

/-- The tokens that nothing further can be put in front of. -/
def settled (scanner : Scanner) : List Token :=
  let live := scanner.marks.filter fun mark => !scanner.isStale mark
  let count := live.foldl (fun least mark => min least mark.number) scanner.count
  scanner.tokens.reverse.take count

end Scanner

structure TokenList where
  tokens : List Token
  ending : Option Failure
  deriving DecidableEq

namespace TokenList

/-- Reads tokens up to the end of the text or to a failure. Tokens are handed on one by one: those
that were settled before the failure do not depend on it. -/
def fetchAll : Nat → Scanner → TokenList
  | 0, scanner => ⟨scanner.settled, some .malformed⟩
  | fuel + 1, scanner =>
      match scanner.fetch with
      | .error failure => ⟨scanner.settled, some failure⟩
      | .ok after =>
          if after.finished then ⟨after.tokens.reverse, none⟩ else fetchAll fuel after

def ofStream (stream : Stream) : TokenList :=
  fetchAll (stream.chars.length + 2) { cursor := .start stream.chars stream.ending }

end TokenList

end Stubwright.Yaml
