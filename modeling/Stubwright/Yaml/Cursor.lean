import Stubwright.Yaml.Failure

/-!
A place in a YAML text: what is still to be read, and where it stands. Carriage returns have been
unified with line feeds before, so a line ends at a line feed, a next line character, or one of the
two Unicode separators. A text can break off before its end, where its file cannot be read on.
-/

namespace Stubwright.Yaml

structure Cursor where
  rest : List Char
  /-- The length of the whole text. It bounds every walk through what is left. -/
  size : Nat
  index : Nat := 0
  line : Nat := 0
  column : Nat := 0
  /-- What comes of reading on at the end, if the text only breaks off there. -/
  ending : Option Failure := none

def isBreak (c : Char) : Bool := c = '\n' || c = '\x85' || c = '\u2028' || c = '\u2029'

def endOr (holds : Char → Bool) : Option Char → Bool
  | none => true
  | some c => holds c

def isBlankOrBreak (c : Char) : Bool := c = ' ' || c = '\t' || isBreak c

def isSpaceOrBreak (c : Char) : Bool := c = ' ' || isBreak c

def isNameChar (c : Char) : Bool := c.isAlphanum || c = '-' || c = '_'

namespace Cursor

def start (text : List Char) (ending : Option Failure) : Cursor :=
  { rest := text, size := text.length, ending := ending }

def peek (cursor : Cursor) : Option Char := cursor.rest.head?

def peekAt (cursor : Cursor) (distance : Nat) : Option Char := cursor.rest[distance]?

def next (cursor : Cursor) : Cursor :=
  match cursor.rest with
  | [] => cursor
  | c :: rest =>
      let after := { cursor with rest := rest, index := cursor.index + 1 }
      if isBreak c then { after with line := cursor.line + 1, column := 0 }
      else if c = '\ufeff' then after
      else { after with column := cursor.column + 1 }

def refusal (cursor : Cursor) : Failure :=
  match cursor.rest with
  | [] => cursor.ending.getD .malformed
  | _ :: _ => .malformed

def advance : Nat → Cursor → Cursor
  | 0, cursor => cursor
  | count + 1, cursor => advance count cursor.next

def run (holds : Char → Bool) (cursor : Cursor) : List Char × Cursor :=
  let taken := cursor.rest.takeWhile holds
  (taken, cursor.advance taken.length)

def skip (holds : Char → Bool) (cursor : Cursor) : Cursor := (cursor.run holds).2

def skipSpacesBelow (bound : Nat) : Nat → Cursor → Cursor
  | 0, cursor => cursor
  | fuel + 1, cursor =>
      if cursor.column < bound ∧ cursor.peek = some ' ' then skipSpacesBelow bound fuel cursor.next
      else cursor

/-- Takes a line break, if one stands here. A next line character counts as a line feed. -/
def lineBreak? (cursor : Cursor) : Option (Char × Cursor) :=
  match cursor.peek with
  | some c => if isBreak c then some (if c = '\x85' then '\n' else c, cursor.next) else none
  | none => none

/-- Whether three equal marks stand here with a blank or the end after them. -/
def atMarks (mark : Char) (cursor : Cursor) : Bool :=
  [mark, mark, mark].isPrefixOf cursor.rest && endOr isBlankOrBreak (cursor.peekAt 3)

def atDocumentMark (cursor : Cursor) : Bool := cursor.atMarks '-' || cursor.atMarks '.'

def skipComment (cursor : Cursor) : Cursor :=
  if cursor.peek = some '#' then cursor.skip (!isBreak ·) else cursor

/-- Skips what may follow on a line: spaces, a comment, and the break. -/
def endLine (cursor : Cursor) : Except Failure Cursor :=
  let cursor := (cursor.skip (· = ' ')).skipComment
  if endOr isBreak cursor.peek then
    .ok ((cursor.lineBreak?.map Prod.snd).getD cursor)
  else .error cursor.refusal

end Cursor

end Stubwright.Yaml
