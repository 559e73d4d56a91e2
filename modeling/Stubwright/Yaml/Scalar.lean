import Stubwright.Decimal.Numeral
import Stubwright.Yaml.Cursor

/-!
The texts of scalars in their five styles. Within a scalar a single line break is folded into a
space and further breaks are kept, except in literal blocks, which keep them all.
-/

namespace Stubwright.Yaml

open Decimal

/-- What a line break contributes together with the breaks after it. -/
def folded (first : Char) (breaks : List Char) : List Char :=
  (if first ≠ '\n' then [first] else if breaks.isEmpty then [' '] else []) ++ breaks

namespace Quoted

/-- Breaks and blanks up to the next text; a mark between documents must not come in between. -/
def breaks : Nat → Cursor → Except Failure (List Char × Cursor)
  | 0, _ => .error .malformed
  | fuel + 1, cursor => do
      if cursor.atDocumentMark then throw (cursor.advance 3).refusal
      let cursor := cursor.skip fun c => c = ' ' || c = '\t'
      match cursor.lineBreak? with
      | none => return ([], cursor)
      | some (c, after) =>
          let (more, after) ← breaks fuel after
          return (c :: more, after)

/-- Blanks inside the quotes: kept on one line, folded where lines end. -/
def spaces (cursor : Cursor) : Except Failure (List Char × Cursor) := do
  let (blanks, after) := cursor.run fun c => c = ' ' || c = '\t'
  match after.lineBreak? with
  | some (c, next) =>
      let (more, next) ← breaks (next.size + 1) next
      return (folded c more, next)
  | none => if after.peek.isNone then throw after.refusal else return (blanks, after)

def escapes : List (Char × Char) :=
  [('0', '\x00'), ('a', '\x07'), ('b', '\x08'), ('t', '\t'), ('\t', '\t'), ('n', '\n'),
    ('v', '\x0b'), ('f', '\x0c'), ('r', '\r'), ('e', '\x1b'), (' ', ' '), ('"', '"'),
    ('\\', '\\'), ('/', '/'), ('N', '\x85'), ('_', '\xa0'), ('L', '\u2028'), ('P', '\u2029')]

def escapeWidths : List (Char × Nat) := [('x', 2), ('u', 4), ('U', 8)]

/-- The code point of a number. A half of a surrogate pair stays what it is, also beside another. -/
def codePoint (number : Nat) : Except Failure CodePoint :=
  if 2 ^ (31 : Nat) ≤ number then .error .hugeEscape
  else if 0x110000 ≤ number then .error .noCharacter
  else .ok (.ofNumber number)

def isHexDigit (c : Char) : Bool := (Text.asciiDigit? 16 c).isSome

def numbered (width : Nat) (cursor : Cursor) : Except Failure (Text × Cursor) := do
  let digits := (cursor.rest.take width).takeWhile isHexDigit
  let after := cursor.advance digits.length
  if digits.length < width then throw after.refusal
  let point ← codePoint (ofDigitValues 16 (digits.filterMap (Text.asciiDigit? 16)))
  return ([point], after)

def escape (cursor : Cursor) : Except Failure (Text × Cursor) :=
  match cursor.peek.bind fun c => escapes.lookup c, cursor.peek.bind fun c => escapeWidths.lookup c,
      cursor.lineBreak? with
  | some meaning, _, _ => .ok ([.char meaning], cursor.next)
  | none, some width, _ => numbered width cursor.next
  | none, none, some (_, after) => do
      let (more, last) ← breaks (after.size + 1) after
      return (.ofChars more, last)
  | none, none, none => .error cursor.refusal

def isOrdinary (c : Char) : Bool :=
  !(c = '\'' || c = '"' || c = '\\' || isBlankOrBreak c)

def solid (double : Bool) : Nat → Cursor → Except Failure (Text × Cursor)
  | 0, _ => .error .malformed
  | fuel + 1, cursor => do
      let (run, after) := cursor.run isOrdinary
      let text := Text.ofChars run
      let step (read : Text) (next : Cursor) : Except Failure (Text × Cursor) := do
        let (more, last) ← solid double fuel next
        return (text ++ read ++ more, last)
      match after.peek with
      | some '\'' =>
          if double then step "'" after.next
          else if after.peekAt 1 = some '\'' then step "'" (after.advance 2)
          else return (text, after)
      | some '"' => if double then return (text, after) else step "\"" after.next
      | some '\\' =>
          if double then
            let (read, next) ← escape after.next
            step read next
          else step "\\" after.next
      | _ => return (text, after)

def parts (double : Bool) (quote : Char) : Nat → Cursor → Except Failure (Text × Cursor)
  | 0, _ => .error .malformed
  | fuel + 1, cursor => do
      let (text, after) ← solid double (cursor.size + 1) cursor
      if after.peek = some quote then return (text, after.next)
      let (blanks, next) ← spaces after
      let (more, last) ← parts double quote fuel next
      return (text ++ .ofChars blanks ++ more, last)

def scan (double : Bool) (cursor : Cursor) : Except Failure (Text × Cursor) :=
  parts double (if double then '"' else '\'') (cursor.size + 1) cursor.next

end Quoted

namespace Block

inductive Chomping where
  | clip
  | strip
  | keep
  deriving DecidableEq

def chomping? (c : Char) : Option Chomping :=
  if c = '+' then some .keep else if c = '-' then some .strip else none

def increment? (c : Char) : Except Failure (Option Nat) :=
  if c = '0' then .error .malformed
  else if c.isDigit then .ok (some (c.toNat - '0'.toNat))
  else .ok none

def indicators (cursor : Cursor) : Except Failure (Chomping × Option Nat × Cursor) := do
  match cursor.peek with
  | none => return (.clip, none, cursor)
  | some c =>
      match chomping? c with
      | some chomping =>
          let after := cursor.next
          match ← (after.peek.map increment?).getD (.ok none) with
          | some increment => return (chomping, some increment, after.next)
          | none => return (chomping, none, after)
      | none =>
          match ← increment? c with
          | none => return (.clip, none, cursor)
          | some increment =>
              let after := cursor.next
              match after.peek.bind chomping? with
              | some chomping => return (chomping, some increment, after.next)
              | none => return (.clip, some increment, after)

/-- The blank lines before the first line of text, and the widest column that they reach. -/
def leading : Nat → Nat → Cursor → List Char × Nat × Cursor
  | 0, widest, cursor => ([], widest, cursor)
  | fuel + 1, widest, cursor =>
      if cursor.peek = some ' ' then
        let after := cursor.next
        leading fuel (max widest after.column) after
      else match cursor.lineBreak? with
        | some (c, after) =>
            let (breaks, widest, last) := leading fuel widest after
            (c :: breaks, widest, last)
        | none => ([], widest, cursor)

def breaks (indent : Nat) : Nat → Cursor → List Char × Cursor
  | 0, cursor => ([], cursor)
  | fuel + 1, cursor =>
      let cursor := cursor.skipSpacesBelow indent (indent + 1)
      match cursor.lineBreak? with
      | some (c, after) =>
          let (more, last) := breaks indent fuel after
          (c :: more, last)
      | none => ([], cursor)

def atBlank (cursor : Cursor) : Bool := cursor.peek = some ' ' || cursor.peek = some '\t'

/-- The lines of a block from one of its lines on. `before` are the breaks in front of the line. In
a folded block a single break between two lines that start with text becomes a space. -/
def lines (fold : Bool) (chomping : Chomping) (indent : Nat) (before : List Char) :
    Nat → Cursor → List Char × Cursor
  | 0, cursor => ([], cursor)
  | fuel + 1, cursor =>
      let solid := !atBlank cursor
      let (text, atEnd) := cursor.run (!isBreak ·)
      let ending := atEnd.lineBreak?
      let ended : List Char := (ending.map fun found => [found.1]).getD []
      let (after, next) := breaks indent (atEnd.size + 1)
        ((ending.map Prod.snd).getD atEnd)
      if next.column = indent ∧ next.peek.isSome then
        let joint := if fold && ended == ['\n'] && solid && !atBlank next then
            (if after.isEmpty then [' '] else [])
          else ended
        let (more, last) := lines fold chomping indent after fuel next
        (before ++ text ++ joint ++ more, last)
      else
        let tail := match chomping with
          | .strip => []
          | .clip => ended
          | .keep => ended ++ after
        (before ++ text ++ tail, next)

def scan (fold : Bool) (outer : Int) (cursor : Cursor) :
    Except Failure (List Char × Cursor) := do
  let (chomping, increment, afterHeader) ← indicators cursor.next
  if !endOr isSpaceOrBreak afterHeader.peek then throw afterHeader.refusal
  let start ← afterHeader.endLine
  let least := (outer + 1).toNat.max 1
  let fuel := start.size + 1
  let (before, indent, first) := match increment with
    | some increment =>
        let indent := least + increment - 1
        let (before, first) := breaks indent fuel start
        (before, indent, first)
    | none =>
        let (before, widest, first) := leading fuel 0 start
        (before, least.max widest, first)
  if first.column = indent ∧ first.peek.isSome then
    return lines fold chomping indent before fuel first
  else
    return (if chomping = .keep then before else [], first)

end Block

namespace Plain

/-- Where a plain scalar must stop: at a blank, at a colon that ends a key, and inside flow
collections at their indicators. -/
def stopsAt (flow : Bool) : List Char → Bool
  | [] => true
  | c :: rest =>
      isBlankOrBreak c ||
        (c = ':' && endOr (fun next => isBlankOrBreak next ||
          (flow && (next = ',' || next = '[' || next = ']' || next = '\x7b' || next = '\x7d')))
          rest.head?) ||
        (flow && (c = ',' || c = '?' || c = '[' || c = ']' || c = '\x7b' || c = '\x7d'))

def reach (flow : Bool) : List Char → Nat
  | [] => 0
  | c :: rest => if stopsAt flow (c :: rest) then 0 else reach flow rest + 1

/-- The blank lines after a break; `none` where a mark between documents ends the scalar. -/
def breaks : Nat → Cursor → Option (List Char) × Cursor
  | 0, cursor => (some [], cursor)
  | fuel + 1, cursor =>
      if cursor.peek = some ' ' then breaks fuel cursor.next
      else match cursor.lineBreak? with
        | some (c, after) =>
            if after.atDocumentMark then (none, after)
            else
              let (more, last) := breaks fuel after
              (more.map (c :: ·), last)
        | none => (some [], cursor)

/-- What stands between two parts of a plain scalar, nothing at all if the scalar ends here; and
whether a line has ended. -/
def spaces (cursor : Cursor) : List Char × Cursor × Bool :=
  let (blanks, after) := cursor.run (· = ' ')
  match after.lineBreak? with
  | some (c, next) =>
      if next.atDocumentMark then ([], next, true)
      else
        let (more, last) := breaks (next.size + 1) next
        ((more.map (folded c)).getD [], last, true)
  | none => (blanks, after, false)

/-- The parts of a plain scalar. `between` is what stands before the next part, and `newLine` says
whether that part starts a line. -/
def parts (flow : Bool) (indent : Int) (between : List Char) (newLine : Bool) :
    Nat → Cursor → List Char × Cursor × Bool
  | 0, cursor => ([], cursor, newLine)
  | fuel + 1, cursor =>
      let length := if cursor.peek = some '#' then 0 else reach flow cursor.rest
      if length = 0 then ([], cursor, newLine)
      else
        let part := between ++ cursor.rest.take length
        let (blanks, next, ended) := spaces (cursor.advance length)
        if blanks.isEmpty || next.peek = some '#' || (!flow && (next.column : Int) < indent) then
          (part, next, ended)
        else
          let (more, last, ended) := parts flow indent blanks ended fuel next
          (part ++ more, last, ended)

/-- A plain scalar, and whether a simple key may follow it because a line has ended. -/
def scan (flow : Bool) (outer : Int) (cursor : Cursor) : List Char × Cursor × Bool :=
  parts flow (outer + 1) [] false (cursor.size + 1) cursor

end Plain

end Stubwright.Yaml
