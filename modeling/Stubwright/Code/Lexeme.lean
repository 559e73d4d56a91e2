import Stubwright.Text.Blank

/-!
The lexemes of PHP code. Blanks and comments only keep lexemes apart. Text outside the code, before
the opening tag and after a closing one, is passed over; a closing tag ends a statement.
-/

namespace Stubwright.Code

inductive Lexeme where
  | word (text : String)
  | number (text : String)
  | quoted (text : String)
  | symbol (text : String)
  | closing
  deriving DecidableEq

def isBlank (c : Char) : Bool :=
  c = ' ' || c = '\t' || c = '\n' || c = '\r' || c = '\x0b' || c = '\x0c' || c = '\u00a0' ||
    c = '\u200b' || c = '\u2060' || c = '\ufeff'

/-- Letters of words: ASCII letters, the underscore, and everything beyond ASCII up to the end of
the basic plane that is not a blank. -/
def isWordStart (c : Char) : Bool :=
  c.isAlpha || c = '_' || (0x80 ≤ c.toNat && c.toNat ≤ 0xffff && !isBlank c)

def isWordChar (c : Char) : Bool := isWordStart c || c.isDigit

def afterComment : List Char → Option (List Char)
  | [] => none
  | '*' :: '/' :: rest => some rest
  | _ :: rest => afterComment rest

/-- What follows a comment that ends with its line; a closing tag ends it too. -/
def afterLine : List Char → List Char
  | [] => []
  | '?' :: '>' :: rest => '?' :: '>' :: rest
  | c :: rest => if c = '\n' ∨ c = '\r' then rest else afterLine rest

def afterOpening : List Char → Option (List Char)
  | [] => none
  | '<' :: '?' :: rest =>
      if (rest.take 3).map Char.toLower = ['p', 'h', 'p'] then some (rest.drop 3)
      else match rest with
        | '=' :: rest => some rest
        | _ => some rest
  | _ :: rest => afterOpening rest

/-- A quoted text up to its closing quote. A backslash takes the next character with it where that
is one of the characters that can be escaped. -/
def takeQuoted (quote : Char) (escapable : Char → Bool) :
    List Char → Option (List Char × List Char)
  | [] => none
  | [c] => if c = quote then some ([], []) else none
  | c :: next :: rest =>
      if c = quote then some ([], next :: rest)
      else if c = '\\' ∧ escapable next then
        (takeQuoted quote escapable rest).map fun (text, after) => (c :: next :: text, after)
      else
        (takeQuoted quote escapable (next :: rest)).map fun (text, after) => (c :: text, after)

def isDigitOrUnderscore (c : Char) : Bool := c.isDigit || c = '_'

/-- An exponent, taken only if it has digits. -/
def takeExponent (text : List Char) : List Char × List Char :=
  match text with
  | e :: rest =>
      if e = 'e' ∨ e = 'E' then
        let (sign, unsigned) := match rest with
          | '+' :: more => (['+'], more)
          | '-' :: more => (['-'], more)
          | _ => ([], rest)
        let digits := unsigned.takeWhile isDigitOrUnderscore
        if digits.isEmpty then ([], text)
        else (e :: sign ++ digits, unsigned.drop digits.length)
      else ([], text)
  | [] => ([], [])

def takeNumber (text : List Char) : List Char × List Char :=
  match text with
  | '0' :: mark :: rest =>
      if mark.toLower ∈ ['x', 'b', 'o'] then
        let digits := rest.takeWhile fun c => c.isAlphanum || c = '_'
        ('0' :: mark :: digits, rest.drop digits.length)
      else decimal text
  | _ => decimal text
where
  decimal (text : List Char) : List Char × List Char :=
    let whole := text.takeWhile isDigitOrUnderscore
    let afterWhole := text.drop whole.length
    let (fraction, afterFraction) := match afterWhole with
      | '.' :: rest =>
          if rest.head? = some '.' then ([], afterWhole)
          else
            let digits := rest.takeWhile isDigitOrUnderscore
            ('.' :: digits, rest.drop digits.length)
      | _ => ([], afterWhole)
    let (exponent, after) := takeExponent afterFraction
    (whole ++ fraction ++ exponent, after)

/-- Symbols of several characters, longer ones first. -/
def longSymbols : List String :=
  ["<=>", "**=", "...", "<<=", ">>=", "===", "!==", "??=", "?->", "=>", "->", "::", "==", "!=",
    "<>", "<=", ">=", "&&", "||", "??", "++", "--", "+=", "-=", "*=", "/=", ".=", "%=", "&=",
    "|=", "^=", "<<", ">>", "**", "#["]

def shortSymbols : List Char :=
  ['\x7b', '\x7d', '(', ')', '[', ']', ';', ',', ':', '?', '=', '+', '-', '*', '/', '%', '.', '&',
    '|', '^', '~', '!', '<', '>', '@', '$', '\\']

def takeSymbol (text : List Char) : Option (Lexeme × List Char) :=
  match longSymbols.find? fun symbol => symbol.toList.isPrefixOf text with
  | some symbol => some (.symbol symbol, text.drop symbol.length)
  | none =>
      match text with
      | c :: rest => if c ∈ shortSymbols then some (.symbol (String.singleton c), rest) else none
      | [] => none

def startsNumber : List Char → Bool
  | c :: rest => c.isDigit || (c = '.' && (rest.head?.map Char.isDigit).getD false)
  | [] => false

def takeLexeme (text : List Char) : Option (Lexeme × List Char) :=
  match text with
  | [] => none
  | '?' :: '>' :: rest => some (.closing, (afterOpening rest).getD [])
  | '\'' :: rest =>
      (takeQuoted '\'' (fun c => c = '\'' || c = '\\') rest).map fun (body, after) =>
        (.quoted (String.ofList ('\'' :: body)), after)
  | '"' :: rest =>
      (takeQuoted '"' (fun _ => true) rest).map fun (body, after) =>
        (.quoted (String.ofList ('"' :: body)), after)
  | c :: rest =>
      if isWordStart c then
        let more := rest.takeWhile isWordChar
        some (.word (String.ofList (c :: more)), rest.drop more.length)
      else if startsNumber text then
        let (digits, after) := takeNumber text
        some (.number (String.ofList digits), after)
      else takeSymbol text

/-- The lexemes of code. Each takes at least one character, and so does each blank or comment. -/
def lex : Nat → List Char → Option (List Lexeme)
  | 0, _ => none
  | fuel + 1, text =>
      match text with
      | [] => some []
      | '/' :: '*' :: rest => (afterComment rest).bind (lex fuel)
      | '/' :: '/' :: rest => lex fuel (afterLine rest)
      | '#' :: rest =>
          if rest.head? = some '[' then takeNext fuel text else lex fuel (afterLine rest)
      | c :: rest => if isBlank c then lex fuel rest else takeNext fuel text
where
  takeNext (fuel : Nat) (text : List Char) : Option (List Lexeme) :=
    match takeLexeme text with
    | none => none
    | some (lexeme, after) => (lex fuel after).map (lexeme :: ·)

/-- The lexemes of a whole text; one that never opens any code has none. -/
def lexemes? (text : List Char) : Option (List Lexeme) :=
  match afterOpening text with
  | none => some []
  | some code => lex (code.length + 1) code

end Stubwright.Code
