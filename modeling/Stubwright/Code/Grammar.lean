import Stubwright.Code.Lexeme

/-!
The grammar of stub files: declarations with their types, parameters and constant expressions. It
is a recogniser, and lenient where only the meaning of a program could object: any word may be a
name, and modifiers come in any order.
-/

namespace Stubwright.Code

/-- A rule takes lexemes off the front, or does not apply. -/
abbrev Rule := List Lexeme → Option (List Lexeme)

namespace Rule

def symbol (text : String) : Rule
  | .symbol found :: rest => if found = text then some rest else none
  | _ => none

def lower (word : String) : String := String.ofList (word.toList.map Char.toLower)

def keyword (text : String) : Rule
  | .word found :: rest => if lower found = text then some rest else none
  | _ => none

def anyKeyword (words : List String) : Rule
  | .word found :: rest => if lower found ∈ words then some rest else none
  | _ => none

def word : Rule
  | .word _ :: rest => some rest
  | _ => none

def orElse (first second : Rule) : Rule := fun lexemes => (first lexemes).or (second lexemes)

def andThen (first second : Rule) : Rule := fun lexemes => (first lexemes).bind second

def optional (rule : Rule) : Rule := fun lexemes => some ((rule lexemes).getD lexemes)

/-- Applies a rule as often as it goes, but at most once for each lexeme of a list. -/
def manyFrom (rule : Rule) : List Lexeme → Rule
  | [], lexemes => some lexemes
  | _ :: fuel, lexemes =>
      match rule lexemes with
      | none => some lexemes
      | some rest => manyFrom rule fuel rest

/-- Applies a rule as often as it goes. Each time it takes a lexeme off, so their number
is enough. -/
def many (rule : Rule) : Rule := fun lexemes => manyFrom rule lexemes lexemes

def separated (separator : String) (rule : Rule) : Rule :=
  rule.andThen (many ((symbol separator).andThen rule))

def succeed : Rule := some

def sequence (rules : List Rule) : Rule := rules.foldr andThen succeed

def choice (rules : List Rule) : Rule := fun lexemes => rules.findSome? fun rule => rule lexemes

def applies (rule : Rule) (lexemes : List Lexeme) : Bool := (rule lexemes).isSome

end Rule

open Rule

def ending : Rule := orElse (symbol ";") fun lexemes =>
  match lexemes with
  | .closing :: rest => some rest
  | _ => none

def name : Rule :=
  sequence [optional (symbol "\\"), word, many ((symbol "\\").andThen word)]

/-- A namespace's own name is not rooted. -/
def namespaceName : Rule := separated "\\" word

def names : Rule := separated "," name

def singleType : Rule := (optional (symbol "?")).andThen name

/-- An ampersand that goes on with a type, and not with a parameter. -/
def conjunction : Rule := (symbol "&").andThen singleType

def groupedType : Rule :=
  sequence [symbol "(", singleType, many conjunction, symbol ")"]

/-- A union, whose members may be intersections in parentheses, or a bare intersection. -/
def type : Rule := fun lexemes => do
  let rest ← orElse groupedType singleType lexemes
  if applies conjunction rest && applies singleType lexemes then many conjunction rest
  else many ((symbol "|").andThen (orElse groupedType singleType)) rest

def dollarName : Rule := (symbol "$").andThen word

def binaryOperators : List String :=
  ["+", "-", "*", "/", "%", "**", ".", "&", "|", "^", "<<", ">>", "&&", "||", "??", "==", "!=",
    "===", "!==", "<", ">", "<=", ">=", "<>", "<=>", "=", "+=", "-=", "*=", "/=", ".="]

def binaryWords : List String := ["and", "or", "xor", "instanceof"]

def unaryOperators : List String := ["-", "+", "!", "~", "@", "&"]

def symbolIn (symbols : List String) : Rule
  | .symbol found :: rest => if found ∈ symbols then some rest else none
  | _ => none

mutual

def expression : Nat → Rule
  | 0, _ => none
  | fuel + 1, lexemes => do
      let rest ← operand fuel lexemes
      match rest with
      | .symbol "?" :: after =>
          let middle := if applies (symbol ":") after then some after else expression fuel after
          expression fuel (← symbol ":" (← middle))
      | _ =>
          match orElse (symbolIn binaryOperators) (anyKeyword binaryWords) rest with
          | some after => expression fuel after
          | none => some rest

/-- A primary expression with the operators in front of it and the selections behind it. -/
def operand : Nat → Rule
  | 0, _ => none
  | fuel + 1, lexemes =>
      match symbolIn unaryOperators lexemes with
      | some rest => operand fuel rest
      | none => (primary fuel lexemes).bind (selections fuel)

def primary : Nat → Rule
  | 0, _ => none
  | fuel + 1, lexemes =>
      match lexemes with
      | .number _ :: rest => some rest
      | .quoted _ :: rest => some rest
      | .symbol "[" :: rest => elements "]" fuel rest
      | .symbol "(" :: rest => (expression fuel rest).bind (symbol ")")
      | .symbol "$" :: rest => word rest
      | .word found :: rest =>
          if lower found = "new" then
            (name rest).bind (optional ((symbol "(").andThen (elements ")" fuel)))
          else if lower found = "array" ∧ applies (symbol "(") rest then
            (symbol "(" rest).bind (elements ")" fuel)
          else name lexemes
      | _ => name lexemes

def selections : Nat → Rule
  | 0, lexemes => some lexemes
  | fuel + 1, lexemes =>
      match lexemes with
      | .symbol "::" :: rest => (orElse word dollarName rest).bind (selections fuel)
      | .symbol "->" :: rest => (orElse word dollarName rest).bind (selections fuel)
      | .symbol "[" :: rest =>
          ((expression fuel rest).bind (symbol "]")).bind (selections fuel)
      | .symbol "(" :: rest => (elements ")" fuel rest).bind (selections fuel)
      | _ => some lexemes

/-- Elements of an array or arguments of a call, up to the closing bracket. A comma may stand after
the last one. -/
def elements (close : String) : Nat → Rule
  | 0, _ => none
  | fuel + 1, lexemes =>
      match symbol close lexemes with
      | some rest => some rest
      | none => do
          let rest ← element fuel lexemes
          match symbol "," rest with
          | some after => elements close fuel after
          | none => symbol close rest

def element : Nat → Rule
  | 0, _ => none
  | fuel + 1, lexemes =>
      match lexemes with
      | .symbol "..." :: rest => expression fuel rest
      | _ => do
          let rest ← expression fuel lexemes
          match symbol "=>" rest with
          | some after => expression fuel after
          | none => some rest

end

/-- How deep the rules may go into code of so many lexemes. The way into a bracket, the longest
there is, takes five steps, and the bracket's two ends allow for eight. -/
def roomFor (lexemes : List Lexeme) : Nat := 4 * lexemes.length + 4

def initialiser (room : Nat) : Rule := (symbol "=").andThen (expression room)

def skipBrackets : Nat → Rule
  | _, [] => none
  | depth, .symbol "]" :: rest => if depth = 0 then some rest else skipBrackets (depth - 1) rest
  | depth, .symbol "[" :: rest => skipBrackets (depth + 1) rest
  | depth, .symbol "#[" :: rest => skipBrackets (depth + 1) rest
  | depth, _ :: rest => skipBrackets depth rest

def attributes : Rule := many ((symbol "#[").andThen (skipBrackets 0))

def memberModifiers : List String :=
  ["public", "protected", "private", "static", "abstract", "final", "readonly", "var"]

def classModifiers : List String := ["abstract", "final", "readonly"]

/-- A parameter. One that takes all remaining arguments has no default. -/
def parameter (room : Nat) : Rule := fun lexemes => do
  let start ← attributes lexemes
  let start ← many (anyKeyword ["public", "protected", "private", "readonly"]) start
  let afterType ← optional type start
  let afterReference ← optional (symbol "&") afterType
  match symbol "..." afterReference with
  | some rest => dollarName rest
  | none => (dollarName afterReference).bind (optional (initialiser room))

def parameters (room : Nat) : Rule :=
  sequence [symbol "(",
    optional ((separated "," (parameter room)).andThen (optional (symbol ","))), symbol ")"]

def returnType : Rule := optional ((symbol ":").andThen type)

def signature (room : Nat) : Rule :=
  sequence [optional (symbol "&"), word, parameters room, returnType]

def constantElement (room : Nat) : Rule := word.andThen (initialiser room)

/-- The names of types that cannot be taken for the name of a constant. -/
def primitiveTypes : List String :=
  ["array", "bool", "callable", "false", "float", "int", "iterable", "mixed", "null", "string",
    "true", "void"]

def typeComesFirst : List Lexeme → Bool
  | .word found :: rest => found ∈ primitiveTypes || !applies (symbol "=") rest
  | _ => true

def classConstants (room : Nat) : Rule := fun lexemes => do
  let rest ← keyword "const" lexemes
  let start ← if typeComesFirst rest then type rest else some rest
  (separated "," (constantElement room) start).bind ending

def propertyElement (room : Nat) : Rule := dollarName.andThen (optional (initialiser room))

def properties (room : Nat) : Rule :=
  sequence [optional type, separated "," (propertyElement room), ending]

def traitUse : Rule :=
  sequence [keyword "use", names,
    orElse ending ((symbol "\x7b").andThen (symbol "\x7d"))]

def baseClause : Rule := optional ((keyword "extends").andThen names)

def interfaceClause : Rule := optional ((keyword "implements").andThen names)

mutual

def statement (room : Nat) : Nat → Rule
  | 0, _ => none
  | fuel + 1, lexemes => do
      let start ← attributes lexemes
      match start with
      | .symbol ";" :: rest => some rest
      | .closing :: rest => some rest
      | .symbol "\x7b" :: rest => block room fuel rest
      | .word found :: rest =>
          let first := lower found
          if first = "namespace" ∧ !applies (symbol "\\") rest then
            let afterName ← optional namespaceName rest
            if applies namespaceName rest && applies ending afterName then ending afterName
            else (symbol "\x7b" afterName).bind (block room fuel)
          else if first = "const" then (separated "," (constantElement room) rest).bind ending
          else if first = "function" ∧ applies (signature room) rest then
            ((signature room rest).bind (symbol "\x7b")).bind (block room fuel)
          else if first = "return" then (optional (expression room) rest).bind ending
          else if first = "echo" then (separated "," (expression room) rest).bind ending
          else
            let unmodified ← many (anyKeyword classModifiers) start
            match classLike unmodified with
            | some body => members room fuel body
            | none => (expression room start).bind ending
      | _ => (expression room start).bind ending

def classLike (lexemes : List Lexeme) : Option (List Lexeme) :=
  choice [
    sequence [keyword "class", word, baseClause, interfaceClause, symbol "\x7b"],
    sequence [keyword "interface", word, baseClause, symbol "\x7b"],
    sequence [keyword "trait", word, symbol "\x7b"]] lexemes

def block (room : Nat) : Nat → Rule
  | 0, _ => none
  | fuel + 1, lexemes =>
      match lexemes with
      | .symbol "\x7d" :: rest => some rest
      | _ => (statement room fuel lexemes).bind (block room fuel)

def members (room : Nat) : Nat → Rule
  | 0, _ => none
  | fuel + 1, lexemes =>
      match lexemes with
      | .symbol "\x7d" :: rest => some rest
      | _ => (member room fuel lexemes).bind (members room fuel)

def member (room : Nat) : Nat → Rule
  | 0, _ => none
  | fuel + 1, lexemes =>
      if applies (keyword "use") lexemes then traitUse lexemes
      else do
        let start ← attributes lexemes
        let isModified := applies (anyKeyword memberModifiers) start
        let modifiers ← many (anyKeyword memberModifiers) start
        match modifiers with
        | .word found :: rest =>
            if lower found = "function" then
              let after ← signature room rest
              match ending after with
              | some next => some next
              | none => (symbol "\x7b" after).bind (block room fuel)
            else if lower found = "const" then classConstants room modifiers
            else if isModified then properties room modifiers
            else none
        | _ => if isModified then properties room modifiers else none

end

def program (room : Nat) : Nat → List Lexeme → Bool
  | 0, _ => false
  | _ + 1, [] => true
  | fuel + 1, lexemes =>
      match statement room room lexemes with
      | some rest => program room fuel rest
      | none => false

def isValid (text : List Char) : Bool :=
  match lexemes? text with
  | none => false
  | some lexemes => program (roomFor lexemes) (lexemes.length + 1) lexemes

end Stubwright.Code
