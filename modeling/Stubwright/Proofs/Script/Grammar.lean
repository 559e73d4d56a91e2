import Stubwright.Declaration
import Stubwright.Proofs.Literal.Reader
import Stubwright.Proofs.Script.Name

/-!
The grammar of stub files, as a reader that gives the symbols a file declares: an opening tag, one
comment, and then either declarations or namespace blocks with declarations in them.
-/

namespace Stubwright.Script

inductive Member where
  | trait (name : Text)
  | constant (name : Text)
  | property (name : Text)
  | method (name : Text) (parameters : List Text)
  deriving DecidableEq

inductive Symbol where
  | constant (name : Text)
  | function (name : Text) (parameters : List Text)
  | classLike (kind : ClassKind) (name : Text) (extended implemented : List Text)
      (members : List Member)
  deriving DecidableEq

/-- The declarations of a file: bare ones of the global scope, or those of namespace blocks in
their order with, at the end, those of the global scope. -/
inductive Outline where
  | bare (symbols : List Symbol)
  | blocks (scopes : List (Text × List Symbol)) (globals : Option (List Symbol))
  deriving DecidableEq

def literal : Reader Unit := fun text => (Literal.read text).map fun found => ((), found.2)

def builtin : Reader Unit := do
  let found ← word
  if found ∈ builtinNames then pure () else failure

def typeName : Reader Unit := (do let _ ← reference) <|> builtin

def conjunct : Reader Unit := do
  symbol '&'
  let _ ← reference

def intersection : Reader Unit := do
  let _ ← reference
  conjunct
  let _ ← many conjunct

def group : Reader Unit := do
  symbol '('
  intersection
  symbol ')'

def alternative : Reader Unit := group <|> typeName

def otherAlternative : Reader Unit := do
  symbol '|'
  alternative

def union : Reader Unit := do
  alternative
  otherAlternative
  let _ ← many otherAlternative

def nullable : Reader Unit := do
  symbol '?'
  typeName

def type : Reader Unit := nullable <|> intersection <|> union <|> typeName

/-- A variable's name may be any word. -/
def variableName : Reader Text := do
  symbol '$'
  takeWord

def initialiser : Reader Unit := do
  symbol '='
  literal

def ellipsis : Reader Unit := do
  symbol '.'
  take '.'
  take '.'

def passedName : Reader Text := do
  maybe (symbol '&')
  maybe ellipsis
  variableName

def parameter : Reader Text := do
  maybe type
  let found ← passedName
  maybe initialiser
  return found

def parameters : Reader (List Text) := do
  symbol '('
  let found ← separated parameter <|> pure []
  symbol ')'
  return found

def returnType : Reader Unit := do
  symbol ':'
  type

def emptyBraces : Reader Unit := do
  symbol '\x7b'
  symbol '\x7d'

def typedVariable : Reader Member := do
  maybe type
  let found ← variableName
  symbol ';'
  return .property found

/-- The word for a static property is also the name of a type. -/
def property : Reader Member :=
  (do
    keyword "static"
    typedVariable) <|> typedVariable

/-- A method's name may be any word. -/
def methodSignature : Reader Member := do
  let found ← word
  let names ← parameters
  maybe returnType
  symbol ';' <|> emptyBraces
  return .method found names

def method : Reader Member := do
  maybe (keyword "abstract")
  maybe (keyword "static")
  maybe (keyword "final")
  keyword "function"
  methodSignature

def traitUse : Reader Member := do
  let found ← reference
  symbol ';'
  return .trait found

def classConstant : Reader Member := do
  let found ← word
  initialiser
  symbol ';'
  return .constant found

def member : Reader Member := do
  let first ← word
  if first = "use" then traitUse
  else if first = "const" then classConstant
  else if first = "public" ∨ first = "protected" ∨ first = "private" then property <|> method
  else failure

def body : Reader (List Member) := do
  symbol '\x7b'
  let found ← many member
  symbol '\x7d'
  return found

def references (before : Text) : Reader (List Text) :=
  (do
    keyword before
    separated reference) <|> pure []

def parent : Reader (List Text) :=
  (do
    keyword "extends"
    let found ← reference
    return [found]) <|> pure []

def ordinaryClass : Reader Symbol := do
  let found ← name
  let extended ← parent
  let implemented ← references "implements"
  let members ← body
  return .classLike .ordinary found extended implemented members

def interface : Reader Symbol := do
  let found ← name
  let extended ← references "extends"
  let members ← body
  return .classLike .interface found extended [] members

def trait : Reader Symbol := do
  let found ← name
  let members ← body
  return .classLike .trait found [] [] members

def function : Reader Symbol := do
  let found ← name
  let names ← parameters
  maybe returnType
  emptyBraces
  return .function found names

def constant : Reader Symbol := do
  let found ← name
  initialiser
  symbol ';'
  return .constant found

def declaration : Reader Symbol := do
  let first ← word
  if first = "const" then constant
  else if first = "function" then function
  else if first = "interface" then interface
  else if first = "trait" then trait
  else if first = "class" then ordinaryClass
  else if first = "final" then do
    keyword "class"
    ordinaryClass
  else if first = "abstract" then do
    maybe (keyword "final")
    keyword "class"
    ordinaryClass
  else failure

def declarations : Reader (List Symbol) := do
  symbol '\x7b'
  let found ← many declaration
  symbol '\x7d'
  return found

def namespaceBlock : Reader (Text × List Symbol) := do
  keyword "namespace"
  trivia
  let scope ← qualified
  let found ← declarations
  return (scope, found)

def globalBlock : Reader (Option (List Symbol)) :=
  (do
    keyword "namespace"
    let found ← declarations
    return some found) <|> pure none

def bareOutline : Reader Outline := do
  let found ← many declaration
  trivia
  ending
  return .bare found

def blockOutline : Reader Outline := do
  let first ← namespaceBlock
  let others ← many namespaceBlock
  let globals ← globalBlock
  trivia
  ending
  return .blocks (first :: others) globals

def opening : Reader Unit
  | .char '<' :: .char '?' :: .char 'p' :: .char 'h' :: .char 'p' :: .char '\n' :: .char '/' ::
      .char '*' :: .char '*' :: rest => (afterComment rest).map fun after => ((), after)
  | _ => none

def file : Reader Outline := do
  opening
  bareOutline <|> blockOutline

def read (text : Text) : Option Outline := (file text).map Prod.fst

end Stubwright.Script
