import Stubwright.Name
import Stubwright.RenderError
import Stubwright.Text.Lowercase
import Stubwright.TypeRef

/-!
The written form of types, in both directions. Named types are written with the mark of the root
namespace, so they mean the same inside any namespace; an intersection inside a union is put in
parentheses. Reading is lenient about blanks and about the case of built-in names.
-/

namespace Stubwright

def admitsNull (name : Text) : Bool :=
  let lower := Text.lowercase name
  lower = "mixed" || lower = "null"

namespace SingleType

def name : SingleType → Text
  | .builtin name _ => name
  | .named name _ => name

def nullable : SingleType → Bool
  | .builtin _ nullable => nullable
  | .named _ nullable => nullable

def render (type : SingleType) : Text :=
  let text := match type with
    | .builtin name _ => name
    | .named name _ => "\\" ++ name
  if type.nullable && !admitsNull type.name then "?" ++ text else text

/-- A built-in type in any letter case, or else the name of a class. -/
def ofText (name : Text) (nullable : Bool) : SingleType :=
  let lower := Text.lowercase name
  if lower ∈ builtinNames then .builtin lower nullable
  else .named (QualifiedName.bare name) nullable

end SingleType

def Conjunct.render : Conjunct → Except RenderError Text
  | .named name nullable => .ok (SingleType.named name nullable).render
  | .foreign value => .error (.unsupportedType value)

def renderIntersection (members : List Conjunct) : Except RenderError Text := do
  let texts ← members.mapM Conjunct.render
  return Text.joinWith "&" texts

def Alternative.render : Alternative → Except RenderError Text
  | .single type => .ok type.render
  | .intersection members => do
      let text ← renderIntersection members
      return "(" ++ text ++ ")"
  | .foreign value => .error (.unsupportedType value)

namespace TypeRef

def render : TypeRef → Except RenderError Text
  | .single type => .ok type.render
  | .intersection members => renderIntersection members
  | .union members => do
      let texts ← members.mapM Alternative.render
      return Text.joinWith "|" texts
  | .foreign value => .error (.unsupportedType value)

/-- The members of an intersection, with any parentheses around the whole dropped. -/
def conjuncts (text : Text) : List Conjunct :=
  let inner := Text.trim (·.isIn fun c => c = '(' || c = ')') text.strip
  (Text.splitAt (CodePoint.char '&') inner).map fun part =>
    .named (QualifiedName.bare (Text.strip part)) false

def alternative (text : Text) : Alternative :=
  if text.contains '&' then .intersection (conjuncts text)
  else .single (SingleType.ofText text false)

/-- Reads a type. The mark for null counts only where it stands before a single name. -/
def ofText (text : Text) : TypeRef :=
  let stripped := text.strip
  let nullable := stripped.head? = some '?'
  let body := if nullable then stripped.drop 1 else stripped
  match (Text.splitAt (CodePoint.char '|') body).map Text.strip with
  | [only] =>
      if only.contains '&' then .intersection (conjuncts only)
      else .single (SingleType.ofText only nullable)
  | members => .union (members.map alternative)

end TypeRef

end Stubwright
