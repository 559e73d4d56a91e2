import Stubwright.Checked
import Stubwright.Declaration
import Stubwright.TypeRef.Notation

/-!
Metadata read from plain values. A dump may be written in a compact way: constants as a mapping
from names to values, types in their written form, and literal values bare. A bare null as a
default means that the default is not known.
-/

namespace Stubwright

open Value

abbrev Entries := List (Value × Value)

namespace SingleType

def readBuiltin : Value → Checked SingleType :=
  asModel "BuiltinType" fun entries =>
    (fun (_ : Unit) name nullable => .builtin name nullable) <$> ownTag entries "builtin" <*>
      requiredField entries "name" asText <*> fieldOr entries "nullable" false asTruth

def readNamed : Value → Checked SingleType :=
  asModel "NamedType" fun entries =>
    (fun (_ : Unit) name nullable => .named (QualifiedName.bare name) nullable) <$>
      ownTag entries "named" <*> requiredField entries "name" asText <*>
      fieldOr entries "nullable" false asTruth

end SingleType

namespace TypeRef

def readConjunct (value : Value) : Checked Conjunct :=
  (fun type : SingleType => .named type.name type.nullable) <$> SingleType.readNamed value

def readIntersection : Value → Checked (List Conjunct) :=
  asModel "IntersectionType" fun entries =>
    (fun (_ : Unit) members => members) <$> ownTag entries "intersection" <*>
      requiredField entries "types" (asList readConjunct)

def readAlternative : Value → Checked Alternative :=
  asTagged [
    ("builtin", fun value => .single <$> SingleType.readBuiltin value),
    ("named", fun value => .single <$> SingleType.readNamed value),
    ("intersection", fun value => .intersection <$> readIntersection value)]

def readUnion : Value → Checked (List Alternative) :=
  asModel "UnionType" fun entries =>
    (fun (_ : Unit) members => members) <$> ownTag entries "union" <*>
      requiredField entries "types" (asList readAlternative)

def readTagged : Value → Checked TypeRef :=
  asTagged [
    ("builtin", fun value => .single <$> SingleType.readBuiltin value),
    ("named", fun value => .single <$> SingleType.readNamed value),
    ("intersection", fun value => .intersection <$> readIntersection value),
    ("union", fun value => .union <$> readUnion value)]

/-- A type in its written form or spelled out, or no type at all. -/
def readField : Value → Checked (Option TypeRef)
  | .str text => .valid (some (ofText text))
  | value => asOptional readTagged value

end TypeRef

namespace ValueRef

def readLiteral : Value → Checked ValueRef :=
  asModel "LiteralValue" fun entries =>
    (fun (_ : Unit) value => .literal value) <$> ownTag entries "literal" <*>
      fieldOr entries "value" .null .valid

def readUnresolved : Value → Checked ValueRef :=
  asModel "UnresolvedValue" fun entries =>
    (fun (_ : Unit) expression => .unresolved expression) <$> ownTag entries "unresolved" <*>
      fieldOr entries "expression" none (asOptional asText)

def isTagged (value : Value) : Bool :=
  match value.unfolded with
  | .map entries =>
      match lookup? "kind" entries with
      | some (.str word) => word = "literal" || word = "unresolved"
      | _ => false
  | _ => false

def readTagged : Value → Checked ValueRef :=
  asTagged [("literal", readLiteral), ("unresolved", readUnresolved)]

/-- A bare value stands for the literal of it. -/
def read (value : Value) : Checked ValueRef :=
  if isTagged value then readTagged value else .valid (.literal value)

def readDefault : Value → Checked (Option ValueRef) := asOptional read

end ValueRef

namespace Constant

def read : Value → Checked Constant :=
  asModel "ConstantMetadata" fun entries =>
    Constant.mk <$> requiredField entries "name" asText <*>
      requiredField entries "value" ValueRef.read

def spellOut (value : Value) : Value :=
  match value.unfolded with
  | .map entries =>
      .list (entries.map fun entry => .map [(.str "name", entry.1), (.str "value", entry.2)])
  | unfolded => unfolded

def readAll (value : Value) : Checked (List Constant) := asList read (spellOut value)

end Constant

def Parameter.read : Value → Checked Parameter :=
  asModel "ParameterMetadata" fun entries =>
    Parameter.mk <$> requiredField entries "name" asText <*>
      fieldOr entries "type" none TypeRef.readField <*>
      fieldOr entries "by_reference" false asTruth <*>
      fieldOr entries "variadic" false asTruth <*>
      fieldOr entries "optional" false asTruth <*>
      fieldOr entries "default" none ValueRef.readDefault

def Function.readFields (entries : Entries) : Checked Function :=
  Function.mk <$> requiredField entries "name" asText <*>
    fieldOr entries "doc_comment" none (asOptional asText) <*>
    fieldOr entries "parameters" [] (asList Parameter.read) <*>
    fieldOr entries "return_type" none TypeRef.readField

def Function.read : Value → Checked Function :=
  asModel "FunctionMetadata" Function.readFields

def Visibility.words : List (Text × Visibility) :=
  [.everyone, .family, .owner].map fun visibility => (visibility.keyword, visibility)

def ClassKind.words : List (Text × ClassKind) :=
  [.ordinary, .interface, .trait].map fun kind => (kind.keyword, kind)

def Method.read : Value → Checked Method :=
  asModel "MethodMetadata" fun entries =>
    Method.mk <$> Function.readFields entries <*>
      fieldOr entries "visibility" .everyone (asWord Visibility.words) <*>
      fieldOr entries "is_static" false asTruth <*>
      fieldOr entries "is_abstract" false asTruth <*>
      fieldOr entries "is_final" false asTruth <*>
      fieldOr entries "declaring_class" none (asOptional asText)

def Property.read : Value → Checked Property :=
  asModel "PropertyMetadata" fun entries =>
    Property.mk <$> requiredField entries "name" asText <*>
      fieldOr entries "doc_comment" none (asOptional asText) <*>
      fieldOr entries "visibility" .everyone (asWord Visibility.words) <*>
      fieldOr entries "is_static" false asTruth <*>
      fieldOr entries "type" none TypeRef.readField

def ClassLike.read : Value → Checked ClassLike :=
  asModel "ClassMetadata" fun entries =>
    ClassLike.mk <$> requiredField entries "name" asText <*>
      fieldOr entries "kind" .ordinary (asWord ClassKind.words) <*>
      fieldOr entries "is_abstract" false asTruth <*>
      fieldOr entries "is_final" false asTruth <*>
      fieldOr entries "doc_comment" none (asOptional asText) <*>
      fieldOr entries "parent" none (asOptional asText) <*>
      fieldOr entries "interfaces" [] (asList asText) <*>
      fieldOr entries "traits" [] (asList asText) <*>
      fieldOr entries "constants" [] Constant.readAll <*>
      fieldOr entries "properties" [] (asList Property.read) <*>
      fieldOr entries "methods" [] (asList Method.read)

def Extension.read : Value → Checked Extension :=
  asModel "ModuleMetadata" fun entries =>
    Extension.mk <$> fieldOr entries "name" "" asText <*>
      fieldOr entries "version" none (asOptional asText) <*>
      fieldOr entries "constants" [] Constant.readAll <*>
      fieldOr entries "functions" [] (asList Function.read) <*>
      fieldOr entries "classes" [] (asList ClassLike.read)

end Stubwright
