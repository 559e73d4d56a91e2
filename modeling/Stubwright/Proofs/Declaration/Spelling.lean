import Stubwright.Declaration.Reading
import Stubwright.Proofs.TypeRef.WellFormed
import Stubwright.Value.Key

/-!
Metadata spelled out as plain values. Spellings agree on the fields of each part and differ in how
they give types, constants and defaults: the tagged spelling says of each what it is, the compact
one gives types in their written form, constants as a mapping and literal values bare.
-/

namespace Stubwright

def textOrNull : Option Text → Value
  | none => .null
  | some text => .str text

namespace SingleType

def tagged : SingleType → Value
  | .builtin name nullable =>
      .map [(.str "kind", .str "builtin"), (.str "name", .str name),
        (.str "nullable", .bool nullable)]
  | .named name nullable =>
      .map [(.str "kind", .str "named"), (.str "name", .str name),
        (.str "nullable", .bool nullable)]

end SingleType

def Conjunct.tagged : Conjunct → Value
  | .named name nullable => (SingleType.named name nullable).tagged
  | .foreign value => value

def taggedIntersection (members : List Conjunct) : Value :=
  .map [(.str "kind", .str "intersection"), (.str "types", .list (members.map Conjunct.tagged))]

def Alternative.tagged : Alternative → Value
  | .single type => type.tagged
  | .intersection members => taggedIntersection members
  | .foreign value => value

namespace TypeRef

def tagged : TypeRef → Value
  | .single type => type.tagged
  | .intersection members => taggedIntersection members
  | .union members =>
      .map [(.str "kind", .str "union"), (.str "types", .list (members.map Alternative.tagged))]
  | .foreign value => value

/-- A type in its written form. One without such a form is spelled out. -/
def compact (type : TypeRef) : Value :=
  match type.render with
  | .ok text => .str text
  | .error _ => type.tagged

end TypeRef

namespace ValueRef

def tagged : ValueRef → Value
  | .literal value => .map [(.str "kind", .str "literal"), (.str "value", value)]
  | .unresolved expression =>
      .map [(.str "kind", .str "unresolved"), (.str "expression", textOrNull expression)]
  | .foreign value => value

def compact : ValueRef → Value
  | .literal value => value
  | value => value.tagged

def taggedDefault : Option ValueRef → Value
  | none => .null
  | some value => value.tagged

/-- A bare null would mean that there is no default, so the literal null keeps its tag. -/
def compactDefault : Option ValueRef → Value
  | none => .null
  | some (.literal .null) => (ValueRef.literal .null).tagged
  | some value => value.compact

end ValueRef

structure Spelling where
  type : TypeRef → Value
  constants : List Constant → Value
  default : Option ValueRef → Value

namespace Spelling

/-- The spelling of a reflection run. -/
def tagged : Spelling where
  type := TypeRef.tagged
  constants constants := .list (constants.map fun constant =>
    .map [(.str "name", .str constant.name), (.str "value", constant.value.tagged)])
  default := ValueRef.taggedDefault

/-- The spelling that is convenient to write by hand. -/
def compact : Spelling where
  type := TypeRef.compact
  constants constants :=
    .ofEntries (constants.map fun constant => (.str constant.name, constant.value.compact))
  default := ValueRef.compactDefault

variable (spelling : Spelling)

def typeOrNull : Option TypeRef → Value
  | none => .null
  | some type => spelling.type type

def parameter (parameter : Parameter) : Value :=
  .map [(.str "name", .str parameter.name), (.str "type", spelling.typeOrNull parameter.type),
    (.str "by_reference", .bool parameter.byReference), (.str "variadic", .bool parameter.variadic),
    (.str "optional", .bool parameter.optional),
    (.str "default", spelling.default parameter.default)]

def signature (function : Function) : Entries :=
  [(.str "name", .str function.name), (.str "doc_comment", textOrNull function.docComment),
    (.str "parameters", .list (function.parameters.map spelling.parameter)),
    (.str "return_type", spelling.typeOrNull function.returnType)]

def function (function : Function) : Value := .map (spelling.signature function)

def method (method : Method) : Value :=
  .map (spelling.signature method.toFunction ++
    [(.str "visibility", .str method.visibility.keyword), (.str "is_static", .bool method.isStatic),
      (.str "is_abstract", .bool method.isAbstract), (.str "is_final", .bool method.isFinal),
      (.str "declaring_class", textOrNull method.declaringClass)])

def property (property : Property) : Value :=
  .map [(.str "name", .str property.name), (.str "doc_comment", textOrNull property.docComment),
    (.str "visibility", .str property.visibility.keyword),
    (.str "is_static", .bool property.isStatic), (.str "type", spelling.typeOrNull property.type)]

def classLike (declared : ClassLike) : Value :=
  .map [(.str "name", .str declared.name), (.str "kind", .str declared.kind.keyword),
    (.str "is_abstract", .bool declared.isAbstract), (.str "is_final", .bool declared.isFinal),
    (.str "doc_comment", textOrNull declared.docComment),
    (.str "parent", textOrNull declared.parent),
    (.str "interfaces", .list (declared.interfaces.map .str)),
    (.str "traits", .list (declared.traits.map .str)),
    (.str "constants", spelling.constants declared.constants),
    (.str "properties", .list (declared.properties.map spelling.property)),
    (.str "methods", .list (declared.methods.map spelling.method))]

def extension (extension : Extension) : Value :=
  .map [(.str "name", .str extension.name), (.str "version", textOrNull extension.version),
    (.str "constants", spelling.constants extension.constants),
    (.str "functions", .list (extension.functions.map spelling.function)),
    (.str "classes", .list (extension.classes.map spelling.classLike))]

end Spelling

/-- A type that is written and read back unchanged: no mark for null where null is
admitted anyway. -/
structure TypeRef.IsSettled (type : TypeRef) : Prop where
  wellFormed : type.IsWellFormed IsClassName
  settled : type.settled = type

/-- A value that was read from metadata and that no bare spelling mistakes for a tagged one. -/
def ValueRef.IsPlain : ValueRef → Prop
  | .literal value => isTagged value = false
  | .unresolved _ => True
  | .foreign _ => False

/-- Constants that can stand in one mapping. -/
structure AreKeyed (constants : List Constant) : Prop where
  distinct : (constants.map fun constant => constant.name).Nodup
  plain : ∀ constant ∈ constants, constant.value.IsPlain

structure Parameter.IsSettled (parameter : Parameter) : Prop where
  type : ∀ type ∈ parameter.type, type.IsSettled
  default : ∀ value ∈ parameter.default, value.IsPlain

structure Function.IsSettled (function : Function) : Prop where
  parameters : ∀ parameter ∈ function.parameters, parameter.IsSettled
  returnType : ∀ type ∈ function.returnType, type.IsSettled

structure ClassLike.IsSettled (declared : ClassLike) : Prop where
  constants : AreKeyed declared.constants
  properties : ∀ property ∈ declared.properties, ∀ type ∈ property.type, type.IsSettled
  methods : ∀ method ∈ declared.methods, method.toFunction.IsSettled

structure Extension.IsSettled (extension : Extension) : Prop where
  constants : AreKeyed extension.constants
  functions : ∀ function ∈ extension.functions, function.IsSettled
  classes : ∀ declared ∈ extension.classes, declared.IsSettled

end Stubwright
