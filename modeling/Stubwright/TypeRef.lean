import Stubwright.Value

/-!
Type references: a single name, an intersection of class names, or a union whose alternatives are
single names and intersections. Metadata that was put together by hand can hold any value in the
place of a type or of a member; such a value is kept as `foreign` and has no written form.
-/

namespace Stubwright

/-- A type written as one name. Built-in names are resolved without a namespace; named types are
kept without the mark of the root namespace. -/
inductive SingleType where
  | builtin (name : Text) (nullable : Bool)
  | named (name : Text) (nullable : Bool)
  deriving DecidableEq

inductive Conjunct where
  | named (name : Text) (nullable : Bool)
  | foreign (value : Value)

inductive Alternative where
  | single (type : SingleType)
  | intersection (members : List Conjunct)
  | foreign (value : Value)

inductive TypeRef where
  | single (type : SingleType)
  | intersection (members : List Conjunct)
  | union (members : List Alternative)
  | foreign (value : Value)

def builtinNames : List Text :=
  ["array", "bool", "callable", "false", "float", "int", "iterable", "mixed", "never", "null",
    "object", "parent", "self", "static", "string", "true", "void"]

end Stubwright
