import Stubwright.Name
import Stubwright.Text.Lowercase
import Stubwright.TypeRef

/-!
What a reflected extension declares: constants, functions and class-like constructs with their
members. Lists keep the order in which the extension enumerates its symbols.
-/

namespace Stubwright

/-- A constant's value or a parameter's default. A value that was put in unchecked is `foreign`;
like an unresolved one it has no literal. -/
inductive ValueRef where
  | literal (value : Value)
  | unresolved (expression : Option Text)
  | foreign (value : Value)

structure Constant where
  name : Text
  value : ValueRef

structure Parameter where
  name : Text
  type : Option TypeRef := none
  byReference : Bool := false
  variadic : Bool := false
  optional : Bool := false
  default : Option ValueRef := none

def Parameter.hasUnknownDefault (parameter : Parameter) : Bool :=
  parameter.optional && !parameter.variadic &&
    match parameter.default with
    | some (.literal _) => false
    | _ => true

structure Function where
  name : Text
  docComment : Option Text := none
  parameters : List Parameter := []
  returnType : Option TypeRef := none

inductive Visibility where
  | everyone
  | family
  | owner
  deriving DecidableEq

def Visibility.keyword : Visibility → Text
  | .everyone => "public"
  | .family => "protected"
  | .owner => "private"

/-- A method, with the class that declares it where that is not the class that lists it. -/
structure Method extends Function where
  visibility : Visibility := .everyone
  isStatic : Bool := false
  isAbstract : Bool := false
  isFinal : Bool := false
  declaringClass : Option Text := none

structure Property where
  name : Text
  docComment : Option Text := none
  visibility : Visibility := .everyone
  isStatic : Bool := false
  type : Option TypeRef := none

inductive ClassKind where
  | ordinary
  | interface
  | trait
  deriving DecidableEq

def ClassKind.keyword : ClassKind → Text
  | .ordinary => "class"
  | .interface => "interface"
  | .trait => "trait"

structure ClassLike where
  name : Text
  kind : ClassKind := .ordinary
  isAbstract : Bool := false
  isFinal : Bool := false
  docComment : Option Text := none
  parent : Option Text := none
  interfaces : List Text := []
  traits : List Text := []
  constants : List Constant := []
  properties : List Property := []
  methods : List Method := []

/-- Class names are compared without regard to case or to marks of the root namespace. -/
def sameClassName (left right : Text) : Bool :=
  Text.lowercase (QualifiedName.bare left) = Text.lowercase (QualifiedName.bare right)

/-- Whether the class declares the method itself and does not inherit it. -/
def ClassLike.declares (owner : ClassLike) (method : Method) : Bool :=
  match method.declaringClass with
  | none => true
  | some declaring => sameClassName declaring owner.name

structure Extension where
  name : Text := ""
  version : Option Text := none
  constants : List Constant := []
  functions : List Function := []
  classes : List ClassLike := []

def Extension.empty (name : Text) : Extension where
  name := name

end Stubwright
