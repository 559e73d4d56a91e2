import Stubwright.Rendering.Member

/-!
The text of constants, functions and classes. Each becomes a fragment: its text, and the namespace
that its own name puts it into.
-/

namespace Stubwright

/-- Rendered text and the namespace that owns it; without one it belongs to the global scope. -/
structure Fragment where
  scope : Option Text
  text : Text
  deriving DecidableEq

/-- A constant needs its literal: one without a written form fails. Only a value that is no literal
at all is replaced by the placeholder. -/
def Constant.value? (renderer : Renderer) (constant : Constant) : Rendering Text :=
  match constant.value with
  | .literal value => .lift (Literal.ofValue (renderer.room .constant) value)
  | value => ValueRef.render renderer .constant constant.name (some value)

def Constant.render (renderer : Renderer) (constant : Constant) : Rendering Fragment := do
  let name := QualifiedName.ofText constant.name
  let value ← constant.value? renderer
  return ⟨name.scope, "const " ++ name.short ++ "=" ++ value ++ ";"⟩

def Function.render (renderer : Renderer) (function : Function) : Rendering Fragment := do
  let name := QualifiedName.ofText function.name
  let parameters ← Parameter.renderList renderer .default function.name function.parameters
  let returns ← returnClause function.returnType
  return ⟨name.scope, docLines function.docComment "" ++ "function " ++ name.short ++ "(" ++
    parameters ++ ")" ++ returns ++ emptyBody⟩

namespace ClassLike

/-- Only a class in the narrow sense is marked abstract or final. -/
def modifiers (declared : ClassLike) : Text :=
  match declared.kind with
  | .ordinary =>
      .when declared.isAbstract "abstract " ++ .when declared.isFinal "final " ++ "class "
  | .interface => "interface "
  | .trait => "trait "

def references (names : List Text) : Text :=
  Text.joinWith ", " (names.map QualifiedName.rooted)

def clause (keyword : Text) (names : List Text) : Text :=
  .when (names ≠ []) (" " ++ keyword ++ " " ++ references names)

/-- An empty parent is none. -/
def parents (declared : ClassLike) : List Text :=
  match declared.parent with
  | none => []
  | some parent => if parent = [] then [] else [parent]

/-- Interfaces inherit interfaces by extending them. A trait implements nothing. -/
def relations (declared : ClassLike) : Text :=
  match declared.kind with
  | .interface => clause "extends" declared.interfaces
  | .ordinary => clause "extends" declared.parents ++ clause "implements" declared.interfaces
  | .trait => clause "extends" declared.parents

def header (declared : ClassLike) : Text :=
  declared.modifiers ++ (QualifiedName.ofText declared.name).short ++ declared.relations

def traitLine (settings : Settings) (name : Text) : Text :=
  settings.indent ++ "use " ++ QualifiedName.rooted name ++ ";\n"

def constantLine (renderer : Renderer) (owner : Text) (constant : Constant) :
    Rendering Text := do
  let value ← ValueRef.render renderer .classConstant (owner ++ "::" ++ constant.name)
    (some constant.value)
  return renderer.indent ++ "const " ++ constant.name ++ "=" ++ value ++ ";\n"

def renderAll {α : Type} (render : α → Rendering Text) : List α → Rendering Text
  | [] => pure []
  | member :: members => do
      let text ← render member
      let texts ← renderAll render members
      return text ++ texts

/-- Inherited methods are left out: the header says where they come from. -/
def ownMethods (declared : ClassLike) : List Method :=
  declared.methods.filter declared.declares

def render (renderer : Renderer) (declared : ClassLike) : Rendering Fragment := do
  let name := QualifiedName.ofText declared.name
  let constants ← renderAll (constantLine renderer name.short) declared.constants
  let properties ← renderAll (Property.render renderer) declared.properties
  let methods ← renderAll (Method.render renderer name.short (declared.kind = .interface))
    declared.ownMethods
  return ⟨name.scope, docLines declared.docComment "" ++ declared.header ++ " \x7b\n" ++
    declared.traits.flatMap (traitLine renderer) ++ constants ++ properties ++ methods ++
    "\x7d"⟩

end ClassLike

end Stubwright
