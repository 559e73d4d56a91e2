import Stubwright.Rendering
import Stubwright.TypeRef.Notation

/-!
The text of values, parameters, properties and methods. A value without a literal does not fail: it
is replaced by the placeholder of the settings, and a warning names the place. Parameters of
functions and of methods are written alike.
-/

namespace Stubwright

def emptyBody : Text := " \x7b\x7d"

/-- A doc comment on lines of its own; an empty one is none. -/
def docLines (docComment : Option Text) (indent : Text) : Text :=
  match docComment with
  | none => []
  | some comment => .when (comment ≠ []) (comment ++ "\n" ++ indent)

def renderType (type : TypeRef) : Rendering Text := .lift type.render

def typeBefore (type : Option TypeRef) : Rendering Text :=
  match type with
  | none => pure []
  | some type => do return (← renderType type) ++ " "

def returnClause (type : Option TypeRef) : Rendering Text :=
  match type with
  | none => pure []
  | some type => do return ": " ++ (← renderType type)

def ValueRef.render (renderer : Renderer) (site : Site) (construct : Text)
    (value : Option ValueRef) : Rendering Text :=
  match value with
  | some (.literal value) =>
      match Literal.ofValue (renderer.room site) value with
      | .ok text => pure text
      | .error cause =>
          if cause.isFormless then do
            .warn construct (cause.message ++ ", using placeholder")
            return renderer.placeholder
          else .lift (.error cause)
  | _ => do
      .warn construct "value could not be resolved, using placeholder"
      return renderer.placeholder

namespace Parameter

/-- A variadic parameter is optional already and cannot have a default. -/
def takesDefault (parameter : Parameter) : Bool := parameter.optional && !parameter.variadic

def render (renderer : Renderer) (site : Site) (owner : Text) (parameter : Parameter) :
    Rendering Text := do
  let type ← typeBefore parameter.type
  let head := type ++ .when parameter.byReference "&" ++ .when parameter.variadic "..." ++ "$" ++
    parameter.name
  if parameter.takesDefault then
    let construct := owner ++ "($" ++ parameter.name ++ ")"
    let value ← ValueRef.render renderer site construct parameter.default
    return head ++ "=" ++ value
  else
    return head

def renderEach (renderer : Renderer) (site : Site) (owner : Text) :
    List Parameter → Rendering (List Text)
  | [] => pure []
  | parameter :: parameters => do
      let text ← parameter.render renderer site owner
      let texts ← renderEach renderer site owner parameters
      return text :: texts

def renderList (renderer : Renderer) (site : Site) (owner : Text) (parameters : List Parameter) :
    Rendering Text := do
  return Text.joinWith ", " (← renderEach renderer site owner parameters)

end Parameter

namespace Property

def modifiers (property : Property) : Text :=
  property.visibility.keyword ++ " " ++ .when property.isStatic "static "

def render (settings : Settings) (property : Property) : Rendering Text := do
  let type ← typeBefore property.type
  return settings.indent ++ docLines property.docComment settings.indent ++ property.modifiers ++
    type ++ "$" ++ property.name ++ ";\n"

end Property

namespace Method

/-- Methods of an interface are abstract already, and the word is not allowed there. -/
def modifiers (inInterface : Bool) (method : Method) : Text :=
  method.visibility.keyword ++ " " ++ .when (method.isAbstract && !inInterface) "abstract " ++
    .when method.isStatic "static " ++ .when method.isFinal "final "

/-- Abstract methods, and all methods of an interface, have no body. -/
def ending (inInterface : Bool) (method : Method) : Text :=
  if method.isAbstract || inInterface then ";\n" else emptyBody ++ "\n"

/-- A method on lines of its own; `owner` is the short name of the class around it. -/
def render (renderer : Renderer) (owner : Text) (inInterface : Bool) (method : Method) :
    Rendering Text := do
  let parameters ← Parameter.renderList renderer .methodDefault (owner ++ "::" ++ method.name)
    method.parameters
  let returns ← returnClause method.returnType
  return renderer.indent ++ docLines method.docComment renderer.indent ++
    method.modifiers inInterface ++ "function " ++ method.name ++ " (" ++ parameters ++ ")" ++
    returns ++ method.ending inInterface

end Method

end Stubwright
