import Stubwright.Proofs.Script.Declaration
import Stubwright.Proofs.Stub.Isolation

/-!
What makes a construct fail. A type fails where a value that is no type stands in it. Of the values,
a constant of its own needs its literal, and any other has to have one or else be of a kind that the
placeholder can stand for. Nothing else fails.
-/

namespace Stubwright

open Script

namespace Rendering

variable {α β : Type}

theorem fails_lift (outcome : Except RenderError α) : (lift outcome).fails = !outcome.isOk := by
  cases outcome <;> rfl

theorem fails_bind (first : Rendering α) (next : α → Rendering β) (later : Bool)
    (same : ∀ value, (next value).fails = later) :
    (first >>= next).fails = (first.fails || later) := by
  unfold fails at same ⊢
  rw [bind_outcome]
  cases first.outcome with
  | error cause => rfl
  | ok value => exact same value

end Rendering

def Conjunct.isForeign : Conjunct → Bool
  | .named _ _ => false
  | .foreign _ => true

def Alternative.hasForeign : Alternative → Bool
  | .single _ => false
  | .intersection members => members.any Conjunct.isForeign
  | .foreign _ => true

/-- Whether a value that is no type stands in the place of the type or of one of its members. -/
def TypeRef.hasForeign : TypeRef → Bool
  | .single _ => false
  | .intersection members => members.any Conjunct.isForeign
  | .union members => members.any Alternative.hasForeign
  | .foreign _ => true

section

variable {ε α β : Type}

theorem is_ok_bind (first : Except ε α) (write : α → β) :
    (do return write (← first) : Except ε β).isOk = first.isOk := by
  cases first <;> rfl

theorem is_ok_map_m (write : α → Except ε β) (members : List α) :
    (members.mapM write).isOk = members.all fun member => (write member).isOk := by
  induction members with
  | nil => rfl
  | cons member members ih =>
      rw [List.mapM_cons, List.all_cons]
      cases write member with
      | error cause => rfl
      | ok text => exact (is_ok_bind _ _).trans ih

end

theorem any_or_any {α : Type} (first second : α → Bool) (items : List α) :
    (items.any fun item => first item || second item) = (items.any first || items.any second) := by
  induction items with
  | nil => rfl
  | cons item items ih =>
      rw [List.any_cons, List.any_cons, List.any_cons, ih]
      ac_rfl

theorem Conjunct.render_ok (member : Conjunct) : member.render.isOk = !member.isForeign := by
  cases member <;> rfl

theorem intersection_ok (members : List Conjunct) :
    (renderIntersection members).isOk = !members.any Conjunct.isForeign := by
  rw [renderIntersection, is_ok_bind, is_ok_map_m, List.not_any_eq_all_not]
  simp only [Conjunct.render_ok]

theorem Alternative.render_ok (member : Alternative) : member.render.isOk = !member.hasForeign := by
  cases member with
  | single type => rfl
  | intersection members =>
      rw [render, is_ok_bind, intersection_ok]
      rfl
  | foreign value => rfl

theorem TypeRef.render_ok (type : TypeRef) : type.render.isOk = !type.hasForeign := by
  cases type with
  | single type => rfl
  | intersection members => exact intersection_ok members
  | union members =>
      rw [render, is_ok_bind, is_ok_map_m, hasForeign, List.not_any_eq_all_not]
      simp only [Alternative.render_ok]
  | foreign value => rfl

theorem type_fails (type : TypeRef) : (renderType type).fails = type.hasForeign := by
  rw [renderType, Rendering.fails_lift, TypeRef.render_ok, Bool.not_not]

theorem type_before_fails (type : Option TypeRef) :
    (typeBefore type).fails = type.any TypeRef.hasForeign := by
  cases type with
  | none => rfl
  | some type =>
      rw [typeBefore, Rendering.fails_bind _ _ false fun _ => rfl, type_fails, Bool.or_false]
      rfl

theorem return_clause_fails (type : Option TypeRef) :
    (returnClause type).fails = type.any TypeRef.hasForeign := by
  cases type with
  | none => rfl
  | some type =>
      rw [returnClause, Rendering.fails_bind _ _ false fun _ => rfl, type_fails, Bool.or_false]
      rfl

/-- Whether something can stand for a value: its literal, or the placeholder. -/
def ValueRef.isReplaceable (room : Literal.Room) : ValueRef → Bool
  | .literal value =>
      match Literal.ofValue room value with
      | .ok _ => true
      | .error cause => cause.isFormless
  | _ => true

def Constant.isWritable (room : Literal.Room) (constant : Constant) : Bool :=
  match constant.value with
  | .literal value => (Literal.ofValue room value).isOk
  | _ => true

def Parameter.isWritable (room : Literal.Room) (parameter : Parameter) : Bool :=
  !parameter.takesDefault || parameter.default.all (ValueRef.isReplaceable room)

def Function.isWritable (room : Literal.Room) (function : Function) : Bool :=
  function.parameters.all (Parameter.isWritable room)

def ClassLike.isWritable (renderer : Renderer) (declared : ClassLike) : Bool :=
  (declared.constants.all fun constant =>
    constant.value.isReplaceable (renderer.room .classConstant)) &&
    declared.ownMethods.all fun method =>
      method.toFunction.isWritable (renderer.room .methodDefault)

def Function.hasForeign (function : Function) : Bool :=
  (function.parameters.any fun parameter => parameter.type.any TypeRef.hasForeign) ||
    function.returnType.any TypeRef.hasForeign

/-- The types of methods that are inherited do not count. -/
def ClassLike.hasForeign (declared : ClassLike) : Bool :=
  (declared.properties.any fun property => property.type.any TypeRef.hasForeign) ||
    declared.ownMethods.any fun method => method.toFunction.hasForeign

theorem ValueRef.render_fails (renderer : Renderer) (site : Site) (construct : Text)
    (value : Option ValueRef) : (ValueRef.render renderer site construct value).fails =
      !value.all (isReplaceable (renderer.room site)) := by
  rcases value with _ | ⟨value | expression | value⟩
  · rfl
  · rw [render, Option.all_some, isReplaceable]
    cases Literal.ofValue (renderer.room site) value with
    | ok text => rfl
    | error cause =>
        dsimp only
        cases formless : cause.isFormless <;> rfl
  · rfl
  · rfl

theorem Constant.render_fails (renderer : Renderer) (constant : Constant) :
    (constant.render renderer).fails = !constant.isWritable (renderer.room .constant) := by
  rw [render, Rendering.fails_bind _ _ false fun _ => rfl, Bool.or_false, value?, isWritable]
  cases constant.value with
  | literal value => exact Rendering.fails_lift _
  | unresolved expression => rfl
  | foreign value => rfl

namespace Parameter

variable (renderer : Renderer) (site : Site) (owner : Text)

theorem render_fails (parameter : Parameter) :
    (parameter.render renderer site owner).fails =
      (parameter.type.any TypeRef.hasForeign || !parameter.isWritable (renderer.room site)) := by
  rw [render, Rendering.fails_bind _ _ (!parameter.isWritable (renderer.room site)),
    type_before_fails]
  intro type
  unfold isWritable
  dsimp only
  cases parameter.takesDefault with
  | false => rfl
  | true =>
      rw [if_pos rfl, Rendering.fails_bind _ _ false fun _ => rfl, Bool.or_false,
        ValueRef.render_fails]
      rfl

theorem render_each_fails (parameters : List Parameter) :
    (renderEach renderer site owner parameters).fails =
      parameters.any fun parameter => (parameter.render renderer site owner).fails := by
  induction parameters with
  | nil => rfl
  | cons parameter parameters ih =>
      rw [renderEach, Rendering.fails_bind _ _ _ fun text =>
        Rendering.fails_bind _ _ false fun _ => rfl, ih, List.any_cons, Bool.or_false]

theorem render_list_fails (parameters : List Parameter) :
    (renderList renderer site owner parameters).fails =
      ((parameters.any fun parameter => parameter.type.any TypeRef.hasForeign) ||
        !parameters.all (isWritable (renderer.room site))) := by
  rw [renderList, Rendering.fails_bind _ _ false fun _ => rfl, Bool.or_false, render_each_fails,
    List.not_all_eq_any_not]
  simp only [render_fails, any_or_any]

end Parameter

theorem signature_fails {α : Type} (renderer : Renderer) (site : Site) (owner : Text)
    (function : Function) (write : Text → Text → α) :
    (do
      let parameters ← Parameter.renderList renderer site owner function.parameters
      let returns ← returnClause function.returnType
      return write parameters returns : Rendering α).fails =
        (function.hasForeign || !function.isWritable (renderer.room site)) := by
  rw [Rendering.fails_bind _ _ (function.returnType.any TypeRef.hasForeign),
    Parameter.render_list_fails, Function.hasForeign, Function.isWritable]
  · ac_rfl
  · intro parameters
    rw [Rendering.fails_bind _ _ false fun _ => rfl, return_clause_fails, Bool.or_false]

theorem Function.render_fails (renderer : Renderer) (function : Function) :
    (function.render renderer).fails =
      (function.hasForeign || !function.isWritable (renderer.room .default)) :=
  signature_fails renderer .default function.name function _

theorem Method.render_fails (renderer : Renderer) (owner : Text) (inInterface : Bool)
    (method : Method) :
    (method.render renderer owner inInterface).fails =
      (method.toFunction.hasForeign ||
        !method.toFunction.isWritable (renderer.room .methodDefault)) :=
  signature_fails renderer .methodDefault _ method.toFunction _

theorem Property.render_fails (settings : Settings) (property : Property) :
    (property.render settings).fails = property.type.any TypeRef.hasForeign := by
  rw [render, Rendering.fails_bind _ _ false fun _ => rfl, type_before_fails, Bool.or_false]

namespace ClassLike

theorem render_all_fails {α : Type} (render : α → Rendering Text) (items : List α) :
    (renderAll render items).fails = items.any fun item => (render item).fails := by
  induction items with
  | nil => rfl
  | cons item items ih =>
      rw [renderAll, Rendering.fails_bind _ _ _ fun text =>
        Rendering.fails_bind _ _ false fun _ => rfl, ih, List.any_cons, Bool.or_false]

theorem constant_line_fails (renderer : Renderer) (owner : Text) (constant : Constant) :
    (constantLine renderer owner constant).fails =
      !constant.value.isReplaceable (renderer.room .classConstant) := by
  rw [constantLine, Rendering.fails_bind _ _ false fun _ => rfl, ValueRef.render_fails,
    Bool.or_false, Option.all_some]

theorem render_fails (renderer : Renderer) (declared : ClassLike) :
    (declared.render renderer).fails = (declared.hasForeign || !declared.isWritable renderer) := by
  rw [render, Rendering.fails_bind _ _ _ fun constants => Rendering.fails_bind _ _ _ fun
    properties => Rendering.fails_bind _ _ false fun _ => rfl, render_all_fails, render_all_fails,
    render_all_fails]
  simp only [constant_line_fails, Property.render_fails, Method.render_fails, hasForeign, isWritable,
    List.not_all_eq_any_not, Bool.not_and, Bool.or_false, any_or_any]
  ac_rfl

end ClassLike

theorem any_false {α : Type} {holds : α → Bool} {items : List α}
    (each : ∀ item ∈ items, holds item = false) : items.any holds = false := by
  apply List.any_eq_false.2
  intro item among
  rw [each item among]
  exact Bool.false_ne_true

section

variable {isClass : Text → Prop}

theorem Conjunct.IsWellFormed.no_foreign {member : Conjunct}
    (wellFormed : member.IsWellFormed isClass) : member.isForeign = false := by
  cases member with
  | named name nullable => rfl
  | foreign value => exact absurd wellFormed id

theorem conjuncts_no_foreign {members : List Conjunct}
    (wellFormed : ∀ member ∈ members, member.IsWellFormed isClass) :
    members.any Conjunct.isForeign = false :=
  any_false fun member among => (wellFormed member among).no_foreign

theorem Alternative.IsWellFormed.no_foreign {member : Alternative}
    (wellFormed : member.IsWellFormed isClass) : member.hasForeign = false := by
  cases member with
  | single type => rfl
  | intersection members => exact conjuncts_no_foreign wellFormed.2
  | foreign value => exact absurd wellFormed id

theorem TypeRef.IsWellFormed.no_foreign {type : TypeRef} (wellFormed : type.IsWellFormed isClass) :
    type.hasForeign = false := by
  cases type with
  | single type => rfl
  | intersection members => exact conjuncts_no_foreign wellFormed.2
  | union members => exact any_false fun member among => (wellFormed.2 member among).no_foreign
  | foreign value => exact absurd wellFormed id

end

theorem HasTypes.no_foreign {type : Option TypeRef} (hasTypes : HasTypes type) :
    type.any TypeRef.hasForeign = false := by
  cases type with
  | none => rfl
  | some type => exact (hasTypes type rfl).no_foreign

theorem Function.IsWellFormed.no_foreign {function : Function} {isName : Text → Prop}
    (wellFormed : function.IsWellFormed isName) : function.hasForeign = false := by
  have parameters : (function.parameters.any fun parameter =>
      parameter.type.any TypeRef.hasForeign) = false :=
    any_false fun parameter among =>
      HasTypes.no_foreign (wellFormed.parameters parameter among).type
  rw [hasForeign, parameters, HasTypes.no_foreign wellFormed.returnType]
  rfl

theorem ClassLike.IsWellFormed.no_foreign {declared : ClassLike}
    (wellFormed : declared.IsWellFormed) : declared.hasForeign = false := by
  have properties : (declared.properties.any fun property =>
      property.type.any TypeRef.hasForeign) = false :=
    any_false fun property among =>
      HasTypes.no_foreign (wellFormed.properties property among).type
  have methods : (declared.ownMethods.any fun method => method.toFunction.hasForeign) = false :=
    any_false fun method among =>
      (wellFormed.methods method (List.mem_of_mem_filter among)).no_foreign
  rw [hasForeign, properties, methods]
  rfl

end Stubwright
