import Stubwright.Proofs.Stub.Renaming
import Stubwright.Proofs.Stub.Skipping

/-!
The warnings of a stub. A value is degraded if the placeholder stands for it, and each degraded
value of a construct that is rendered gives one warning, in the order of the values. Whether the
default of a parameter is degraded can be told without rendering it.
-/

namespace Stubwright

namespace Rendering

variable {α β : Type}

def Warns (rendering : Rendering α) (said : List Diagnostic) : Prop :=
  ∀ value, rendering.outcome = .ok value → rendering.warnings = said

namespace Warns

theorem pure (value : α) : (Pure.pure value : Rendering α).Warns [] := fun _ _ => rfl

theorem lift (outcome : Except RenderError α) : (Rendering.lift outcome).Warns [] := fun _ _ => rfl

theorem warn (construct message : Text) :
    (Rendering.warn construct message).Warns [⟨.warning, construct, message⟩] := fun _ _ => rfl

theorem bind {first : Rendering α} {next : α → Rendering β} {before after : List Diagnostic}
    (here : first.Warns before) (later : ∀ value, (next value).Warns after) :
    (first >>= next).Warns (before ++ after) := by
  intro result rendered
  rw [bind_outcome] at rendered
  obtain ⟨value, reached, rest⟩ := bind_ok_iff.1 rendered
  rw [bind_warnings, reached, here value reached]
  exact congrArg (before ++ ·) (later value result rest)

theorem map {first : Rendering α} {said : List Diagnostic} (here : first.Warns said)
    (write : α → β) : (do return write (← first) : Rendering β).Warns said := by
  have written := here.bind fun value => pure (write value)
  rwa [List.append_nil] at written

end Warns

end Rendering

open Rendering (Warns)

def unresolvedMessage : Text := "value could not be resolved, using placeholder"

def ValueRef.degradation? (room : Literal.Room) : Option ValueRef → Option Text
  | some (.literal value) =>
      match Literal.ofValue room value with
      | .ok _ => none
      | .error cause => some (cause.message ++ ", using placeholder")
  | _ => some unresolvedMessage

def Parameter.degradation? (room : Literal.Room) (parameter : Parameter) : Option Text :=
  if parameter.takesDefault then ValueRef.degradation? room parameter.default else none

def warningOf (construct : Text) (message : Option Text) : List Diagnostic :=
  message.toList.map fun message => ⟨.warning, construct, message⟩

/-- A literal of a constant is written or the constant fails. -/
def Constant.degradations (constant : Constant) : List Diagnostic :=
  match constant.value with
  | .literal _ => []
  | _ => warningOf constant.name (some unresolvedMessage)

def Parameter.degradations (room : Literal.Room) (owner : Text) (parameters : List Parameter) :
    List Diagnostic :=
  parameters.flatMap fun parameter =>
    warningOf (owner ++ "($" ++ parameter.name ++ ")") (parameter.degradation? room)

def Function.degradations (renderer : Renderer) (function : Function) : List Diagnostic :=
  Parameter.degradations (renderer.room .default) function.name function.parameters

/-- Members are named after the short name of their class, and constants come first. -/
def ClassLike.degradations (renderer : Renderer) (declared : ClassLike) : List Diagnostic :=
  let owner := (QualifiedName.ofText declared.name).short ++ "::"
  (declared.constants.flatMap fun constant =>
      warningOf (owner ++ constant.name)
        (ValueRef.degradation? (renderer.room .classConstant) (some constant.value))) ++
    declared.ownMethods.flatMap fun method =>
      Parameter.degradations (renderer.room .methodDefault) (owner ++ method.name)
        method.parameters

def Extension.degradations (renderer : Renderer) (extension : Extension) : List Diagnostic :=
  extension.constants.flatMap Constant.degradations ++
    extension.functions.flatMap (Function.degradations renderer) ++
    extension.classes.flatMap (ClassLike.degradations renderer)

section

variable (renderer : Renderer)

theorem ValueRef.render_warns (site : Site) (construct : Text) (value : Option ValueRef) :
    (ValueRef.render renderer site construct value).Warns
      (warningOf construct (degradation? (renderer.room site) value)) := by
  rcases value with _ | ⟨value | expression | value⟩
  · exact (Warns.warn construct _).map _
  · unfold render degradation?
    dsimp only
    cases Literal.ofValue (renderer.room site) value with
    | ok text => exact .pure text
    | error cause =>
        dsimp only
        split
        · exact (Warns.warn construct _).map _
        · rintro text ⟨⟩
  · exact (Warns.warn construct _).map _
  · exact (Warns.warn construct _).map _

theorem type_before_warns (type : Option TypeRef) : (typeBefore type).Warns [] := by
  cases type with
  | none => exact .pure []
  | some type => exact (Warns.lift type.render).map _

theorem return_clause_warns (type : Option TypeRef) : (returnClause type).Warns [] := by
  cases type with
  | none => exact .pure []
  | some type => exact (Warns.lift type.render).map _

namespace Parameter

theorem render_warns (site : Site) (owner : Text) (parameter : Parameter) :
    (parameter.render renderer site owner).Warns
      (warningOf (owner ++ "($" ++ parameter.name ++ ")")
        (parameter.degradation? (renderer.room site))) := by
  apply (type_before_warns parameter.type).bind
  intro type
  unfold degradation?
  dsimp only
  split
  · exact (ValueRef.render_warns renderer site _ parameter.default).map _
  · exact .pure _

theorem render_list_warns (site : Site) (owner : Text) (parameters : List Parameter) :
    (renderList renderer site owner parameters).Warns
      (degradations (renderer.room site) owner parameters) := by
  have each : (renderEach renderer site owner parameters).Warns
      (degradations (renderer.room site) owner parameters) := by
    induction parameters with
    | nil => exact .pure []
    | cons parameter parameters ih =>
        exact (parameter.render_warns renderer site owner).bind fun text => ih.map _
  exact each.map _

end Parameter

theorem signature_warns {α : Type} (site : Site) (owner : Text) (function : Function)
    (write : Text → Text → α) :
    (do
      let parameters ← Parameter.renderList renderer site owner function.parameters
      let returns ← returnClause function.returnType
      return write parameters returns : Rendering α).Warns
        (Parameter.degradations (renderer.room site) owner function.parameters) := by
  have parts := (Parameter.render_list_warns renderer site owner function.parameters).bind
    fun parameters => (return_clause_warns function.returnType).map (write parameters)
  rwa [List.append_nil] at parts

theorem Constant.render_warns (constant : Constant) :
    (constant.render renderer).Warns constant.degradations := by
  have value : (constant.value? renderer).Warns constant.degradations := by
    unfold value? degradations
    cases constant.value with
    | literal value => exact .lift _
    | unresolved expression => exact ValueRef.render_warns renderer _ constant.name _
    | foreign value => exact ValueRef.render_warns renderer _ constant.name _
  exact value.map _

theorem Function.render_warns (function : Function) :
    (function.render renderer).Warns (function.degradations renderer) :=
  signature_warns renderer _ function.name function _

namespace ClassLike

theorem render_all_warns {α : Type} {render : α → Rendering Text} {said : α → List Diagnostic}
    (each : ∀ item, (render item).Warns (said item)) (items : List α) :
    (renderAll render items).Warns (items.flatMap said) := by
  induction items with
  | nil => exact .pure []
  | cons item items ih => exact (each item).bind fun text => ih.map _

theorem constant_line_warns (owner : Text) (constant : Constant) :
    (constantLine renderer owner constant).Warns
      (warningOf (owner ++ "::" ++ constant.name)
        (ValueRef.degradation? (renderer.room .classConstant) (some constant.value))) :=
  (ValueRef.render_warns renderer _ _ (some constant.value)).map _

theorem property_warns (property : Property) : (property.render renderer).Warns [] :=
  (type_before_warns property.type).map _

theorem method_warns (owner : Text) (inInterface : Bool) (method : Method) :
    (method.render renderer owner inInterface).Warns
      (Parameter.degradations (renderer.room .methodDefault) (owner ++ "::" ++ method.name)
        method.parameters) :=
  signature_warns renderer _ _ method.toFunction _

theorem render_warns (declared : ClassLike) :
    (declared.render renderer).Warns (declared.degradations renderer) := by
  have constants := render_all_warns
    (constant_line_warns renderer (QualifiedName.ofText declared.name).short) declared.constants
  have properties := render_all_warns (property_warns renderer) declared.properties
  have methods := render_all_warns (method_warns renderer (QualifiedName.ofText declared.name).short
    (declared.kind = .interface)) declared.ownMethods
  have silent : declared.properties.flatMap (fun _ => ([] : List Diagnostic)) = [] := by simp
  rw [silent] at properties
  exact constants.bind fun _ => properties.bind fun _ => methods.map _

end ClassLike

end

/-- The two ways to tell that a default is degraded: what a parameter is known to hold, and what
becomes of its value when it is rendered. -/
theorem Parameter.degraded_iff (room : Literal.Room) (parameter : Parameter) :
    (parameter.degradation? room).isSome = true ↔
      parameter.hasUnknownDefault = true ∨
        (parameter.optional = true ∧ parameter.variadic = false ∧
          ∃ value cause, parameter.default = some (.literal value) ∧
            Literal.ofValue room value = .error cause) := by
  unfold degradation? takesDefault hasUnknownDefault
  cases parameter.optional with
  | false => simp
  | true =>
      cases parameter.variadic with
      | true => simp
      | false =>
          rcases parameter.default with _ | ⟨value | expression | value⟩
          · simp [ValueRef.degradation?]
          · unfold ValueRef.degradation?
            cases outcome : Literal.ofValue room value <;> simp [outcome]
          · simp [ValueRef.degradation?]
          · simp [ValueRef.degradation?]

/-- No reason for which a literal is rejected reads like the message on a value without one. -/
theorem rejection_ne_unresolved (cause : RenderError) (rest : Text) :
    cause.message ++ rest ≠ unresolvedMessage := by
  intro same
  cases cause <;> exact absurd (List.cons.inj same).1 (by decide)

theorem ValueRef.degradation_message (room : Literal.Room) (value : Option ValueRef)
    (message : Text) (degraded : degradation? room value = some message) :
    (message = unresolvedMessage ↔ ∀ content, value ≠ some (.literal content)) ∧
      ∀ content, value = some (.literal content) →
        ∃ cause, Literal.ofValue room content = .error cause ∧
          message = cause.message ++ ", using placeholder" := by
  rcases value with _ | ⟨content | expression | content⟩
  · simpa using (Option.some.inj degraded).symm
  · rw [degradation?] at degraded
    cases outcome : Literal.ofValue room content with
    | ok text =>
        rw [outcome] at degraded
        cases degraded
    | error cause =>
        rw [outcome] at degraded
        cases degraded
        constructor
        · apply iff_of_false (rejection_ne_unresolved cause _)
          intro other
          exact other content rfl
        · rintro _ ⟨⟩
          exact ⟨cause, outcome, rfl⟩
  · simpa using (Option.some.inj degraded).symm
  · simpa using (Option.some.inj degraded).symm

/-- A parameter that takes no default ends with its name. -/
theorem Parameter.render_required (renderer : Renderer) (site : Site) (owner : Text)
    (parameter : Parameter) (required : parameter.takesDefault = false) :
    parameter.render renderer site owner =
      (do return (← typeBefore parameter.type) ++ parameter.passing) := by
  apply congrArg (typeBefore parameter.type >>= ·)
  funext type
  rw [required, if_neg Bool.false_ne_true]
  simp [passing, Text.ofString, Text.ofChars]

namespace Stub

theorem report_warnings {construct : Text × Rendering Fragment} {said : List Diagnostic}
    (warns : construct.2.Warns said) :
    (report construct).filter isWarning = if construct.2.fails then [] else said := by
  unfold report Rendering.fails
  cases outcome : construct.2.outcome with
  | error cause => rfl
  | ok fragment =>
      dsimp only
      rw [← warns fragment outcome]
      apply List.filter_eq_self.2
      intro diagnostic member
      exact decide_eq_true (construct.2.only_warns diagnostic member)

theorem reported_warnings {α : Type} {name : α → Text} {render : α → Rendering Fragment}
    {said : α → List Diagnostic} (warns : ∀ item, (render item).Warns (said item))
    (items : List α) :
    ((items.map fun item => (name item, render item)).flatMap report).filter isWarning =
      (items.filter fun item => !(render item).fails).flatMap said := by
  induction items with
  | nil => rfl
  | cons item items ih =>
      have here : (report (name item, render item)).filter isWarning = _ :=
        report_warnings (warns item)
      rw [List.map_cons, List.flatMap_cons, List.filter_append, ih, here, List.filter_cons]
      dsimp only
      cases (render item).fails <;> rfl

/-- Each construct that is rendered warns of its degraded values, one after the other, and of
nothing else: a constant of its own if it is no literal, a function of its parameters, and a class
of its constants and then of the parameters of its own methods. A parameter is degraded if its
default is unknown or is rejected, the message tells which of them it is, and without a default to
take there is nothing to degrade, whatever is held for it. -/
theorem of_extension_warns (renderer : Renderer) (earlier : List Diagnostic)
    (extension : Extension) :
    ((ofExtension renderer earlier extension).diagnostics.drop earlier.length).filter isWarning =
        (extension.renderable renderer).degradations renderer ∧
      (∀ constant : Constant, (constant.render renderer).Warns constant.degradations) ∧
      (∀ function : Function, (function.render renderer).Warns (function.degradations renderer)) ∧
      (∀ declared : ClassLike, (declared.render renderer).Warns (declared.degradations renderer)) ∧
      (∀ room, ∀ parameter : Parameter, (parameter.degradation? room).isSome = true ↔
        parameter.hasUnknownDefault = true ∨
          (parameter.optional = true ∧ parameter.variadic = false ∧
            ∃ value cause, parameter.default = some (.literal value) ∧
              Literal.ofValue room value = .error cause)) ∧
      (∀ room value message, ValueRef.degradation? room value = some message →
        (message = unresolvedMessage ↔ ∀ content, value ≠ some (.literal content)) ∧
          ∀ content, value = some (.literal content) →
            ∃ cause, Literal.ofValue room content = .error cause ∧
              message = cause.message ++ ", using placeholder") ∧
      ∀ parameter : Parameter, parameter.optional = false ∨ parameter.variadic = true →
        (∀ room, parameter.degradation? room = none) ∧
          ∀ site owner, parameter.render renderer site owner =
          (do return (← typeBefore parameter.type) ++ parameter.passing) := by
  refine ⟨?_, fun constant => constant.render_warns renderer,
    fun function => function.render_warns renderer, fun declared => declared.render_warns renderer,
    Parameter.degraded_iff, ValueRef.degradation_message, ?_⟩
  · rw [of_extension_diagnostics, List.drop_left, constructs, List.flatMap_append,
      List.flatMap_append, List.filter_append, List.filter_append,
      reported_warnings fun constant => constant.render_warns renderer,
      reported_warnings fun function => function.render_warns renderer,
      reported_warnings fun declared => declared.render_warns renderer]
    rfl
  · intro parameter without
    have required : parameter.takesDefault = false := by
      rcases without with needed | variadic
      · rw [Parameter.takesDefault, needed, Bool.false_and]
      · rw [Parameter.takesDefault, variadic, Bool.not_true, Bool.and_false]
    constructor
    · intro room
      rw [Parameter.degradation?, required]
      rfl
    · intro site owner
      exact parameter.render_required renderer site owner required

theorem of_extension_warns_ragged :
    let stub := ofExtension .plain [] raggedExtension
    let rejected : Text := "Cannot render set value as a PHP literal, using placeholder"
    let variadic : Parameter :=
      { name := "rest", optional := true, variadic := true, default := some (.foreign .alien) }
    stub.diagnostics.filter isWarning = [
        ⟨.warning, "LATE", unresolvedMessage⟩, ⟨.warning, "N\\kept($known)", rejected⟩,
        ⟨.warning, "Kept::SET", rejected⟩, ⟨.warning, "Kept::run($times)", unresolvedMessage⟩] ∧
      variadic.variadic = true ∧ ∀ room, variadic.degradation? room = none := by
  intro stub rejected variadic
  obtain ⟨warned, -, -, -, -, -, without⟩ :=
    of_extension_warns .plain [] raggedExtension
  refine ⟨warned.trans ?_, rfl, (without variadic (.inr rfl)).1⟩
  decide +kernel

end Stub

end Stubwright
