import Mathlib.Data.List.Forall2
import Stubwright.Proofs.Stub.Isolation

/-!
Extensions that differ only in the names of their constructs and in the classes that are named as
declaring a method. Names go into the reports and into the scopes of the fragments; where the short
names are the same, the texts of the fragments and the messages of the warnings are the same too.
-/

namespace Stubwright

namespace Rendering

variable {α β γ : Type}

/-- Renderings that come to the same, as far as a view of their results tells, and warn with the
same messages. What the warnings are about may differ. -/
structure Alike (view : α → γ) (left right : Rendering α) : Prop where
  outcome : left.outcome.map view = right.outcome.map view
  messages : left.warnings.map Diagnostic.message = right.warnings.map Diagnostic.message

theorem bind_warnings (first : Rendering α) (next : α → Rendering β) :
    (first >>= next).warnings = first.warnings ++
      match first.outcome with
      | .ok value => (next value).warnings
      | .error _ => [] := by
  change (continueWith next (first.run {})).2.diagnostics = _
  rw [first.run_eq]
  cases first.outcome with
  | error cause => exact (List.append_nil _).symm
  | ok value =>
      rw [continueWith, (next value).run_eq]
      rfl

namespace Alike

theorem refl (view : α → γ) (rendering : Rendering α) : Alike view rendering rendering :=
  ⟨rfl, rfl⟩

theorem pure {view : α → γ} {left right : α} (same : view left = view right) :
    Alike view (Pure.pure left) (Pure.pure right) :=
  ⟨congrArg Except.ok same, rfl⟩

theorem warn (construct other message : Text) :
    Alike id (Rendering.warn construct message) (Rendering.warn other message) :=
  ⟨rfl, rfl⟩

theorem bind {first otherFirst : Rendering α} {next otherNext : α → Rendering β} {view : β → γ}
    (before : Alike id first otherFirst)
    (after : ∀ value, Alike view (next value) (otherNext value)) :
    Alike view (first >>= next) (otherFirst >>= otherNext) := by
  have outcome : first.outcome = otherFirst.outcome := by
    have same := before.outcome
    rwa [Except.map_id, id, id] at same
  constructor
  · rw [bind_outcome, bind_outcome, ← outcome]
    cases first.outcome with
    | error cause => rfl
    | ok value => exact (after value).outcome
  · rw [bind_warnings, bind_warnings, ← outcome, List.map_append, List.map_append,
      before.messages]
    cases first.outcome with
    | error cause => rfl
    | ok value => exact congrArg _ (after value).messages

theorem fails {view : α → γ} {left right : Rendering α} (alike : Alike view left right) :
    left.fails = right.fails := by
  have same := alike.outcome
  unfold Rendering.fails
  cases first : left.outcome <;> cases second : right.outcome <;>
    simp_all [Except.map]

end Alike

end Rendering

open Rendering (Alike)

variable (renderer : Renderer)

theorem ValueRef.render_alike (site : Site) (construct other : Text) (value : Option ValueRef) :
    Alike id (ValueRef.render renderer site construct value)
      (ValueRef.render renderer site other value) := by
  have warned : ∀ message, Alike id
      (do Rendering.warn construct message; return renderer.placeholder)
      (do Rendering.warn other message; return renderer.placeholder) :=
    fun message => (Alike.warn construct other message).bind fun _ => .refl id _
  rcases value with _ | ⟨value | expression | value⟩
  · exact warned _
  · unfold render
    dsimp only
    cases Literal.ofValue (renderer.room site) value with
    | ok text => exact .refl id _
    | error cause =>
        dsimp only
        split
        · exact warned _
        · exact .refl id _
  · exact warned _
  · exact warned _

namespace Parameter

variable (site : Site) (owner other : Text)

theorem render_alike (parameter : Parameter) :
    Alike id (parameter.render renderer site owner) (parameter.render renderer site other) := by
  apply (Alike.refl id (typeBefore parameter.type)).bind
  intro type
  dsimp only
  split
  · exact (ValueRef.render_alike renderer site _ _ parameter.default).bind fun _ => .refl id _
  · exact .refl id _

theorem render_list_alike (parameters : List Parameter) :
    Alike id (renderList renderer site owner parameters)
      (renderList renderer site other parameters) := by
  have each : Alike id (renderEach renderer site owner parameters)
      (renderEach renderer site other parameters) := by
    induction parameters with
    | nil => exact .refl id _
    | cons parameter parameters ih =>
        exact (render_alike renderer site owner other parameter).bind fun _ =>
          ih.bind fun _ => .refl id _
  exact each.bind fun _ => .refl id _

end Parameter

/-- What the renaming of constructs and of declaring classes has to keep: the short names, and which
classes are the same. -/
structure KeepsNames (related : Text → Text → Prop) : Prop where
  short : ∀ {name other}, related name other →
    (QualifiedName.ofText name).short = (QualifiedName.ofText other).short
  same_class : ∀ {left right otherLeft otherRight}, related left otherLeft →
    related right otherRight → sameClassName otherLeft otherRight = sameClassName left right

section

variable (related : Text → Text → Prop)

inductive Constant.Renamed (constant : Constant) : Constant → Prop
  | mk {name : Text} (named : related constant.name name) :
      Renamed constant { constant with name }

inductive Function.Renamed (function : Function) : Function → Prop
  | mk {name : Text} (named : related function.name name) :
      Renamed function { function with name }

/-- A method keeps its name; only the class that declares it is called differently. -/
inductive Method.Renamed (method : Method) : Method → Prop
  | mk {declaringClass : Option Text}
      (named : Option.Rel related method.declaringClass declaringClass) :
      Renamed method { method with declaringClass }

inductive ClassLike.Renamed (declared : ClassLike) : ClassLike → Prop
  | mk {name : Text} {methods : List Method} (named : related declared.name name)
      (each : List.Forall₂ (Method.Renamed related) declared.methods methods) :
      Renamed declared { declared with name, methods }

/-- The same constructs one by one, under names that are related. -/
structure Extension.Renamed (extension other : Extension) : Prop where
  constants : List.Forall₂ (Constant.Renamed related) extension.constants other.constants
  functions : List.Forall₂ (Function.Renamed related) extension.functions other.functions
  classes : List.Forall₂ (ClassLike.Renamed related) extension.classes other.classes

end

section

variable {related : Text → Text → Prop} (keeps : KeepsNames related)
include keeps

theorem Constant.Renamed.alike {constant other : Constant}
    (renamed : Constant.Renamed related constant other) :
    Alike Fragment.text (constant.render renderer) (other.render renderer) := by
  obtain @⟨name, named⟩ := renamed
  have values : Alike id (constant.value? renderer)
      (Constant.value? renderer { constant with name }) := by
    unfold value?
    cases constant.value with
    | literal value => exact .refl id _
    | unresolved expression => exact ValueRef.render_alike renderer _ _ _ _
    | foreign value => exact ValueRef.render_alike renderer _ _ _ _
  apply values.bind
  intro value
  apply Alike.pure
  dsimp only
  rw [keeps.short named]

theorem Function.Renamed.alike {function other : Function}
    (renamed : Function.Renamed related function other) :
    Alike Fragment.text (function.render renderer) (other.render renderer) := by
  obtain @⟨name, named⟩ := renamed
  apply (Parameter.render_list_alike renderer _ _ _ function.parameters).bind
  intro parameters
  apply (Alike.refl id (returnClause function.returnType)).bind
  intro returns
  apply Alike.pure
  dsimp only
  rw [keeps.short named]

theorem Method.Renamed.declares {declared : ClassLike} {name : Text} {methods : List Method}
    (named : related declared.name name) {method other : Method}
    (renamed : Method.Renamed related method other) :
    ClassLike.declares { declared with name, methods } other = declared.declares method := by
  obtain @⟨declaringClass, declaring⟩ := renamed
  unfold ClassLike.declares
  generalize method.declaringClass = before at declaring
  cases declaring with
  | none => rfl
  | some known => exact keeps.same_class known named

omit keeps in
theorem Method.Renamed.render_eq (owner : Text) (inInterface : Bool) {method other : Method}
    (renamed : Method.Renamed related method other) :
    other.render renderer owner inInterface = method.render renderer owner inInterface := by
  obtain ⟨declaring⟩ := renamed
  rfl

/-- A method is inherited under the new names exactly if it was under the old ones. -/
theorem ClassLike.own_methods_renamed (declared : ClassLike) {name : Text} {methods : List Method}
    (named : related declared.name name)
    (each : List.Forall₂ (Method.Renamed related) declared.methods methods) :
    List.Forall₂ (Method.Renamed related) declared.ownMethods
      (ownMethods { declared with name, methods }) := by
  apply List.rel_filter _ each
  intro method other renamed
  dsimp only
  rw [renamed.declares keeps named]

omit keeps in
theorem ClassLike.render_all_alike {α : Type} (render other : α → Rendering Text)
    {members others : List α} (each : List.Forall₂ (fun member replaced =>
      Alike id (render member) (other replaced)) members others) :
    Alike id (renderAll render members) (renderAll other others) := by
  induction each with
  | nil => exact .refl id _
  | cons here _ ih => exact here.bind fun _ => ih.bind fun _ => .refl id _

theorem ClassLike.Renamed.alike {declared other : ClassLike}
    (renamed : ClassLike.Renamed related declared other) :
    Alike Fragment.text (declared.render renderer) (other.render renderer) := by
  obtain @⟨name, methods, named, each⟩ := renamed
  have methodsAlike : Alike id
      (renderAll (Method.render renderer (QualifiedName.ofText declared.name).short
        (declared.kind = .interface)) declared.ownMethods)
      (renderAll (Method.render renderer (QualifiedName.ofText name).short
        (declared.kind = .interface)) (ownMethods { declared with name, methods })) := by
    apply render_all_alike
    apply (own_methods_renamed keeps declared named each).imp
    intro method replaced method_renamed
    rw [keeps.short named, method_renamed.render_eq]
    exact .refl id _
  have constantsAlike : Alike id
      (renderAll (constantLine renderer (QualifiedName.ofText declared.name).short)
        declared.constants)
      (renderAll (constantLine renderer (QualifiedName.ofText name).short)
        declared.constants) := by
    rw [keeps.short named]
    exact .refl id _
  apply constantsAlike.bind
  intro constants
  apply (Alike.refl id (renderAll (Property.render renderer) declared.properties)).bind
  intro properties
  apply methodsAlike.bind
  intro members
  apply Alike.pure
  change _ ++ (modifiers declared ++ (QualifiedName.ofText declared.name).short ++
      relations declared) ++ _ ++ _ ++ _ ++ _ ++ _ ++ _ =
    _ ++ (modifiers declared ++ (QualifiedName.ofText name).short ++
      relations declared) ++ _ ++ _ ++ _ ++ _ ++ _ ++ _
  rw [keeps.short named]

end

namespace Stub

structure ConstructAlike (related : Text → Text → Prop)
    (left right : Text × Rendering Fragment) : Prop where
  named : related left.1 right.1
  alike : Alike Fragment.text left.2 right.2

theorem constructs_alike {related : Text → Text → Prop} (keeps : KeepsNames related)
    {extension other : Extension} (renamed : extension.Renamed related other) :
    List.Forall₂ (ConstructAlike related) (constructs renderer extension)
      (constructs renderer other) := by
  refine List.rel_append (List.rel_append ?_ ?_) ?_
  · apply List.rel_map _ renamed.constants
    intro constant replaced here
    have alike := here.alike renderer keeps
    cases here with
    | mk named => exact ⟨named, alike⟩
  · apply List.rel_map _ renamed.functions
    intro function replaced here
    have alike := here.alike renderer keeps
    cases here with
    | mk named => exact ⟨named, alike⟩
  · apply List.rel_map _ renamed.classes
    intro declared replaced here
    have alike := here.alike renderer keeps
    cases here with
    | mk named each => exact ⟨named, alike⟩

def saying (diagnostic : Diagnostic) : Severity × Text := (diagnostic.severity, diagnostic.message)

section

variable {related : Text → Text → Prop} {left right : List (Text × Rendering Fragment)}
  (each : List.Forall₂ (ConstructAlike related) left right)
include each

omit each in
theorem saying_of_warnings (rendering : Rendering Fragment) :
    rendering.warnings.map saying =
      (rendering.warnings.map Diagnostic.message).map fun message => (.warning, message) := by
  rw [List.map_map]
  apply List.map_congr_left
  intro diagnostic member
  have warning := rendering.only_warns diagnostic member
  rw [saying, warning]
  rfl

omit each in
theorem ConstructAlike.report {construct other : Text × Rendering Fragment}
    (alike : ConstructAlike related construct other) :
    (report construct).map saying = (Stub.report other).map saying := by
  have outcome := alike.alike.outcome
  unfold Stub.report
  cases first : construct.2.outcome <;> cases second : other.2.outcome <;>
    rw [first, second] at outcome
  · rw [Except.error.inj outcome]
    rfl
  · cases outcome
  · cases outcome
  · dsimp only
    rw [saying_of_warnings, saying_of_warnings, alike.alike.messages]

theorem reports_alike :
    (left.flatMap report).map saying = (right.flatMap report).map saying := by
  induction each with
  | nil => rfl
  | cons here _ ih =>
      rw [List.flatMap_cons, List.flatMap_cons, List.map_append, List.map_append, here.report, ih]

theorem fails_alike :
    (left.map fun construct => construct.2.fails) =
      right.map fun construct => construct.2.fails := by
  induction each with
  | nil => rfl
  | cons here _ ih => rw [List.map_cons, List.map_cons, here.alike.fails, ih]

theorem fragment_texts_alike :
    (left.filterMap fragment?).map Fragment.text =
      (right.filterMap fragment?).map Fragment.text := by
  induction each with
  | nil => rfl
  | @cons construct other _ _ here _ ih =>
      have outcome := here.alike.outcome
      have fragments : (fragment? construct).map Fragment.text =
          (fragment? other).map Fragment.text := by
        unfold fragment?
        cases first : construct.2.outcome <;> cases second : other.2.outcome <;>
          rw [first, second] at outcome
        · rfl
        · cases outcome
        · cases outcome
        · exact congrArg some (Except.ok.inj outcome)
      rw [List.filterMap_cons, List.filterMap_cons]
      cases first : fragment? construct <;> cases second : fragment? other <;>
        rw [first, second] at fragments
      · exact ih
      · cases fragments
      · cases fragments
      · rw [List.map_cons, List.map_cons, Option.some.inj fragments, ih]

end

end Stub

end Stubwright
