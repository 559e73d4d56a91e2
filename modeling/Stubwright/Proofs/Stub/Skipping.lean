import Stubwright.Proofs.Literal.Accepted
import Stubwright.Proofs.Stub.Placeholder
import Stubwright.Proofs.Stub.Writable

/-!
Which constructs a stub leaves out. Only the types and the literals of a construct decide: a
function or a class is left out where a value that is no type stands in one of its types, or where a
literal in it cannot be written although it is not for the want of a form. Literals of that kind are
numbers that are too long, collections that stand in themselves, and what there is no room for; a
constant also needs a form.
-/

namespace Stubwright

/-- Whether a value fails for another reason than that it has no written form. -/
def Literal.isStuck (room : Room) (value : Value) : Bool :=
  match ofValue room value with
  | .ok _ => false
  | .error cause => !cause.isFormless

def ValueRef.literal? : ValueRef → Option Value
  | .literal value => some value
  | _ => none

def Parameter.literal? (parameter : Parameter) : Option Value :=
  if parameter.takesDefault then parameter.default.bind ValueRef.literal? else none

namespace Function

def types (function : Function) : List TypeRef :=
  function.parameters.filterMap Parameter.type ++ function.returnType.toList

def literals (function : Function) : List Value := function.parameters.filterMap Parameter.literal?

end Function

namespace ClassLike

/-- The types of all properties, and those of the methods that are not inherited. -/
def types (declared : ClassLike) : List TypeRef :=
  declared.properties.filterMap Property.type ++
    declared.ownMethods.flatMap fun method => method.toFunction.types

def constantLiterals (declared : ClassLike) : List Value :=
  declared.constants.filterMap fun constant => constant.value.literal?

def defaultLiterals (declared : ClassLike) : List Value :=
  declared.ownMethods.flatMap fun method => method.toFunction.literals

/-- Whether a literal of a class is stuck at its place. -/
def isStuck (renderer : Renderer) (declared : ClassLike) : Bool :=
  declared.constantLiterals.any (Literal.isStuck (renderer.room .classConstant)) ||
    declared.defaultLiterals.any (Literal.isStuck (renderer.room .methodDefault))

end ClassLike

section

variable {room : Literal.Room}

theorem Literal.not_stuck_of_bounded {value : Value} (bounded : isBounded value = true)
    (held : hasRoom room [] value = true) : isStuck room value = false := by
  have lacksForm := value_lacks_form [] value bounded held
  unfold isStuck ofValue
  cases outcome : ofValueWithin room [] value with
  | ok text => rfl
  | error cause => exact congrArg not (lacksForm cause outcome)

theorem Literal.stuck_of_long {number : Nat} (long : 10 ^ Decimal.mostDigits ≤ number) :
    isStuck room (.int number) = true := by
  rw [isStuck, ofValue, ofValueWithin, int_of_long long, Room.allow]
  cases room.holds [.value (.int number)] <;> rfl

theorem ValueRef.stuck_eq (value : ValueRef) :
    (!value.isReplaceable room) = value.literal?.any (Literal.isStuck room) := by
  cases value with
  | literal value =>
      rw [isReplaceable, literal?, Option.any_some, Literal.isStuck]
      cases Literal.ofValue room value <;> rfl
  | unresolved expression => rfl
  | foreign value => rfl

theorem Parameter.stuck_eq (parameter : Parameter) :
    (!parameter.isWritable room) = parameter.literal?.any (Literal.isStuck room) := by
  unfold isWritable literal?
  cases parameter.takesDefault with
  | false => rfl
  | true =>
      cases parameter.default with
      | none => rfl
      | some value => exact value.stuck_eq

theorem any_parts {α β : Type} (part : α → Option β) (holds : β → Bool) (items : List α) :
    (items.any fun item => (part item).any holds) = (items.filterMap part).any holds := by
  rw [List.any_filterMap]
  rfl

theorem Function.foreign_eq (function : Function) :
    function.hasForeign = function.types.any TypeRef.hasForeign := by
  rw [hasForeign, types, List.any_append, any_parts]
  cases function.returnType <;> simp

theorem Function.stuck_eq (function : Function) :
    (!function.isWritable room) = function.literals.any (Literal.isStuck room) := by
  rw [isWritable, literals, List.not_all_eq_any_not, ← any_parts]
  simp only [Parameter.stuck_eq]

theorem ClassLike.foreign_eq (declared : ClassLike) :
    declared.hasForeign = declared.types.any TypeRef.hasForeign := by
  rw [hasForeign, types, List.any_append, any_parts, List.any_flatMap]
  simp only [Function.foreign_eq]

theorem ClassLike.stuck_eq (renderer : Renderer) (declared : ClassLike) :
    (!declared.isWritable renderer) = declared.isStuck renderer := by
  rw [isWritable, isStuck, constantLiterals, defaultLiterals, ← any_parts, List.any_flatMap,
    Bool.not_and, List.not_all_eq_any_not, List.not_all_eq_any_not]
  simp only [ValueRef.stuck_eq, Function.stuck_eq]

theorem Constant.rejected_eq (constant : Constant) :
    (!constant.isWritable room) =
      constant.value.literal?.any fun value => !(Literal.ofValue room value).isOk := by
  unfold isWritable
  cases constant.value <;> rfl

end

namespace Stub

theorem error_names (constructs : List (Text × Rendering Fragment)) :
    ((constructs.flatMap report).filter isError).map Diagnostic.construct = skipped constructs := by
  induction constructs with
  | nil => rfl
  | cons construct constructs ih =>
      unfold skipped at ih ⊢
      rw [List.flatMap_cons, List.filter_append, List.map_append, ih, List.filter_cons, report,
        Rendering.fails]
      cases construct.2.outcome with
      | error cause => rfl
      | ok fragment =>
          have none : construct.2.warnings.filter isError = [] := by
            apply List.filter_eq_nil_iff.2
            intro diagnostic member
            simp [isError, construct.2.only_warns diagnostic member]
          dsimp only
          rw [none]
          rfl

theorem skipped_length (constructs : List (Text × Rendering Fragment)) :
    (skipped constructs).length = (constructs.flatMap report).countP isError := by
  rw [← error_names, List.length_map, List.countP_eq_length_filter]

/-- An error names each construct that is left out, and nothing else gives an error. A constant is
left out if its value is a literal that is rejected. A function or a class is left out if a value
that is no type stands in one of its types, or one of its literals is stuck, which needs a number
that is too long, a value that is a part of itself or a lack of room. What is inherited never
counts, and neither do values that are no literals. -/
theorem of_extension_skips (renderer : Renderer) (earlier : List Diagnostic)
    (extension : Extension) :
    (((ofExtension renderer earlier extension).diagnostics.drop earlier.length).filter isError).map
        Diagnostic.construct = skipped (constructs renderer extension) ∧
      (ofExtension renderer earlier extension).partition.size +
          (skipped (constructs renderer extension)).length =
        (constructs renderer extension).length ∧
      (∀ constant : Constant, (constant.render renderer).fails =
        constant.value.literal?.any fun value =>
          !(Literal.ofValue (renderer.room .constant) value).isOk) ∧
      (∀ function : Function, (function.render renderer).fails =
        (function.types.any TypeRef.hasForeign ||
          function.literals.any (Literal.isStuck (renderer.room .default)))) ∧
      (∀ declared : ClassLike, (declared.render renderer).fails =
        (declared.types.any TypeRef.hasForeign || declared.isStuck renderer)) ∧
      ∀ (room : Literal.Room) (value : Value), Literal.isBounded value = true →
        Literal.hasRoom room [] value = true → Literal.isStuck room value = false := by
  refine ⟨?_, ?_, ?_, ?_, ?_, fun room value => Literal.not_stuck_of_bounded⟩
  · rw [of_extension_diagnostics, List.drop_left, error_names]
  · have size := Partition.size_foldl_add ((constructs renderer extension).filterMap fragment?) {}
    change (Partition.ofFragments _).size = 0 + _ at size
    rw [of_extension_partition, size, Nat.zero_add, skipped_length, fragments_and_failures]
  · intro constant
    rw [constant.render_fails, constant.rejected_eq]
  · intro function
    rw [function.render_fails, function.foreign_eq, function.stuck_eq]
  · intro declared
    rw [declared.render_fails, declared.foreign_eq, declared.stuck_eq]

/-- An extension with values that are no types and with values that have no form, in some places
that count and in some that do not. -/
def raggedExtension : Extension where
  constants := [⟨"FINE", .literal (.int 1)⟩, ⟨"LOST", .literal (.set [])⟩,
    ⟨"LATE", .unresolved none⟩]
  functions := [{
    name := "torn"
    returnType := some (.union [.single (.builtin "int" false),
      .intersection [.named "A" false, .foreign (.str "B")]]) }, {
    name := "N\\kept"
    parameters := [
      { name := "known", optional := true, default := some (.literal (.list [.set []])) },
      { name := "rest", optional := true, variadic := true, default := some (.foreign .alien) }] }]
  classes := [{
    name := "N\\Kept"
    constants := [⟨"SET", .literal (.set [])⟩, ⟨"ONE", .literal (.int 1)⟩]
    methods := [
      { name := "old", declaringClass := some "Old", returnType := some (.foreign .alien) },
      { name := "run", parameters := [{ name := "times", optional := true }] }] }, {
    name := "Torn"
    properties := [{ name := "shape", type := some (.foreign (.int 1)) }] }]

theorem of_extension_skips_ragged :
    let stub := ofExtension .plain [] raggedExtension
    let room := Literal.Room.ofFrames 4
    (stub.diagnostics.filter isError).map Diagnostic.construct = ["LOST", "torn", "Torn"] ∧
      stub.partition.size = 4 ∧
      Literal.isBounded (.list [.set []]) = true ∧
      Literal.hasRoom room [] (.list [.set []]) = true ∧
      Literal.isStuck room (.list [.set []]) = false := by
  intro stub room
  obtain ⟨names, count, -, -, -, unstuck⟩ := of_extension_skips .plain [] raggedExtension
  have left : skipped (constructs .plain raggedExtension) = ["LOST", "torn", "Torn"] := by
    decide +kernel
  rw [left] at names count
  exact ⟨names, Nat.add_right_cancel count, rfl, rfl, unstuck room _ rfl rfl⟩

/-- A default with too many digits takes its function with it, and there is no type in the function
that could be at fault. -/
theorem long_default_is_skipped :
    let function : Function := {
      name := "f"
      parameters := [{
        name := "p", optional := true
        default := some (.literal (.int (10 ^ Decimal.mostDigits : Nat))) }] }
    let stub := ofExtension .plain [] { functions := [function] }
    function.types = [] ∧ (stub.diagnostics.filter isError).map Diagnostic.construct = ["f"] := by
  intro function stub
  have fails : (function.render .plain).fails = true := by
    rw [function.render_fails, function.stuck_eq]
    change (_ || (Literal.isStuck _ _ || false)) = true
    rw [Literal.stuck_of_long (Nat.le_refl _)]
    simp
  refine ⟨rfl, ?_⟩
  rw [of_extension_diagnostics, List.nil_append, error_names]
  change (List.filter _ [(function.name, function.render _)]).map Prod.fst = _
  rw [List.filter_cons, fails]
  rfl

end Stub

end Stubwright
