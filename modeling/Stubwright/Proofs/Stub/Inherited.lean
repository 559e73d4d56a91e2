import Mathlib.Data.List.Forall2
import Stubwright.Proofs.Script.Declaration

/-!
Methods that a class inherits. They are listed with the class and declared by another, and whatever
stands in them has no part in what is written or reported for the class. The methods that are left
are written one after the other, each on lines of its own, with the words and the ending that belong
to its kind.
-/

namespace Stubwright

namespace Method

/-- The words in front of a method. The methods of an interface are abstract without saying so. -/
def words (inInterface : Bool) (method : Method) : List Text :=
  [method.visibility.keyword] ++
    (if method.isAbstract && !inInterface then [Text.ofString "abstract"] else []) ++
    (if method.isStatic then [Text.ofString "static"] else []) ++
    (if method.isFinal then [Text.ofString "final"] else [])

theorem modifiers_eq (inInterface : Bool) (method : Method) :
    method.modifiers inInterface =
      (method.words inInterface).flatMap fun word => word ++ Text.ofString " " := by
  unfold modifiers words Text.when
  simp only [List.flatMap_append, List.flatMap_singleton]
  cases method.isAbstract && !inInterface <;> cases method.isStatic <;> cases method.isFinal <;> rfl

theorem abstract_mem_words (inInterface : Bool) (method : Method) :
    Text.ofString "abstract" ∈ method.words inInterface ↔
      method.isAbstract = true ∧ inInterface = false := by
  have visible : Text.ofString "abstract" ≠ method.visibility.keyword := by
    cases method.visibility <;> decide
  have static : Text.ofString "abstract" ∉
      if method.isStatic then [Text.ofString "static"] else [] := by
    cases method.isStatic <;> decide
  have final : Text.ofString "abstract" ∉
      if method.isFinal then [Text.ofString "final"] else [] := by
    cases method.isFinal <;> decide
  unfold words
  rw [List.mem_append, List.mem_append, List.mem_append, or_iff_left final, or_iff_left static,
    List.mem_singleton, or_iff_right visible]
  cases method.isAbstract <;> cases inInterface <;> simp

/-- Whether a method stands without a body. -/
def IsBodiless (inInterface : Bool) (method : Method) : Prop :=
  method.isAbstract = true ∨ inInterface = true

/-- No line ends both ways, since one ending is not the end of the other. -/
theorem endings_apart {line : Text} (closed : Text.ofString ";\n" <:+ line)
    (bodied : Text.ofString " \x7b\x7d\n" <:+ line) : False := by
  have shorter := List.suffix_of_suffix_length_le closed bodied (by decide)
  exact absurd shorter (by decide)

theorem ending_iff (inInterface : Bool) (method : Method) (text : Text) :
    (Text.ofString ";\n" <:+ text ++ method.ending inInterface ↔ method.IsBodiless inInterface) ∧
      (Text.ofString " \x7b\x7d\n" <:+ text ++ method.ending inInterface ↔
        ¬method.IsBodiless inInterface) := by
  have bodiless_iff : (method.isAbstract || inInterface) = true ↔ method.IsBodiless inInterface :=
    Bool.or_eq_true_iff
  unfold ending
  by_cases bodiless : method.IsBodiless inInterface
  · rw [if_pos (bodiless_iff.2 bodiless)]
    have closed : Text.ofString ";\n" <:+ text ++ Text.ofString ";\n" := List.suffix_append _ _
    constructor
    · exact iff_of_true closed bodiless
    · exact iff_of_false (endings_apart closed) (not_not_intro bodiless)
  · rw [if_neg (mt bodiless_iff.1 bodiless)]
    have bodied : Text.ofString " \x7b\x7d\n" <:+ text ++ (emptyBody ++ Text.ofString "\n") :=
      List.suffix_append _ _
    constructor
    · exact iff_of_false (fun closed => endings_apart closed bodied) bodiless
    · exact iff_of_true bodied bodiless

/-- A line that declares a method: the words that belong to it, and its signature. Its body is
empty, or there is none. -/
structure IsLine (settings : Settings) (inInterface : Bool) (method : Method) (line : Text) :
    Prop where
  worded : ∃ signature, line = settings.indent ++ docLines method.docComment settings.indent ++
    ((method.words inInterface).flatMap fun word => word ++ Text.ofString " ") ++ "function " ++
    method.name ++ " (" ++ signature
  abstract_iff : Text.ofString "abstract" ∈ method.words inInterface ↔
    method.isAbstract = true ∧ inInterface = false
  closed_iff : Text.ofString ";\n" <:+ line ↔ method.IsBodiless inInterface
  bodied_iff : Text.ofString " \x7b\x7d\n" <:+ line ↔ ¬method.IsBodiless inInterface

theorem render_is_line {renderer : Renderer} {owner : Text} {inInterface : Bool} {method : Method}
    {line : Text} (rendered : (method.render renderer owner inInterface).outcome = .ok line) :
    method.IsLine renderer inInterface line := by
  rw [render, Rendering.bind_outcome] at rendered
  obtain ⟨parameters, -, rest⟩ := bind_ok_iff.1 rendered
  rw [Rendering.bind_outcome] at rest
  obtain ⟨returns, -, written⟩ := bind_ok_iff.1 rest
  rw [← Except.ok.inj written]
  refine ⟨⟨parameters ++ ")" ++ returns ++ method.ending inInterface, ?_⟩,
    abstract_mem_words inInterface method, (ending_iff _ _ _).1, (ending_iff _ _ _).2⟩
  rw [← modifiers_eq]
  simp only [List.append_assoc]

end Method

namespace ClassLike

/-- A method that another class declares. Neither marks of the root nor letter case tell classes
apart. -/
def Inherits (declared : ClassLike) (method : Method) : Prop :=
  ∃ declaring, method.declaringClass = some declaring ∧
    Text.lowercase (QualifiedName.bare declaring) ≠
      Text.lowercase (QualifiedName.bare declared.name)

/-- Lists of methods that are the same but for inherited ones, which may be put in or left out
anywhere. -/
inductive SameButInherited (declared : ClassLike) : List Method → List Method → Prop
  | nil : SameButInherited declared [] []
  | both {left right : List Method} (method : Method)
      (rest : SameButInherited declared left right) :
      SameButInherited declared (method :: left) (method :: right)
  | left {left right : List Method} {method : Method} (inherited : declared.Inherits method)
      (rest : SameButInherited declared left right) :
      SameButInherited declared (method :: left) right
  | right {left right : List Method} {method : Method} (inherited : declared.Inherits method)
      (rest : SameButInherited declared left right) :
      SameButInherited declared left (method :: right)

variable {declared : ClassLike}

theorem inherits_iff (method : Method) :
    declared.Inherits method ↔ declared.declares method = false := by
  unfold Inherits declares sameClassName
  cases method.declaringClass with
  | none => simp
  | some declaring => simp

instance (method : Method) : Decidable (declared.Inherits method) :=
  decidable_of_iff (declared.declares method = false) (inherits_iff method).symm

theorem SameButInherited.declared_eq {left right : List Method}
    (same : declared.SameButInherited left right) :
    left.filter declared.declares = right.filter declared.declares := by
  induction same with
  | nil => rfl
  | both method _ ih => rw [List.filter_cons, List.filter_cons, ih]
  | left inherited _ ih =>
      rw [List.filter_cons, (inherits_iff _).1 inherited]
      exact ih
  | right inherited _ ih =>
      rw [List.filter_cons, (inherits_iff _).1 inherited]
      exact ih

theorem own_methods_eq :
    declared.ownMethods = declared.methods.filter fun method => ¬declared.Inherits method := by
  unfold ownMethods
  congr 1
  funext method
  cases declares : declared.declares method with
  | true => simp [inherits_iff, declares]
  | false => simp [inherits_iff, declares]

/-- The texts of several members, each found on its own. -/
theorem render_all_lines_each {α : Type} {render : α → Rendering Text} {items : List α}
    {text : Text} (rendered : (renderAll render items).outcome = .ok text) :
    ∃ lines : List Text, text = lines.flatten ∧
      List.Forall₂ (fun item line => (render item).outcome = .ok line) items lines := by
  induction items generalizing text with
  | nil =>
      refine ⟨[], ?_, .nil⟩
      exact (Except.ok.inj rendered).symm
  | cons item items ih =>
      rw [renderAll, Rendering.bind_outcome] at rendered
      obtain ⟨line, here, rest⟩ := bind_ok_iff.1 rendered
      rw [Rendering.bind_outcome] at rest
      obtain ⟨others, later, written⟩ := bind_ok_iff.1 rest
      obtain ⟨lines, rfl, each⟩ := ih later
      refine ⟨line :: lines, ?_, .cons here each⟩
      rw [List.flatten_cons]
      exact (Except.ok.inj written).symm

variable (renderer : Renderer)

theorem render_same_but_inherited {methods : List Method}
    (same : declared.SameButInherited declared.methods methods) :
    render renderer { declared with methods } = declared.render renderer := by
  have own : ownMethods { declared with methods } = declared.ownMethods := same.declared_eq.symm
  unfold render
  rw [own]
  rfl

/-- What is written of a class is what would be written of it without methods, with the lines of its
own methods put in at the end. -/
theorem render_own_lines {fragment : Fragment}
    (rendered : (declared.render renderer).outcome = .ok fragment) :
    ∃ (opening : Text) (lines : List Text),
      (render renderer { declared with methods := [] }).outcome =
        .ok ⟨fragment.scope, opening ++ "\x7d"⟩ ∧
      fragment.text = opening ++ lines.flatten ++ "\x7d" ∧
      List.Forall₂ (fun method line =>
        (Method.render renderer (QualifiedName.ofText declared.name).short
          (declared.kind = .interface) method).outcome = .ok line) declared.ownMethods lines := by
  obtain ⟨constants, properties, methods, constantsRendered, propertiesRendered, methodsRendered,
    rfl⟩ := (render_eq_ok_iff declared renderer).1 rendered
  obtain ⟨lines, rfl, each⟩ := render_all_lines_each methodsRendered
  refine ⟨declared.opening renderer constants properties, lines, ?_, rfl, each⟩
  apply (render_eq_ok_iff _ renderer).2
  refine ⟨constants, properties, [], constantsRendered, propertiesRendered, rfl, ?_⟩
  rw [List.append_nil]
  rfl

/-- Methods that a class inherits have no influence: put in or left out anywhere, and whatever
stands in them, they change neither the text nor the failure nor what is reported. The methods that
the class declares itself are written in their order, one each, without a body exactly if they are
abstract or stand in an interface, where none of them is called abstract. -/
theorem inherited_methods_ignored (declared : ClassLike) (methods : List Method)
    (same : declared.SameButInherited declared.methods methods) :
    (∀ journal, (render renderer { declared with methods }).run journal =
        (declared.render renderer).run journal) ∧
      ∀ fragment, (render renderer { declared with methods }).outcome = .ok fragment →
        ∃ (opening : Text) (lines : List Text),
          (render renderer { declared with methods := [] }).outcome =
            .ok ⟨fragment.scope, opening ++ "\x7d"⟩ ∧
          fragment.text = opening ++ lines.flatten ++ "\x7d" ∧
          List.Forall₂ (fun method line =>
              (Method.render renderer (QualifiedName.ofText declared.name).short
                (declared.kind = .interface) method).outcome = .ok line ∧
              method.IsLine renderer (declared.kind = .interface) line)
            (declared.methods.filter fun method => ¬declared.Inherits method) lines := by
  have rendering := render_same_but_inherited renderer same
  rw [rendering]
  refine ⟨fun _ => rfl, ?_⟩
  intro fragment rendered
  obtain ⟨opening, lines, without, whole, each⟩ := render_own_lines renderer rendered
  refine ⟨opening, lines, without, whole, ?_⟩
  rw [← own_methods_eq]
  exact each.imp fun method line found => ⟨found, Method.render_is_line found⟩

/-- A broken inherited method that is put in elsewhere, beside methods that the class declares. -/
theorem inherited_methods_ignored_broken :
    let broken : Method :=
      { name := "old", returnType := some (.foreign .null), declaringClass := some "App\\Base" }
    let own : Method := { name := "own", isAbstract := true }
    let named : Method := { name := "named", declaringClass := some "\\APP\\child" }
    let declared : ClassLike := { name := "App\\Child", methods := [broken, own, named] }
    declared.SameButInherited declared.methods [own, broken, named] ∧
      (render .plain { declared with methods := [own, broken, named] }).outcome =
        .ok ⟨some "App", "class Child \x7b\n    public abstract function own ();\n" ++
          "    public function named () \x7b\x7d\n\x7d"⟩ ∧
      ∃ lines : List Text,
        List.Forall₂ (fun method line => Method.IsLine Renderer.plain false method line)
          [own, named] lines := by
  intro broken own named declared
  have inherited : declared.Inherits broken := ⟨"App\\Base", rfl, by decide⟩
  have same : declared.SameButInherited declared.methods [own, broken, named] :=
    .left inherited (.both own (.right inherited (.both named .nil)))
  have rendered :
      (render .plain { declared with methods := [own, broken, named] }).outcome =
        .ok ⟨some "App", "class Child \x7b\n    public abstract function own ();\n" ++
          "    public function named () \x7b\x7d\n\x7d"⟩ := by
    have kept : ownMethods { declared with methods := [own, broken, named] } = [own, named] :=
      rfl
    apply (render_eq_ok_iff _ _).2
    rw [kept]
    exact ⟨[], [], _, rfl, rfl, rfl, by decide +kernel⟩
  obtain ⟨opening, lines, -, -, each⟩ :=
    (inherited_methods_ignored .plain declared [own, broken, named] same).2 _ rendered
  exact ⟨same, rendered, lines, each.imp fun method line found => found.2⟩

end ClassLike

end Stubwright
