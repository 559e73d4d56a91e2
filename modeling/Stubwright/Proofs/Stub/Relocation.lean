import Stubwright.Proofs.Script.File
import Stubwright.Proofs.Stub.Grouping
import Stubwright.Proofs.Stub.Renaming

/-!
An extension without namespaces, moved into one. The names of its constructs and of the classes that
declare its methods get the namespace in front, and its stub becomes one block around the old text.
-/

namespace Stubwright

open QualifiedName (within bare)

def Method.moved (scope : Text) (method : Method) : Method :=
  { method with declaringClass := method.declaringClass.map (within scope) }

def ClassLike.moved (scope : Text) (declared : ClassLike) : ClassLike :=
  { declared with
    name := within scope declared.name
    methods := declared.methods.map (Method.moved scope) }

namespace Extension

def moved (scope : Text) (extension : Extension) : Extension :=
  { extension with
    constants := extension.constants.map fun constant =>
      { constant with name := within scope constant.name }
    functions := extension.functions.map fun function =>
      { function with name := within scope function.name }
    classes := extension.classes.map (ClassLike.moved scope) }

theorem moved_names (scope : Text) (extension : Extension) :
    (extension.moved scope).names = extension.names.map (within scope) := by
  simp only [names, moved, List.map_append, List.map_map]
  rfl

theorem moved_renamed (scope : Text) (extension : Extension) :
    extension.Renamed (fun name other => other = within scope name) (extension.moved scope) := by
  have method (each : Method) :
      Method.Renamed (fun name other => other = within scope name) each (each.moved scope) := by
    apply Method.Renamed.mk
    cases each.declaringClass with
    | none => exact .none
    | some declaring => exact .some rfl
  constructor
  · apply List.forall₂_map_right_iff.2
    exact List.forall₂_same.2 fun constant _ => .mk rfl
  · apply List.forall₂_map_right_iff.2
    exact List.forall₂_same.2 fun function _ => .mk rfl
  · apply List.forall₂_map_right_iff.2
    refine List.forall₂_same.2 fun declared _ => .mk rfl ?_
    exact List.forall₂_map_right_iff.2 (List.forall₂_same.2 fun each _ => method each)

end Extension

theorem Extension.Renamed.names {related : Text → Text → Prop} {extension other : Extension}
    (renamed : extension.Renamed related other) :
    List.Forall₂ related extension.names other.names := by
  refine List.rel_append (List.rel_append ?_ ?_) ?_
  · apply List.rel_map _ renamed.constants
    rintro constant _ ⟨named⟩
    exact named
  · apply List.rel_map _ renamed.functions
    rintro function _ ⟨named⟩
    exact named
  · apply List.rel_map _ renamed.classes
    rintro declared _ ⟨named, _⟩
    exact named

theorem keeps_names_within {scope : Text} (nonempty : scope ≠ [])
    (unrooted : scope.head? ≠ some separator) :
    KeepsNames fun name other => other = within scope name where
  short := by
    rintro name _ rfl
    exact (QualifiedName.short_within nonempty unrooted name).symm
  same_class := by
    rintro left right _ _ rfl rfl
    exact QualifiedName.same_class_within nonempty unrooted left right

/-- Marks of the root in front of a name carry no meaning. -/
theorem keeps_names_bare : KeepsNames fun name other => bare other = bare name where
  short same := by rw [QualifiedName.ofText, QualifiedName.ofText, same]
  same_class sameLeft sameRight := by rw [sameClassName, sameClassName, sameLeft, sameRight]

namespace Partition

theorem add_globals (fragments : List Fragment) (globals : List Text)
    (unscoped : ∀ fragment ∈ fragments, fragment.scope = none) :
    fragments.foldl add ⟨[], globals⟩ = ⟨[], globals ++ fragments.map Fragment.text⟩ := by
  induction fragments generalizing globals with
  | nil => rw [List.map_nil, List.append_nil]; rfl
  | cons fragment fragments ih =>
      have step : add ⟨[], globals⟩ fragment = ⟨[], globals ++ [fragment.text]⟩ := by
        rw [add, unscoped fragment (by simp)]
      rw [List.foldl_cons, step, ih _ fun other member => unscoped other (by simp [member]),
        List.map_cons, List.append_assoc]
      rfl

theorem add_alone (scope : Text) (fragments : List Fragment) (texts : List Text)
    (inScope : ∀ fragment ∈ fragments, fragment.scope = some scope) :
    fragments.foldl add ⟨[(scope, texts)], []⟩ =
      ⟨[(scope, texts ++ fragments.map Fragment.text)], []⟩ := by
  induction fragments generalizing texts with
  | nil => rw [List.map_nil, List.append_nil]; rfl
  | cons fragment fragments ih =>
      have step : add ⟨[(scope, texts)], []⟩ fragment =
          ⟨[(scope, texts ++ [fragment.text])], []⟩ := by
        rw [add, inScope fragment (by simp)]
        simp only [addTo, if_pos]
      rw [List.foldl_cons, step, ih _ fun other member => inScope other (by simp [member]),
        List.map_cons, List.append_assoc]
      rfl

/-- Fragments of one namespace make one block, if there are any. -/
theorem of_fragments_alone (scope : Text) (fragments : List Fragment)
    (inScope : ∀ fragment ∈ fragments, fragment.scope = some scope) :
    ofFragments fragments = ⟨if fragments.isEmpty then [] else
      [(scope, fragments.map Fragment.text)], []⟩ := by
  cases fragments with
  | nil => rfl
  | cons fragment fragments =>
      have first : add {} fragment = ⟨[(scope, [fragment.text])], []⟩ := by
        rw [add, inScope fragment (by simp)]
        rfl
      rw [ofFragments, List.foldl_cons, first,
        add_alone scope fragments _ fun other member => inScope other (by simp [member])]
      rfl

theorem render_globals (settings : Settings) (texts : List Text) (nonempty : texts ≠ []) :
    render settings ⟨[], texts⟩ = header settings ++ joined texts ++ "\n" := by
  have alone : blocks ⟨[], texts⟩ = [joined texts] := by
    simp [blocks, globalBlock, nonempty]
  rw [Script.render_of_blocks settings _ _ [] alone, List.append_assoc]
  rfl

theorem render_alone (settings : Settings) (scope : Text) (texts : List Text) :
    render settings ⟨[(scope, texts)], []⟩ =
      header settings ++ ("namespace " ++ scope ++ " \x7b\n") ++ joined texts ++ "\n\x7d\n" := by
  have alone : blocks ⟨[(scope, texts)], []⟩ = [block ("namespace " ++ scope) texts] := rfl
  rw [Script.render_of_blocks settings _ _ [] alone, block]
  simp only [List.append_assoc]
  rfl

end Partition

namespace Stub

def texts (renderer : Renderer) (extension : Extension) : List Text :=
  ((constructs renderer extension).filterMap fragment?).map Fragment.text

section

variable (renderer : Renderer) (earlier : List Diagnostic) (extension : Extension)

theorem exists_name (fragment : Fragment)
    (rendered : fragment ∈ (constructs renderer extension).filterMap fragment?) :
    ∃ name ∈ extension.names, fragment.scope = (QualifiedName.ofText name).scope := by
  obtain ⟨construct, among, here⟩ := List.mem_filterMap.1 rendered
  have outcome : construct.2.outcome = .ok fragment := by
    unfold fragment? at here
    cases reached : construct.2.outcome with
    | error cause =>
        rw [reached] at here
        cases here
    | ok found =>
        rw [reached] at here
        exact congrArg Except.ok (Option.some.inj here)
  have named : construct.1 ∈ extension.names := by
    rw [← Extension.constructs_named renderer]
    exact List.mem_map_of_mem among
  exact ⟨construct.1, named, construct_scope renderer extension construct among fragment outcome⟩

theorem texts_eq_nil_iff :
    texts renderer extension = [] ↔
      ∀ construct ∈ constructs renderer extension, construct.2.fails = true := by
  rw [texts, List.map_eq_nil_iff, List.filterMap_eq_nil_iff]
  apply forall₂_congr
  intro construct _
  unfold fragment? Rendering.fails
  cases construct.2.outcome with
  | error cause => simp [Except.toOption]
  | ok fragment => simp [Except.toOption]

theorem text_of_partition :
    (ofExtension renderer earlier extension).text =
      (ofExtension renderer earlier extension).partition.render renderer := by
  rw [of_extension_text, of_extension_partition]

theorem partition_unscoped (plain : ∀ name ∈ extension.names, separator ∉ name) :
    (ofExtension renderer earlier extension).partition = ⟨[], texts renderer extension⟩ := by
  rw [of_extension_partition]
  apply Partition.add_globals _ []
  intro fragment rendered
  obtain ⟨name, among, scope⟩ := exists_name renderer extension fragment rendered
  rw [scope, QualifiedName.of_text_of_not_mem (plain name among)]

theorem partition_alone (scope : Text)
    (placed : ∀ name ∈ extension.names, (QualifiedName.ofText name).scope = some scope) :
    (ofExtension renderer earlier extension).partition =
      ⟨if (texts renderer extension).isEmpty then [] else [(scope, texts renderer extension)],
        []⟩ := by
  rw [of_extension_partition, Partition.of_fragments_alone scope, texts, List.isEmpty_map]
  intro fragment rendered
  obtain ⟨name, among, inScope⟩ := exists_name renderer extension fragment rendered
  rw [inScope, placed name among]

end

section

variable (renderer : Renderer) (earlier : List Diagnostic) {related : Text → Text → Prop}
  (keeps : KeepsNames related) {extension other : Extension}
  (renamed : extension.Renamed related other)
include keeps renamed

theorem diagnostics_renamed :
    (ofExtension renderer earlier other).diagnostics.map saying =
      (ofExtension renderer earlier extension).diagnostics.map saying := by
  rw [of_extension_diagnostics, of_extension_diagnostics, List.map_append, List.map_append,
    reports_alike (constructs_alike renderer keeps renamed)]

theorem texts_renamed : texts renderer other = texts renderer extension :=
  (fragment_texts_alike (constructs_alike renderer keeps renamed)).symm

end

/-- Moving an extension into a namespace changes the namespace alone. The same constructs are left
out and the diagnostics say the same; the stub is one block of the namespace around what stood below
the notice before, and where nothing is rendered it is the notice in both cases. Marks of the root
in front of the moved names change nothing. -/
theorem of_extension_moved (renderer : Renderer) (earlier : List Diagnostic) (extension : Extension)
    (scope : Text) (nonempty : scope ≠ []) (unrooted : scope.head? ≠ some separator)
    (plain : ∀ name ∈ extension.names, separator ∉ name) :
    let stub := ofExtension renderer earlier extension
    let moved := ofExtension renderer earlier (extension.moved scope)
    ((constructs renderer (extension.moved scope)).map fun construct => construct.2.fails) =
        (constructs renderer extension).map (fun construct => construct.2.fails) ∧
      moved.diagnostics.map saying = stub.diagnostics.map saying ∧
      moved.partition.globals = [] ∧
      ((∃ construct ∈ constructs renderer extension, construct.2.fails = false) →
        ∃ body, stub.text = Partition.header renderer ++ body ++ "\n" ∧
          moved.text = Partition.header renderer ++ ("namespace " ++ scope ++ " \x7b\n") ++ body ++
            "\n\x7d\n") ∧
      ((∀ construct ∈ constructs renderer extension, construct.2.fails = true) →
        stub.text = Partition.header renderer ∧ moved.text = Partition.header renderer) ∧
      ∀ rooted : Extension,
        (extension.moved scope).Renamed (fun name other => bare other = bare name) rooted →
        (ofExtension renderer earlier rooted).text = moved.text ∧
          (ofExtension renderer earlier rooted).diagnostics.map saying =
            moved.diagnostics.map saying := by
  intro stub moved
  have keeps := keeps_names_within nonempty unrooted
  have renamed := extension.moved_renamed scope
  have placed : ∀ name ∈ (extension.moved scope).names,
      (QualifiedName.ofText name).scope = some scope := by
    intro name among
    rw [Extension.moved_names] at among
    obtain ⟨before, inNames, rfl⟩ := List.mem_map.1 among
    rw [QualifiedName.of_text_within nonempty unrooted (plain before inNames)]
  have partition := partition_unscoped renderer earlier extension plain
  have movedPartition := partition_alone renderer earlier (extension.moved scope) scope placed
  have sameTexts := texts_renamed renderer keeps renamed
  refine ⟨?_, diagnostics_renamed renderer earlier keeps renamed, ?_, ?_, ?_, ?_⟩
  · exact (fails_alike (constructs_alike renderer keeps renamed)).symm
  · exact congrArg Partition.globals movedPartition
  · rintro ⟨construct, among, renders⟩
    have some_text : texts renderer extension ≠ [] := by
      intro nothing
      have failed := (texts_eq_nil_iff renderer extension).1 nothing construct among
      exact Bool.false_ne_true (renders.symm.trans failed)
    refine ⟨Partition.joined (texts renderer extension), ?_, ?_⟩
    · rw [text_of_partition, partition, Partition.render_globals renderer _ some_text]
    · rw [text_of_partition, movedPartition, sameTexts, if_neg (by simpa using some_text),
        Partition.render_alone]
  · intro fail
    have no_text := (texts_eq_nil_iff renderer extension).2 fail
    rw [text_of_partition, text_of_partition, partition, movedPartition, sameTexts, no_text]
    exact ⟨rfl, rfl⟩
  · intro rooted further
    have alsoPlaced : ∀ name ∈ rooted.names, (QualifiedName.ofText name).scope = some scope := by
      have sameBare : rooted.names.map bare = (extension.moved scope).names.map bare := by
        rw [← List.forall₂_eq_eq_eq, List.forall₂_map_left_iff, List.forall₂_map_right_iff]
        exact further.names.flip
      intro name among
      have bareName : bare name ∈ (extension.moved scope).names.map bare :=
        sameBare ▸ List.mem_map_of_mem among
      obtain ⟨other, inMoved, same⟩ := List.mem_map.1 bareName
      rw [QualifiedName.ofText, ← same]
      exact placed other inMoved
    have rootedTexts := texts_renamed renderer keeps_names_bare further
    refine ⟨?_, diagnostics_renamed renderer earlier keeps_names_bare further⟩
    rw [text_of_partition, text_of_partition, movedPartition,
      partition_alone renderer earlier rooted scope alsoPlaced, rootedTexts]

def unmoved : Extension where
  constants := [⟨"LOST", .literal .alien⟩]
  classes := [{
    name := "Base"
    methods := [
      { name := "own", declaringClass := some "\\base" },
      { name := "inherited", declaringClass := some "Old" }] }]

/-- The same in a namespace, with more marks of the root than are needed. -/
def unmovedRooted : Extension where
  constants := [⟨"\\App\\Core\\LOST", .literal .alien⟩]
  classes := [{
    name := "\\\\App\\Core\\Base"
    methods := [
      { name := "own", declaringClass := some "\\App\\Core\\base" },
      { name := "inherited", declaringClass := some "App\\Core\\Old" }] }]

theorem of_extension_moved_rooted :
    ("App\\Core" : Text) ≠ [] ∧ ("App\\Core" : Text).head? ≠ some separator ∧
      (∀ name ∈ unmoved.names, separator ∉ name) ∧
      (∃ construct ∈ constructs .plain unmoved, construct.2.fails = true) ∧
      (∃ construct ∈ constructs .plain unmoved, construct.2.fails = false) ∧
      (unmoved.moved "App\\Core").Renamed (fun name other => bare other = bare name)
        unmovedRooted ∧
      (ofExtension .plain [] unmovedRooted).text =
        Partition.header Renderer.plain ++ "namespace App\\Core \x7b\n" ++
          "class Base \x7b\n    public function own () \x7b\x7d\n\x7d" ++ "\n\x7d\n" := by
  have plain : ∀ name ∈ unmoved.names, separator ∉ name := by decide
  have skipped : ∃ construct ∈ constructs .plain unmoved,
      construct.2.fails = true := ⟨_, List.mem_cons_self, rfl⟩
  have kept : ∃ construct ∈ constructs .plain unmoved,
      construct.2.fails = false := ⟨_, List.mem_cons_of_mem _ List.mem_cons_self, rfl⟩
  have rooted : (unmoved.moved "App\\Core").Renamed (fun name other => bare other = bare name)
      unmovedRooted := by
    refine ⟨.cons (.mk (by decide)) .nil, .nil, .cons (.mk (by decide) ?_) .nil⟩
    exact .cons (.mk (.some (by decide))) (.cons (.mk (.some (by decide))) .nil)
  obtain ⟨_, _, _, rendered, _, further⟩ := of_extension_moved .plain [] unmoved
    "App\\Core" (by decide) (by decide) plain
  obtain ⟨body, stub, moved⟩ := rendered kept
  have known : (ofExtension .plain [] unmoved).text =
      Partition.header Renderer.plain ++
        "class Base \x7b\n    public function own () \x7b\x7d\n\x7d" ++ "\n" := by decide +kernel
  have inside := List.append_cancel_left (List.append_cancel_right (stub.symm.trans known))
  refine ⟨by decide, by decide, plain, skipped, kept, rooted, ?_⟩
  rw [(further unmovedRooted rooted).1, moved, inside]
  rfl

end Stub

end Stubwright
