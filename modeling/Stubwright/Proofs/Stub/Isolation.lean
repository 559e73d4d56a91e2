import Stubwright.Stub

/-!
Constructs do not reach into each other. All of them write into one journal, and yet a stub is what
its constructs are when each is rendered alone: a construct that fails leaves one error and nothing
else, wherever it stands and however far it had got.
-/

namespace Stubwright

namespace Partition

theorem lengths_add_to (scope text : Text) (scopes : List (Text × List Text)) :
    ((addTo scope text scopes).map fun scope => scope.2.length).sum =
      (scopes.map fun scope => scope.2.length).sum + 1 := by
  induction scopes with
  | nil => rfl
  | cons present scopes ih =>
      rw [addTo]
      split
      · simp only [List.map_cons, List.sum_cons, List.length_append, List.length_singleton]
        omega
      · simp only [List.map_cons, List.sum_cons, ih]
        omega

theorem size_add (partition : Partition) (fragment : Fragment) :
    (partition.add fragment).size = partition.size + 1 := by
  unfold add
  cases fragment.scope with
  | none =>
      simp only [size, List.length_append, List.length_singleton]
      omega
  | some scope =>
      simp only [size, lengths_add_to]
      omega

theorem size_foldl_add (fragments : List Fragment) (partition : Partition) :
    (fragments.foldl add partition).size = partition.size + fragments.length := by
  induction fragments generalizing partition with
  | nil => rfl
  | cons fragment fragments ih =>
      rw [List.foldl_cons, ih, size_add, List.length_cons]
      omega

end Partition

namespace Rendering

variable {α : Type}

def fails (rendering : Rendering α) : Bool :=
  match rendering.outcome with
  | .ok _ => false
  | .error _ => true

theorem fails_iff (rendering : Rendering α) :
    rendering.fails = true ↔ ∃ cause, rendering.outcome = .error cause := by
  unfold fails
  cases rendering.outcome <;> simp

end Rendering

namespace Stub

def isError (diagnostic : Diagnostic) : Bool := diagnostic.severity = .error

def report (construct : Text × Rendering Fragment) : List Diagnostic :=
  match construct.2.outcome with
  | .ok _ => construct.2.warnings
  | .error cause => [⟨.error, construct.1, cause.message⟩]

def fragment? (construct : Text × Rendering Fragment) : Option Fragment :=
  construct.2.outcome.toOption

/-- One step: the diagnostics that were there stay as they are, and the construct's own follow. -/
theorem absorb_diagnostics (construct : Text × Rendering Fragment) (stub : Stub) :
    (stub.absorb construct.1 construct.2).diagnostics = stub.diagnostics ++ report construct := by
  unfold absorb report
  rw [construct.2.run_eq]
  cases construct.2.outcome with
  | ok fragment => rfl
  | error cause =>
      simp only [Journal.append_diagnostics, List.take_left']

theorem absorb_partition (construct : Text × Rendering Fragment) (stub : Stub) :
    (stub.absorb construct.1 construct.2).partition =
      (fragment? construct).toList.foldl Partition.add stub.partition := by
  unfold absorb fragment?
  rw [construct.2.run_eq]
  cases construct.2.outcome with
  | ok fragment => rfl
  | error cause => rfl

theorem absorb_renderer (construct : Text × Rendering Fragment) (stub : Stub) :
    (stub.absorb construct.1 construct.2).renderer = stub.renderer := by
  unfold absorb
  rw [construct.2.run_eq]
  cases construct.2.outcome with
  | ok fragment => rfl
  | error cause => rfl

def absorbAll (constructs : List (Text × Rendering Fragment)) (stub : Stub) : Stub :=
  constructs.foldl (fun stub construct => stub.absorb construct.1 construct.2) stub

theorem absorb_all_diagnostics (constructs : List (Text × Rendering Fragment)) (stub : Stub) :
    (absorbAll constructs stub).diagnostics = stub.diagnostics ++ constructs.flatMap report := by
  induction constructs generalizing stub with
  | nil => exact (List.append_nil _).symm
  | cons construct constructs ih =>
      have later := ih (stub.absorb construct.1 construct.2)
      rw [absorb_diagnostics, List.append_assoc] at later
      exact later

theorem absorb_all_partition (constructs : List (Text × Rendering Fragment)) (stub : Stub) :
    (absorbAll constructs stub).partition =
      (constructs.filterMap fragment?).foldl Partition.add stub.partition := by
  induction constructs generalizing stub with
  | nil => rfl
  | cons construct constructs ih =>
      have later := ih (stub.absorb construct.1 construct.2)
      rw [absorb_partition, ← List.foldl_append] at later
      rw [List.filterMap_cons]
      cases fragment : fragment? construct with
      | none =>
          rw [fragment] at later
          exact later
      | some rendered =>
          rw [fragment] at later
          exact later

theorem absorb_all_renderer (constructs : List (Text × Rendering Fragment)) (stub : Stub) :
    (absorbAll constructs stub).renderer = stub.renderer := by
  induction constructs generalizing stub with
  | nil => rfl
  | cons construct constructs ih =>
      have later := ih (stub.absorb construct.1 construct.2)
      rw [absorb_renderer] at later
      exact later

section

variable (renderer : Renderer) (earlier : List Diagnostic) (extension : Extension)

theorem of_extension_diagnostics :
    (ofExtension renderer earlier extension).diagnostics =
      earlier ++ (constructs renderer extension).flatMap report :=
  absorb_all_diagnostics (constructs renderer extension) (start renderer earlier extension)

theorem of_extension_partition :
    (ofExtension renderer earlier extension).partition =
      .ofFragments ((constructs renderer extension).filterMap fragment?) :=
  absorb_all_partition (constructs renderer extension) (start renderer earlier extension)

theorem of_extension_text :
    (ofExtension renderer earlier extension).text =
      (Partition.ofFragments ((constructs renderer extension).filterMap fragment?)).render
        renderer := by
  have kept : (ofExtension renderer earlier extension).renderer = renderer :=
    absorb_all_renderer (constructs renderer extension) (start renderer earlier extension)
  rw [text, of_extension_partition, kept]

end

/-- A construct leaves an error exactly if it fails. -/
theorem count_report (construct : Text × Rendering Fragment) :
    (report construct).countP isError = (if construct.2.fails then 1 else 0) := by
  unfold report Rendering.fails
  cases construct.2.outcome with
  | ok fragment =>
      apply List.countP_eq_zero.2
      intro diagnostic member
      have warning := construct.2.only_warns diagnostic member
      simp [isError, warning]
  | error cause => rfl

theorem error_reported_iff (construct : Text × Rendering Fragment) :
    (∃ diagnostic ∈ report construct, isError diagnostic = true) ↔
      construct.2.fails = true := by
  rw [← List.countP_pos_iff, count_report]
  cases construct.2.fails <;> simp

theorem fragment_fails (construct : Text × Rendering Fragment) :
    (fragment? construct).toList.length + (if construct.2.fails then 1 else 0) = 1 := by
  unfold fragment? Rendering.fails
  cases construct.2.outcome with
  | ok fragment => rfl
  | error cause => rfl

theorem fragments_and_failures (constructs : List (Text × Rendering Fragment)) :
    (constructs.filterMap fragment?).length + (constructs.flatMap report).countP isError =
      constructs.length := by
  induction constructs with
  | nil => rfl
  | cons construct constructs ih =>
      have one := fragment_fails construct
      rw [← count_report] at one
      rw [List.filterMap_cons, List.flatMap_cons, List.countP_append, List.length_cons]
      cases fragment : fragment? construct with
      | none =>
          rw [fragment] at one
          simp only [Option.toList_none, List.length_nil] at one
          simp only
          omega
      | some rendered =>
          rw [fragment] at one
          simp only [Option.toList_some, List.length_singleton] at one
          simp only [List.length_cons]
          omega

end Stub

/-- An extension without the constructs that fail. -/
def Extension.renderable (renderer : Renderer) (extension : Extension) : Extension :=
  { extension with
    constants := extension.constants.filter fun constant => !(constant.render renderer).fails
    functions := extension.functions.filter fun function => !(function.render renderer).fails
    classes := extension.classes.filter fun declared => !(declared.render renderer).fails }

namespace Stub

theorem constructs_renderable (renderer : Renderer) (extension : Extension) :
    constructs renderer (extension.renderable renderer) =
      (constructs renderer extension).filter fun construct => !construct.2.fails := by
  simp only [constructs, Extension.renderable, List.filter_append, List.filter_map]
  rfl

theorem fragments_renderable (constructs : List (Text × Rendering Fragment)) :
    (constructs.filter fun construct => !construct.2.fails).filterMap fragment? =
      constructs.filterMap fragment? := by
  have none_of_fails :
      (fun construct => if (!construct.2.fails) = true then fragment? construct else none) =
        fragment? := by
    funext construct
    unfold fragment? Rendering.fails
    cases construct.2.outcome with
    | ok fragment => rfl
    | error cause => rfl
  rw [List.filterMap_filter, none_of_fails]

theorem has_errors_iff (renderer : Renderer) (earlier : List Diagnostic)
    (extension : Extension) :
    (ofExtension renderer earlier extension).hasErrors = true ↔
      (∃ diagnostic ∈ earlier, diagnostic.severity = .error) ∨
        ∃ construct ∈ constructs renderer extension,
          ∃ cause, construct.2.outcome = .error cause := by
  change (ofExtension renderer earlier extension).diagnostics.any isError = true ↔ _
  rw [of_extension_diagnostics, List.any_append, Bool.or_eq_true, List.any_eq_true,
    List.any_eq_true]
  apply or_congr
  · simp only [isError, decide_eq_true_eq]
  · constructor
    · rintro ⟨diagnostic, member, error⟩
      obtain ⟨construct, among, reported⟩ := List.mem_flatMap.1 member
      have failed := (error_reported_iff construct).1 ⟨diagnostic, reported, error⟩
      exact ⟨construct, among, construct.2.fails_iff.1 failed⟩
    · rintro ⟨construct, among, failure⟩
      have failed := construct.2.fails_iff.2 failure
      obtain ⟨diagnostic, reported, error⟩ := (error_reported_iff construct).2 failed
      exact ⟨diagnostic, List.mem_flatMap.2 ⟨construct, among, reported⟩, error⟩

/-- A stub is what its constructs are when each is rendered alone. The diagnostics that were raised
before stay in front, each construct adds its own warnings or else one error that names it, and the
fragments are those of the constructs that did not fail, in their order. So each construct is
either a fragment or an error, and the constructs that fail leave no trace in the text. -/
theorem of_extension_isolates (renderer : Renderer) (earlier : List Diagnostic)
    (extension : Extension) :
    (ofExtension renderer earlier extension).diagnostics =
        earlier ++ (constructs renderer extension).flatMap report ∧
      (∀ construct ∈ constructs renderer extension, ∀ diagnostic ∈ construct.2.warnings,
        diagnostic.severity = .warning) ∧
      (ofExtension renderer earlier extension).partition =
        .ofFragments ((constructs renderer extension).filterMap fragment?) ∧
      (ofExtension renderer earlier extension).partition.size +
          ((ofExtension renderer earlier extension).diagnostics.drop earlier.length).countP isError =
        extension.constants.length + extension.functions.length + extension.classes.length ∧
      ((ofExtension renderer earlier extension).hasErrors = true ↔
        (∃ diagnostic ∈ earlier, diagnostic.severity = .error) ∨
          ∃ construct ∈ constructs renderer extension,
            ∃ cause, construct.2.outcome = .error cause) ∧
      (ofExtension renderer earlier (extension.renderable renderer)).text =
        (ofExtension renderer earlier extension).text := by
  have diagnostics := of_extension_diagnostics renderer earlier extension
  have partition := of_extension_partition renderer earlier extension
  refine ⟨diagnostics, ?_, partition, ?_, has_errors_iff renderer earlier extension, ?_⟩
  · intro construct _ diagnostic member
    exact construct.2.only_warns diagnostic member
  · have every : (constructs renderer extension).length = extension.constants.length +
        extension.functions.length + extension.classes.length := by
      simp only [constructs, List.length_append, List.length_map]
    have size := Partition.size_foldl_add
      ((constructs renderer extension).filterMap fragment?) {}
    change (Partition.ofFragments _).size = 0 + _ at size
    rw [diagnostics, partition, size, List.drop_left, Nat.zero_add, fragments_and_failures, every]
  · rw [of_extension_text, of_extension_text, constructs_renderable, fragments_renderable]

end Stub

end Stubwright
