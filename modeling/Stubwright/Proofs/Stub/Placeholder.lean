import Stubwright.Proofs.Stub.Uniform

/-!
The placeholder stands in a stub once for each warning and has no other effect. Stubs of one
extension that are made with different placeholders have the same segments between the placeholders,
leave out the same constructs and report the same.
-/

namespace Stubwright

open Text (HasGaps EachHasGaps)
open Rendering (Uniform)

namespace Partition

/-- Scopes for every placeholder: their names are fixed, and it is counted how often the placeholder
stands in their texts. -/
inductive ScopesHaveGaps : Nat → (Text → List (Text × List Text)) → Prop
  | nil : ScopesHaveGaps 0 fun _ => []
  | cons {first others : Nat} {texts : Text → List Text}
      {scopes : Text → List (Text × List Text)} (name : Text)
      (here : EachHasGaps first texts) (later : ScopesHaveGaps others scopes) :
      ScopesHaveGaps (first + others) fun placeholder =>
        (name, texts placeholder) :: scopes placeholder

namespace ScopesHaveGaps

variable {count : Nat} {scopes : Text → List (Text × List Text)}

theorem add_to {more : Nat} {text : Text → Text} (scope : Text) (gaps : ScopesHaveGaps count scopes)
    (added : HasGaps more text) :
    ScopesHaveGaps (count + more) fun placeholder =>
      Partition.addTo scope (text placeholder) (scopes placeholder) := by
  induction gaps with
  | nil =>
      have alone := cons scope (.single added) nil
      rw [Nat.add_comm] at alone
      exact alone
  | @cons first others texts scopes name here later ih =>
      unfold Partition.addTo
      split
      · have longer := cons name (here.append (.single added)) later
        rw [Nat.add_right_comm] at longer
        exact longer
      · rw [Nat.add_assoc]
        exact cons name here ih

/-- What does not depend on the placeholder: the names, and how many texts there are. -/
theorem exists_outline (gaps : ScopesHaveGaps count scopes) :
    ∃ names size, ∀ placeholder, (scopes placeholder).map Prod.fst = names ∧
      ((scopes placeholder).map fun scope => scope.2.length).sum = size := by
  induction gaps with
  | nil => exact ⟨[], 0, fun _ => ⟨rfl, rfl⟩⟩
  | cons name here later ih =>
      obtain ⟨names, size, same⟩ := ih
      obtain ⟨length, alike⟩ := here.exists_length
      refine ⟨name :: names, length + size, ?_⟩
      intro placeholder
      obtain ⟨sameNames, sameSize⟩ := same placeholder
      simp only [List.map_cons, List.sum_cons, alike placeholder, sameNames, sameSize, and_self]

theorem blocks (gaps : ScopesHaveGaps count scopes) :
    EachHasGaps count fun placeholder =>
      (scopes placeholder).map fun scope => block ("namespace " ++ scope.1) scope.2 := by
  induction gaps with
  | nil => exact .nil
  | cons name here later ih =>
      exact .cons (((here.join_with "\n\n").prepend ("namespace " ++ name ++ " \x7b\n")).extend
        "\n\x7d") ih

end ScopesHaveGaps

/-- A partition for every placeholder, and how often the placeholder stands in its texts. -/
inductive HaveGaps : Nat → (Text → Partition) → Prop
  | parts {first others : Nat} {scopes : Text → List (Text × List Text)}
      {globals : Text → List Text} (inScopes : ScopesHaveGaps first scopes)
      (inGlobals : EachHasGaps others globals) :
      HaveGaps (first + others) fun placeholder => ⟨scopes placeholder, globals placeholder⟩

/-- The opening and the blocks after it, where there are any. -/
theorem opening_has_gaps {count : Nat} {blocks : Text → List Text} (opening : Text)
    (gaps : EachHasGaps count blocks) :
    HasGaps count fun placeholder =>
      if (blocks placeholder).isEmpty then opening
      else opening ++ joined (blocks placeholder) ++ "\n" := by
  have whole := ((gaps.join_with "\n\n").prepend opening).extend "\n"
  cases gaps with
  | nil => exact .fixed opening
  | cons here later => exact whole

namespace HaveGaps

variable {count : Nat} {partition : Text → Partition}

theorem none : HaveGaps 0 fun _ => {} := parts .nil .nil

theorem add {more : Nat} {fragment : Text → Fragment} (gaps : HaveGaps count partition)
    (added : FragmentHasGaps more fragment) :
    HaveGaps (count + more) fun placeholder =>
      (partition placeholder).add (fragment placeholder) := by
  obtain ⟨inScopes, inGlobals⟩ := gaps
  obtain ⟨scope | scope, text, inText, rfl⟩ := added
  · rw [Nat.add_assoc]
    exact parts inScopes (inGlobals.append (.single inText))
  · rw [Nat.add_right_comm]
    exact parts (inScopes.add_to scope inText) inGlobals

theorem exists_outline (gaps : HaveGaps count partition) :
    ∃ namespaces size, ∀ placeholder, (partition placeholder).namespaces = namespaces ∧
      (partition placeholder).size = size := by
  obtain ⟨inScopes, inGlobals⟩ := gaps
  obtain ⟨names, scopesSize, sameScopes⟩ := inScopes.exists_outline
  obtain ⟨globalsSize, sameGlobals⟩ := inGlobals.exists_length
  refine ⟨names, globalsSize + scopesSize, ?_⟩
  intro placeholder
  obtain ⟨sameNames, sameSize⟩ := sameScopes placeholder
  refine ⟨sameNames, ?_⟩
  simp only [size, sameGlobals placeholder, sameSize]

theorem blocks (gaps : HaveGaps count partition) :
    EachHasGaps count fun placeholder => (partition placeholder).blocks := by
  obtain ⟨inScopes, inGlobals⟩ := gaps
  refine inScopes.blocks.append ?_
  have code := inGlobals.join_with "\n\n"
  cases inGlobals with
  | nil => exact .nil
  | cons here later =>
      cases inScopes with
      | nil => exact .single code
      | cons name inTexts others =>
          exact .single ((code.prepend "namespace \x7b\n").extend "\n\x7d")

theorem render (renderer : Renderer) (gaps : HaveGaps count partition) :
    HasGaps count fun placeholder =>
      (partition placeholder).render (renderer.withPlaceholder placeholder) :=
  opening_has_gaps (header renderer) gaps.blocks

end HaveGaps

end Partition

namespace Stub

def isWarning (diagnostic : Diagnostic) : Bool := diagnostic.severity = .warning

def recordsOf (construct : Text × Rendering Fragment) : List Record :=
  match construct.2.outcome with
  | .ok _ => construct.2.records
  | .error cause =>
      construct.2.records ++
        [⟨.assembly, .error, "Skipping " ++ construct.1 ++ ": " ++ cause.message⟩]

theorem absorb_journal (construct : Text × Rendering Fragment) (stub : Stub) :
    (stub.absorb construct.1 construct.2).toJournal =
      stub.toJournal ++ ⟨report construct, recordsOf construct⟩ := by
  have diagnostics := absorb_diagnostics construct stub
  have records : (stub.absorb construct.1 construct.2).records =
      stub.records ++ recordsOf construct := by
    unfold absorb recordsOf
    rw [construct.2.run_eq]
    cases construct.2.outcome with
    | ok fragment => rfl
    | error cause => simp only [Journal.append_records, List.append_assoc]
  change Journal.mk _ _ = Journal.mk _ _
  rw [diagnostics, records]

theorem absorb_extension (construct : Text × Rendering Fragment) (stub : Stub) :
    (stub.absorb construct.1 construct.2).extension = stub.extension := by
  unfold absorb
  rw [construct.2.run_eq]
  cases construct.2.outcome with
  | ok fragment => rfl
  | error cause => rfl

theorem absorb_all_extension (constructs : List (Text × Rendering Fragment)) (stub : Stub) :
    (absorbAll constructs stub).extension = stub.extension := by
  induction constructs generalizing stub with
  | nil => rfl
  | cons construct constructs ih =>
      have later := ih (stub.absorb construct.1 construct.2)
      rw [absorb_extension] at later
      exact later

/-- What a construct leaves if it is rendered alone, the same for every placeholder: what it
reports, and whether it fails. If it does not, the placeholder stands in its fragment once for each
of its warnings. -/
theorem report_alike {rendering : Text → Rendering Fragment} (construct : Text)
    (uniform : Uniform FragmentHasGaps rendering) :
    ∃ reported records fails,
      (∀ placeholder, report (construct, rendering placeholder) = reported ∧
        recordsOf (construct, rendering placeholder) = records ∧
        (rendering placeholder).fails = fails) ∧
      ∀ count partition, Partition.HaveGaps count partition →
        Partition.HaveGaps (count + reported.countP isWarning) fun placeholder =>
          (fragment? (construct, rendering placeholder)).toList.foldl Partition.add
            (partition placeholder) := by
  cases uniform with
  | failed cause written same =>
      have outcome : ∀ placeholder, (rendering placeholder).outcome = .error cause :=
        fun placeholder => congrArg Prod.fst (same placeholder)
      have records : ∀ placeholder, (rendering placeholder).records = written.records :=
        fun placeholder => congrArg (fun run => run.2.records) (same placeholder)
      simp only [report, recordsOf, Rendering.fails, fragment?, outcome, records]
      exact ⟨_, _, _, fun _ => ⟨rfl, rfl, rfl⟩, fun _ _ gaps => gaps⟩
  | rendered fragment written same added =>
      have outcome : ∀ placeholder, (rendering placeholder).outcome = .ok (fragment placeholder) :=
        fun placeholder => congrArg Prod.fst (same placeholder)
      have records : ∀ placeholder, (rendering placeholder).records = written.records :=
        fun placeholder => congrArg (fun run => run.2.records) (same placeholder)
      have warnings : ∀ placeholder, (rendering placeholder).warnings = written.diagnostics :=
        fun placeholder => congrArg (fun run => run.2.diagnostics) (same placeholder)
      have all_warnings : written.diagnostics.countP isWarning = written.diagnostics.length := by
        apply List.countP_eq_length.2
        intro diagnostic member
        rw [← warnings []] at member
        exact decide_eq_true ((rendering []).only_warns diagnostic member)
      simp only [report, recordsOf, Rendering.fails, fragment?, outcome, records, warnings]
      refine ⟨_, _, _, fun _ => ⟨rfl, rfl, rfl⟩, ?_⟩
      intro count partition gaps
      rw [all_warnings]
      exact gaps.add added

/-- A stub in the making for every placeholder. All report the same, and the placeholder stands in
what they hold once for each warning among what has been reported. -/
structure Alike (earlier reported : List Diagnostic) (records : List Record)
    (stub : Text → Stub) : Prop where
  journal : ∀ placeholder, (stub placeholder).toJournal = ⟨earlier ++ reported, records⟩
  partition : Partition.HaveGaps (reported.countP isWarning) fun placeholder =>
    (stub placeholder).partition

/-- One step: a construct that fails adds one error for every placeholder, and any other adds its
warnings and as many placeholders. -/
theorem Alike.absorb {earlier reported : List Diagnostic} {records : List Record}
    {stub : Text → Stub} (alike : Alike earlier reported records stub) (construct : Text)
    {rendering : Text → Rendering Fragment} (uniform : Uniform FragmentHasGaps rendering) :
    ∃ reported records, Alike earlier reported records fun placeholder =>
      (stub placeholder).absorb construct (rendering placeholder) := by
  obtain ⟨added, noted, _, same, fills⟩ := report_alike construct uniform
  refine ⟨reported ++ added, records ++ noted, ?_, ?_⟩
  · intro placeholder
    obtain ⟨sameReport, sameRecords, -⟩ := same placeholder
    rw [absorb_journal (construct, rendering placeholder), alike.journal placeholder, sameReport,
      sameRecords]
    change Journal.mk _ _ = Journal.mk _ _
    rw [List.append_assoc]
  · rw [List.countP_append]
    have partition : ∀ placeholder,
        ((stub placeholder).absorb construct (rendering placeholder)).partition = _ :=
      fun placeholder => absorb_partition (construct, rendering placeholder) (stub placeholder)
    simp only [partition]
    exact fills _ _ alike.partition

abbrev Construct := Text × (Text → Rendering Fragment)

def Construct.at (placeholder : Text) (construct : Construct) : Text × Rendering Fragment :=
  (construct.1, construct.2 placeholder)

theorem Alike.absorb_all {earlier reported : List Diagnostic} {records : List Record}
    {stub : Text → Stub} (alike : Alike earlier reported records stub) (constructs : List Construct)
    (uniform : ∀ construct ∈ constructs, Uniform FragmentHasGaps construct.2) :
    ∃ reported records, Alike earlier reported records fun placeholder =>
      absorbAll (constructs.map (Construct.at placeholder)) (stub placeholder) := by
  induction constructs generalizing reported records stub with
  | nil => exact ⟨reported, records, alike⟩
  | cons construct constructs ih =>
      obtain ⟨_, _, next⟩ := alike.absorb construct.1 (uniform construct (by simp))
      exact ih next fun other member => uniform other (by simp [member])

def skipped (constructs : List (Text × Rendering Fragment)) : List Text :=
  (constructs.filter fun construct => construct.2.fails).map Prod.fst

theorem skipped_alike (constructs : List Construct)
    (uniform : ∀ construct ∈ constructs, Uniform FragmentHasGaps construct.2) :
    ∃ names, ∀ placeholder, skipped (constructs.map (Construct.at placeholder)) = names := by
  induction constructs with
  | nil => exact ⟨[], fun _ => rfl⟩
  | cons construct constructs ih =>
      obtain ⟨names, later⟩ := ih fun other member => uniform other (by simp [member])
      obtain ⟨_, _, fails, same, -⟩ := report_alike construct.1 (uniform construct (by simp))
      refine ⟨if fails then construct.1 :: names else names, ?_⟩
      intro placeholder
      have here : (construct.at placeholder).2.fails = fails := (same placeholder).2.2
      have others := later placeholder
      unfold skipped at others ⊢
      rw [List.map_cons, List.filter_cons, here]
      cases fails with
      | true => rw [if_pos rfl, if_pos rfl, List.map_cons, others]; rfl
      | false => exact others

def constructsUnder (renderer : Renderer) (extension : Extension) : List Construct :=
  (extension.constants.map fun constant =>
      (constant.name, fun placeholder => constant.render (renderer.withPlaceholder placeholder))) ++
    (extension.functions.map fun function =>
      (function.name, fun placeholder => function.render (renderer.withPlaceholder placeholder))) ++
    (extension.classes.map fun declared =>
      (declared.name, fun placeholder => declared.render (renderer.withPlaceholder placeholder)))

section

variable (renderer : Renderer) (extension : Extension)

theorem constructs_at (placeholder : Text) :
    (constructsUnder renderer extension).map (Construct.at placeholder) =
      constructs (renderer.withPlaceholder placeholder) extension := by
  simp only [constructsUnder, constructs, List.map_append, List.map_map]
  rfl

theorem constructs_uniform :
    ∀ construct ∈ constructsUnder renderer extension, Uniform FragmentHasGaps construct.2 := by
  intro construct member
  rcases List.mem_append.1 member with others | ofClass
  · rcases List.mem_append.1 others with ofConstant | ofFunction
    · obtain ⟨constant, -, rfl⟩ := List.mem_map.1 ofConstant
      exact constant.render_uniform renderer
    · obtain ⟨function, -, rfl⟩ := List.mem_map.1 ofFunction
      exact function.render_uniform renderer
  · obtain ⟨declared, -, rfl⟩ := List.mem_map.1 ofClass
    exact declared.render_uniform renderer

/-- The stubs of an extension for all placeholders: what they report, which constructs they leave
out, their namespaces and the number of their fragments are the same, and their texts have the same
segments, one more than there are new warnings, with the placeholder between neighbours. -/
theorem of_extension_fills (earlier : List Diagnostic) :
    ∃ (segments : List Text) (reported : List Diagnostic) (records : List Record)
      (namespaces : List Text) (fragments : Nat) (omitted : List Text),
      segments.length = reported.countP isWarning + 1 ∧
      ∀ placeholder,
        (ofExtension (renderer.withPlaceholder placeholder) earlier extension).text =
          Text.joinWith placeholder segments ∧
        (ofExtension (renderer.withPlaceholder placeholder) earlier extension).diagnostics =
          earlier ++ reported ∧
        (ofExtension (renderer.withPlaceholder placeholder) earlier extension).records = records ∧
        (ofExtension (renderer.withPlaceholder placeholder) earlier extension).partition.namespaces =
          namespaces ∧
        (ofExtension (renderer.withPlaceholder placeholder) earlier extension).partition.size =
          fragments ∧
        skipped (constructs (renderer.withPlaceholder placeholder) extension) = omitted := by
  have begun : Alike earlier [] [] fun placeholder =>
      start (renderer.withPlaceholder placeholder) earlier extension :=
    ⟨fun _ => by rw [List.append_nil]; rfl, .none⟩
  obtain ⟨reported, records, alike⟩ :=
    begun.absorb_all (constructsUnder renderer extension) (constructs_uniform renderer extension)
  obtain ⟨omitted, sameOmitted⟩ :=
    skipped_alike (constructsUnder renderer extension) (constructs_uniform renderer extension)
  obtain ⟨journal, partition⟩ := alike
  simp only [constructs_at] at journal partition sameOmitted
  obtain ⟨namespaces, fragments, sameOutline⟩ := partition.exists_outline
  obtain ⟨segments, length, joined⟩ := (partition.render renderer).exists_segments
  refine ⟨segments, reported, records ++ [⟨.assembly, .debug, "Rendered " ++ Text.ofNat fragments ++
    " fragments for extension '" ++ extension.name ++ "'"⟩], namespaces, fragments, omitted, length,
    ?_⟩
  intro placeholder
  have kept := absorb_all_renderer (constructs (renderer.withPlaceholder placeholder) extension)
    (start (renderer.withPlaceholder placeholder) earlier extension)
  have named := absorb_all_extension (constructs (renderer.withPlaceholder placeholder) extension)
    (start (renderer.withPlaceholder placeholder) earlier extension)
  have written := congrArg Journal.records (journal placeholder)
  obtain ⟨sameNamespaces, sameSize⟩ := sameOutline placeholder
  refine ⟨?_, congrArg Journal.diagnostics (journal placeholder), ?_, sameNamespaces, sameSize,
    sameOmitted placeholder⟩
  · rw [← joined placeholder]
    exact congrArg (fun renderer : Renderer => Partition.render renderer _) kept
  · have last : (absorbAll (constructs (renderer.withPlaceholder placeholder) extension)
        (start (renderer.withPlaceholder placeholder) earlier extension)).summary =
          ⟨.assembly, .debug, "Rendered " ++ Text.ofNat fragments ++
            " fragments for extension '" ++ extension.name ++ "'"⟩ := by
      rw [summary, sameSize, named]
      rfl
    exact congrArg₂ (fun before record => before ++ [record]) written last

end

end Stub

end Stubwright
