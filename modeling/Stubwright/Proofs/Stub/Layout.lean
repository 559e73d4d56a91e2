import Stubwright.Proofs.Script.Blank
import Stubwright.Proofs.Settings.Reading
import Stubwright.Proofs.Stub.Scopes
import Stubwright.Proofs.Stub.Uniform

/-!
Stubs for every indent of blanks have the same tokens. This holds of every line that is set in, and
passes from the lines to the constructs and from the constructs to the whole stub.
-/

namespace Stubwright

open Script
open Rendering (Uniform)

def Renderer.withIndent (renderer : Renderer) (indent : Text) : Renderer :=
  { renderer with toSettings := renderer.toSettings.withIndent indent }

theorem lead_is_trivia {docComment : Option Text} (hasDoc : HasDoc docComment) (indent : Text)
    (blank : IsBlank indent) : IsTrivia (indent ++ docLines docComment indent) :=
  (is_trivia_spaces indent blank).append (is_trivia_doc_lines docComment indent hasDoc blank)

def YieldsCode (text : Text → Text) : Prop := ∃ code, IsCode code ∧ text = fun _ => code

namespace Parameter

theorem render_each_indent (renderer : Renderer) (site : Site) (indent owner : Text)
    (parameters : List Parameter) :
    renderEach (renderer.withIndent indent) site owner parameters =
      renderEach renderer site owner parameters := by
  induction parameters with
  | nil => rfl
  | cons parameter parameters ih =>
      rw [renderEach, renderEach, ih]
      rfl

theorem render_list_indent (renderer : Renderer) (site : Site) (indent owner : Text)
    (parameters : List Parameter) :
    renderList (renderer.withIndent indent) site owner parameters =
      renderList renderer site owner parameters := by
  rw [renderList, renderList, render_each_indent]

end Parameter

section

variable (renderer : Renderer) (closed : IsClosed renderer.placeholder)

theorem type_before_yields {type : Option TypeRef} (types : HasTypes type) :
    Uniform (fun _ text => text = fun _ => typeLead type) fun _ => typeBefore type := by
  apply Uniform.fixed
  intro text rendered
  rw [type_before_outcome type types] at rendered
  rw [Except.ok.inj rendered]

theorem return_clause_yields {type : Option TypeRef} (types : HasTypes type) :
    Uniform (fun _ text => text = fun _ => returnText type) fun _ => returnClause type := by
  apply Uniform.fixed
  intro text rendered
  rw [return_clause_outcome type types] at rendered
  rw [Except.ok.inj rendered]

include closed

theorem Parameter.render_list_yields (site : Site) (owner : Text) (parameters : List Parameter)
    (wellFormed : ∀ parameter ∈ parameters, parameter.IsWellFormed) :
    Uniform (fun _ => YieldsCode) fun indent =>
      renderList (renderer.withIndent indent) site owner parameters := by
  simp only [render_list_indent]
  apply Uniform.fixed
  intro text rendered
  exact ⟨text,
    render_list_is_code renderer closed site owner parameters wellFormed text rendered, rfl⟩

theorem ClassLike.constant_line_steady (owner : Text) (constant : Constant)
    (isWord : IsWord constant.name) :
    Uniform (fun _ => Steady .idle) fun indent =>
      constantLine (renderer.withIndent indent) owner constant := by
  have value : Uniform (fun _ text => ∃ known, IsClosed known ∧ text = fun _ => known) fun _ =>
      ValueRef.render renderer .classConstant (owner ++ "::" ++ constant.name)
        (some constant.value) :=
    .fixed fun text rendered =>
      ⟨text, ValueRef.render_closed renderer closed _ _ _ text rendered, rfl⟩
  apply value.bind
  rintro count _ ⟨known, knownClosed, rfl⟩
  apply Uniform.pure
  have keyword : IsCode "const " := .of_plain (by decide)
  have isCode := keyword.append ((is_code_initialised isWord knownClosed).append
    (.of_plain (by decide) : IsCode ";"))
  apply steady_line (fun indent blank => is_trivia_spaces indent blank) isCode
  intro indent
  simp only [List.append_assoc]
  rfl

theorem Method.render_steady (owner : Text) (inInterface : Bool) (method : Method)
    (wellFormed : method.toFunction.IsWellFormed IsWord) :
    Uniform (fun _ => Steady .idle) fun indent =>
      method.render (renderer.withIndent indent) owner inInterface := by
  apply (Parameter.render_list_yields renderer closed _ _ method.parameters
    wellFormed.parameters).bind
  rintro count _ ⟨parameters, parametersCode, rfl⟩
  apply (return_clause_yields wellFormed.returnType).bind
  rintro more _ rfl
  apply Uniform.pure
  have keyword : IsCode "function " := .of_plain (by decide)
  have head := (((method.modifiers_are_code inInterface).append keyword).append
    (is_code_word wellFormed.name)).append (.of_plain (by decide) : IsCode " (")
  have isCode := (((head.append parametersCode).append (.of_plain (by decide) : IsCode ")")).append
    (return_text_is_code wellFormed.returnType)).append
      (line_end_is_code (method.isAbstract || inInterface))
  apply steady_line (lead_is_trivia wellFormed.doc) isCode
  intro indent
  rw [ending_eq]
  simp only [List.append_assoc]
  rfl

omit closed in
theorem Property.render_steady (property : Property) (wellFormed : property.IsWellFormed) :
    Uniform (fun _ => Steady .idle) fun indent => property.render (renderer.withIndent indent) := by
  apply (type_before_yields wellFormed.type).bind
  rintro count _ rfl
  apply Uniform.pure
  have head := (property.modifiers_are_code.append (type_lead_is_code wellFormed.type)).append
    (.of_plain (by decide) : IsCode "$")
  have isCode := (head.append (is_code_word wellFormed.name)).append
    (.of_plain (by decide) : IsCode ";")
  apply steady_line (lead_is_trivia wellFormed.doc) isCode
  intro indent
  simp only [List.append_assoc]
  rfl

end

/-- A fragment for every indent. It belongs to the same scope for all of them. -/
def FragmentSteady (fragment : Text → Fragment) : Prop :=
  ∃ scope text, (∀ name, scope = some name → IsQualified name) ∧ SteadyCode text ∧
    fragment = fun indent => ⟨scope, text indent⟩

/-- Whether the names, comments and types of a class are those of the language. Other than for a
well-formed class, a trait may have a parent. -/
def ClassLike.IsSpelled (declared : ClassLike) : Prop :=
  ({ declared with kind := .ordinary } : ClassLike).IsWellFormed

instance (declared : ClassLike) : Decidable declared.IsSpelled :=
  inferInstanceAs (Decidable ({ declared with kind := .ordinary } : ClassLike).IsWellFormed)

theorem ClassLike.IsWellFormed.is_spelled {declared : ClassLike}
    (wellFormed : declared.IsWellFormed) : declared.IsSpelled :=
  { wellFormed with trait_parents := nofun }

section

variable (renderer : Renderer) (closed : IsClosed renderer.placeholder)
include closed

theorem Constant.render_steady (constant : Constant) (isName : IsGlobalName constant.name) :
    Uniform (fun _ => FragmentSteady) fun indent =>
      constant.render (renderer.withIndent indent) := by
  have value : Uniform (fun _ text => ∃ known, IsClosed known ∧ text = fun _ => known) fun _ =>
      constant.value? renderer :=
    .fixed fun text rendered => ⟨text, constant.value_closed renderer closed text rendered, rfl⟩
  obtain ⟨short, scope⟩ := QualifiedName.of_text_names isName
  apply value.bind
  rintro count _ ⟨known, knownClosed, rfl⟩
  apply Uniform.pure
  have keyword : IsCode "const " := .of_plain (by decide)
  have isCode := keyword.append ((is_code_initialised short.1 knownClosed).append
    (.of_plain (by decide) : IsCode ";"))
  simp only [← List.append_assoc] at isCode
  exact ⟨_, _, scope, steady_code isCode, rfl⟩

theorem Function.render_steady (function : Function)
    (wellFormed : function.IsWellFormed IsGlobalName) :
    Uniform (fun _ => FragmentSteady) fun indent =>
      function.render (renderer.withIndent indent) := by
  obtain ⟨short, scope⟩ := QualifiedName.of_text_names wellFormed.name
  apply (Parameter.render_list_yields renderer closed _ _ function.parameters
    wellFormed.parameters).bind
  rintro count _ ⟨parameters, parametersCode, rfl⟩
  apply (return_clause_yields wellFormed.returnType).bind
  rintro more _ rfl
  apply Uniform.pure
  have keyword : IsCode "function " := .of_plain (by decide)
  have head := (keyword.append (is_code_word short.1)).append (.of_plain (by decide) : IsCode "(")
  have isCode := (((head.append parametersCode).append (.of_plain (by decide) : IsCode ")")).append
    (return_text_is_code wellFormed.returnType)).append (.of_plain (by decide) : IsCode emptyBody)
  have lead : Steady .idle fun _ => docLines function.docComment "" :=
    steady_trivia fun _ _ => is_trivia_doc_lines _ _ wellFormed.doc (by decide)
  have steady := (steady_code isCode).prepend lead
  simp only [← List.append_assoc] at steady
  exact ⟨_, _, scope, steady, rfl⟩

namespace ClassLike

omit closed in
theorem trait_line_steady {name : Text} (isName : IsGlobalName name) :
    Steady .idle fun indent => traitLine (renderer.withIndent indent) name := by
  have keyword : IsCode "use " := .of_plain (by decide)
  have isCode := (keyword.append (is_code_rooted isName)).append
    (.of_plain (by decide) : IsCode ";")
  apply steady_line (fun indent blank => is_trivia_spaces indent blank) isCode
  intro indent
  simp only [traitLine, List.append_assoc]
  rfl

omit closed in
theorem render_all_steady {α : Type} (render : Text → α → Rendering Text) (members : List α)
    (each : ∀ member ∈ members,
      Uniform (fun _ => Steady .idle) fun indent => render indent member) :
    Uniform (fun _ => Steady .idle) fun indent => renderAll (render indent) members :=
  render_all_uniform (steady_trivia fun _ _ _ => rfl)
    (fun _ _ _ _ before after => before.append after) render members each

theorem render_steady (declared : ClassLike) (spelled : declared.IsSpelled) :
    Uniform (fun _ => FragmentSteady) fun indent =>
      declared.render (renderer.withIndent indent) := by
  obtain ⟨short, scope⟩ := QualifiedName.of_text_names spelled.name
  apply (render_all_steady _ declared.constants fun constant member =>
    constant_line_steady renderer closed _ constant (spelled.constants constant member)).bind
  intro first constants constantLines
  apply (render_all_steady _ declared.properties fun property member =>
    property.render_steady renderer (spelled.properties property member)).bind
  intro second properties propertyLines
  apply (render_all_steady _ declared.ownMethods fun method member =>
    method.render_steady renderer closed _ _
      (spelled.methods method (List.mem_of_mem_filter member))).bind
  intro third methods methodLines
  apply Uniform.pure
  have traits := Steady.flat_map declared.traits
    (fun indent => traitLine (renderer.withIndent indent))
    fun name member => trait_line_steady renderer (spelled.traits name member)
  have header := declared.header_is_code spelled.name spelled.parents spelled.interfaces
  have opened := (steady_code (header.append (.of_plain (by decide) : IsCode " \x7b"))).line
  have lead : Steady .idle fun _ => docLines declared.docComment "" :=
    steady_trivia fun _ _ => is_trivia_doc_lines _ _ spelled.doc (by decide)
  have lines := ((((lead.append opened).append traits).append constantLines).append
    propertyLines).append methodLines
  have whole := (steady_code (.of_plain (by decide) : IsCode "\x7d")).prepend lines
  refine ⟨_, _, scope, whole, ?_⟩
  funext indent
  simp only [List.append_assoc]
  rfl

end ClassLike

end

def FragmentsSteady (fragments : Text → List Fragment) : Prop :=
  ∃ items : List (Option Text × (Text → Text)),
    (∀ item ∈ items, (∀ name, item.1 = some name → IsQualified name) ∧ SteadyCode item.2) ∧
      fragments = fun indent => items.map fun item => ⟨item.1, item.2 indent⟩

namespace FragmentsSteady

theorem append {first second : Text → List Fragment} (before : FragmentsSteady first)
    (after : FragmentsSteady second) :
    FragmentsSteady fun indent => first indent ++ second indent := by
  obtain ⟨items, each, rfl⟩ := before
  obtain ⟨more, eachMore, rfl⟩ := after
  refine ⟨items ++ more, ?_, ?_⟩
  · intro item among
    rcases List.mem_append.1 among with here | there
    · exact each item here
    · exact eachMore item there
  · simp only [List.map_append]

/-- Whether a construct leaves a fragment does not depend on the indent. -/
theorem of_uniform {rendering : Text → Rendering Fragment} (name : Text)
    (uniform : Uniform (fun _ => FragmentSteady) rendering) :
    FragmentsSteady fun indent => (Stub.fragment? (name, rendering indent)).toList := by
  cases uniform with
  | failed cause journal same =>
      refine ⟨[], List.forall_mem_nil _, ?_⟩
      funext indent
      rw [Stub.fragment?, Rendering.outcome, same indent]
      rfl
  | rendered value journal same steady =>
      obtain ⟨scope, text, qualified, steadyText, rfl⟩ := steady
      refine ⟨[(scope, text)], List.forall_mem_singleton.2 ⟨qualified, steadyText⟩, ?_⟩
      funext indent
      rw [Stub.fragment?, Rendering.outcome, same indent]
      rfl

theorem of_constructs {α : Type} (name : α → Text) (render : Text → α → Rendering Fragment)
    (items : List α)
    (each : ∀ item ∈ items, Uniform (fun _ => FragmentSteady) fun indent => render indent item) :
    FragmentsSteady fun indent =>
      (items.map fun item => (name item, render indent item)).filterMap Stub.fragment? := by
  induction items with
  | nil => exact ⟨[], List.forall_mem_nil _, rfl⟩
  | cons item items ih =>
      have later := ih fun other member => each other (by simp [member])
      have whole := (of_uniform (name item) (each item (by simp))).append later
      simp only [List.map_cons, List.filterMap_cons]
      convert whole using 2 with indent
      cases Stub.fragment? (name item, render indent item) <;> rfl

end FragmentsSteady

namespace Partition

section

variable (texts : List (Text → Text)) (each : ∀ text ∈ texts, SteadyCode text)
include each

theorem block_steady {heading : Text} (isCode : IsCode heading) :
    SteadyCode fun indent => block heading (texts.map fun text => text indent) := by
  have opened := (steady_code (isCode.append (.of_plain (by decide) : IsCode " \x7b"))).line
  have inside := opened.append (SteadyCode.joined texts each).line
  have whole := (steady_code (.of_plain (by decide) : IsCode "\x7d")).prepend inside
  simp only [List.append_assoc] at whole
  simp only [block, List.append_assoc]
  exact whole

/-- Which form the global scope takes does not depend on the indent. -/
theorem global_block_steady (names : List Text) (scopes : Text → List (Text × List Text))
    (same : ∀ indent, (scopes indent).map Prod.fst = names) :
    ∃ blocks : List (Text → Text), (∀ block ∈ blocks, SteadyCode block) ∧
      ∀ indent, globalBlock ⟨scopes indent, texts.map fun text => text indent⟩ =
        blocks.map fun block => block indent := by
  have empty : ∀ indent, (scopes indent).isEmpty = names.isEmpty := by
    intro indent
    rw [← same indent, List.isEmpty_map]
  simp only [globalBlock, List.isEmpty_map, empty]
  by_cases nothing : texts.isEmpty = true
  · exact ⟨[], List.forall_mem_nil _, fun _ => if_pos nothing⟩
  by_cases alone : names.isEmpty = true
  · refine ⟨_, List.forall_mem_singleton.2 (SteadyCode.joined texts each), fun indent => ?_⟩
    rw [if_neg nothing, if_pos alone]
    rfl
  · have word : IsCode "namespace" := .of_plain (by decide)
    refine ⟨_, List.forall_mem_singleton.2 (block_steady texts each word), fun indent => ?_⟩
    rw [if_neg nothing, if_neg alone]
    rfl

end

def textsFor (scope : Option Text) (items : List (Option Text × (Text → Text))) :
    List (Text → Text) :=
  (items.filter fun item => item.1 = scope).map Prod.snd

/-- Which scopes there are does not depend on the indent, and each holds its texts for it. -/
theorem of_fragments_at (items : List (Option Text × (Text → Text))) (indent : Text) :
    ofFragments (items.map fun item => ⟨item.1, item.2 indent⟩) =
      ⟨(items.filterMap Prod.fst).eraseDups.map fun name =>
        (name, (textsFor (some name) items).map fun text => text indent),
        (textsFor none items).map fun text => text indent⟩ := by
  have seen : firstSeen (items.map fun item => ⟨item.1, item.2 indent⟩) =
      (items.filterMap Prod.fst).eraseDups := by
    rw [firstSeen, List.filterMap_map]
    rfl
  have texts : ∀ scope, textsIn scope (items.map fun item => ⟨item.1, item.2 indent⟩) =
      (textsFor scope items).map fun text => text indent := by
    intro scope
    rw [textsIn, List.filter_map, List.map_map, textsFor, List.map_map]
    rfl
  rw [of_fragments_eq, described, seen, texts none]
  simp only [texts]

theorem blocks_steady {fragments : Text → List Fragment} (steady : FragmentsSteady fragments) :
    ∃ blocks : List (Text → Text), (∀ block ∈ blocks, SteadyCode block) ∧
      ∀ indent, (ofFragments (fragments indent)).blocks = blocks.map fun block => block indent := by
  obtain ⟨items, each, rfl⟩ := steady
  have steadyTexts : ∀ scope, ∀ text ∈ textsFor scope items, SteadyCode text := by
    intro scope text member
    obtain ⟨item, among, rfl⟩ := List.mem_map.1 member
    exact (each item (List.mem_of_mem_filter among)).2
  let names := (items.filterMap Prod.fst).eraseDups
  obtain ⟨globals, steadyGlobals, sameGlobals⟩ :=
    global_block_steady (textsFor none items) (steadyTexts none) names
      (fun indent => names.map fun name =>
        (name, (textsFor (some name) items).map fun text => text indent)) (by
      intro indent
      rw [List.map_map]
      exact List.map_id names)
  refine ⟨(names.map fun name indent =>
    block ("namespace " ++ name) ((textsFor (some name) items).map fun text => text indent)) ++
      globals, ?_, ?_⟩
  · intro steadyBlock member
    rcases List.mem_append.1 member with named | global
    · obtain ⟨name, seen, rfl⟩ := List.mem_map.1 named
      obtain ⟨item, among, same⟩ := List.mem_filterMap.1 (List.mem_eraseDups.1 seen)
      have keyword : IsCode "namespace " := .of_plain (by decide)
      exact block_steady _ (steadyTexts (some name))
        (keyword.append (is_code_qualified ((each item among).1 name same)))
    · exact steadyGlobals steadyBlock global
  · intro indent
    rw [of_fragments_at, blocks, sameGlobals, List.map_append, List.map_map, List.map_map]
    rfl

/-- The notice is in a comment, whatever the notice is. -/
theorem header_opens {settings : Settings} (isNotice : Settings.isNotice settings.notice = true) :
    ∃ lead, IsTrivia (.char '\n' :: lead) ∧
      header settings = Text.ofString "<?php" ++ .char '\n' :: lead := by
  have comment := is_trivia_comment
    (Text.ofString "*\n * " ++ settings.notice ++ Text.ofString "\n ") (header_unclosed isNotice)
  have lineBreak : IsTrivia (Text.ofString "\n") := is_trivia_spaces _ (by decide)
  refine ⟨Text.ofString "/*" ++
    (Text.ofString "*\n * " ++ settings.notice ++ Text.ofString "\n ") ++
    Text.ofString "*/" ++ Text.ofString "\n\n", ?_, ?_⟩
  · exact lineBreak.append (comment.append is_trivia_blank_line)
  · rw [header]
    simp only [List.append_assoc]
    rfl

/-- The header adds the opening tag to the tokens of the code below it, and nothing else. -/
theorem tokens_below_header {settings : Settings}
    (isNotice : Settings.isNotice settings.notice = true) (code : Text) :
    fileTokens (header settings ++ code) = Text.ofString "<?php" :: tokens code := by
  obtain ⟨lead, isTrivia, opens⟩ := header_opens isNotice
  rw [opens, List.append_assoc]
  change Text.ofString "<?php" :: tokens (.char '\n' :: lead ++ code) = _
  rw [tokens_after (run_trivia isTrivia), List.nil_append]

theorem render_steady {settings : Settings} (isNotice : Settings.isNotice settings.notice = true)
    {fragments : Text → List Fragment} (steady : FragmentsSteady fragments) :
    ∃ found, ∀ indent, IsBlank indent →
      fileTokens ((ofFragments (fragments indent)).render (settings.withIndent indent)) =
        found := by
  obtain ⟨lead, isTrivia, opens⟩ := header_opens isNotice
  obtain ⟨texts, each, same⟩ := blocks_steady steady
  have header_eq : ∀ indent, header (settings.withIndent indent) =
      Text.ofString "<?php" ++ .char '\n' :: lead := fun _ => opens
  have body : ∃ body : Text → Text, Steady .idle body ∧ ∀ indent,
      (ofFragments (fragments indent)).render (settings.withIndent indent) =
        Text.ofString "<?php" ++ (.char '\n' :: lead ++ body indent) := by
    cases texts with
    | nil =>
        refine ⟨fun _ => [], steady_trivia fun _ _ _ => rfl, fun indent => ?_⟩
        rw [render, same, List.map_nil, List.isEmpty_nil, if_pos rfl, header_eq, List.append_nil]
    | cons first others =>
        refine ⟨_, (SteadyCode.joined (first :: others) each).line, fun indent => ?_⟩
        rw [render, same, List.map_cons, List.isEmpty_cons, if_neg (by simp), header_eq]
        simp only [List.append_assoc]
  obtain ⟨body, steadyBody, written⟩ := body
  obtain ⟨found, ran⟩ := (steady_trivia fun _ _ => isTrivia).append steadyBody
  refine ⟨Text.ofString "<?php" :: found, ?_⟩
  intro indent blank
  have taken : tokens (.char '\n' :: lead ++ body indent) = found := by
    have begun : run .idle (.char '\n' :: lead ++ body indent) = (found, .idle) := ran indent blank
    rw [tokens, begun]
    exact List.append_nil found
  rw [written, ← taken]
  rfl

end Partition

namespace Extension

structure IsSpelled (extension : Extension) : Prop where
  constants : ∀ constant ∈ extension.constants, IsGlobalName constant.name
  functions : ∀ function ∈ extension.functions, function.IsWellFormed IsGlobalName
  classes : ∀ declared ∈ extension.classes, declared.IsSpelled

instance (extension : Extension) : Decidable extension.IsSpelled :=
  decidable_of_iff
    ((∀ constant ∈ extension.constants, IsGlobalName constant.name) ∧
      (∀ function ∈ extension.functions, function.IsWellFormed IsGlobalName) ∧
      ∀ declared ∈ extension.classes, declared.IsSpelled)
    ⟨fun ⟨constants, functions, classes⟩ => ⟨constants, functions, classes⟩,
      fun ⟨constants, functions, classes⟩ => ⟨constants, functions, classes⟩⟩

theorem fragments_steady {renderer : Renderer} (closed : IsClosed renderer.placeholder)
    {extension : Extension} (spelled : extension.IsSpelled) :
    FragmentsSteady fun indent =>
      (Stub.constructs (renderer.withIndent indent) extension).filterMap Stub.fragment? := by
  have constants := FragmentsSteady.of_constructs Constant.name
    (fun indent => Constant.render (renderer.withIndent indent)) extension.constants
    fun constant member =>
      constant.render_steady renderer closed (spelled.constants constant member)
  have functions := FragmentsSteady.of_constructs Function.name
    (fun indent => Function.render (renderer.withIndent indent)) extension.functions
    fun function member =>
      function.render_steady renderer closed (spelled.functions function member)
  have classes := FragmentsSteady.of_constructs ClassLike.name
    (fun indent => ClassLike.render (renderer.withIndent indent)) extension.classes
    fun declared member =>
      declared.render_steady renderer closed (spelled.classes declared member)
  have all := (constants.append functions).append classes
  simp only [← List.filterMap_append] at all
  exact all

end Extension

theorem Stub.tokens_steady {renderer : Renderer} (closed : IsClosed renderer.placeholder)
    (isNotice : Settings.isNotice renderer.notice = true) {extension : Extension}
    (spelled : extension.IsSpelled) (earlier : List Diagnostic) :
    ∃ found, ∀ indent, IsBlank indent →
      fileTokens (ofExtension (renderer.withIndent indent) earlier extension).text = found := by
  have fragments := Extension.fragments_steady closed spelled
  obtain ⟨found, same⟩ := Partition.render_steady isNotice fragments
  refine ⟨found, fun indent blank => ?_⟩
  rw [of_extension_text]
  exact same indent blank

end Stubwright
