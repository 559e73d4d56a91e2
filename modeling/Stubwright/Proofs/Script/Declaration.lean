import Stubwright.Proofs.Script.Member

/-!
Constants, functions and classes belong to the grammar, and reading a declaration gives the symbol
it declares, with the names it refers to and the names of its members in their order.
-/

namespace Stubwright

open Script

/-- A name that may be qualified. Marks of the root namespace in front of it carry no meaning. -/
def IsGlobalName (name : Text) : Prop := IsQualified (QualifiedName.bare name)

instance (name : Text) : Decidable (IsGlobalName name) :=
  inferInstanceAs (Decidable (IsQualified (QualifiedName.bare name)))

namespace Script

section

variable {lead : Text} (isTrivia : IsTrivia lead) (text : Text)
include isTrivia

theorem declaration_skips : declaration (lead ++ text) = declaration text :=
  bind_congr _ (word_skips isTrivia text)

end

end Script

namespace Constant

def symbol (constant : Constant) : Script.Symbol :=
  .constant (QualifiedName.ofText constant.name).short

theorem value_cases (renderer : Renderer) (constant : Constant) (text : Text)
    (rendered : (constant.value? renderer).outcome = .ok text) :
    (∃ known, Literal.ofValue (renderer.room .constant) known = .ok text) ∨
      text = renderer.placeholder := by
  unfold value? at rendered
  split at rendered
  · exact .inl ⟨_, rendered⟩
  · exact ValueRef.render_cases renderer _ _ _ text rendered

theorem value_literal (renderer : Renderer) (constant : Constant)
    (placeholder : IsLiteral renderer.placeholder) (text : Text)
    (rendered : (constant.value? renderer).outcome = .ok text) : IsLiteral text := by
  rcases value_cases renderer constant text rendered with ⟨known, accepted⟩ | rfl
  · exact is_literal_of_value accepted
  · exact placeholder

theorem render_scope (renderer : Renderer) (constant : Constant) (fragment : Fragment)
    (rendered : (constant.render renderer).outcome = .ok fragment) :
    fragment.scope = (QualifiedName.ofText constant.name).scope := by
  rw [render, Rendering.bind_outcome] at rendered
  obtain ⟨value, _, written⟩ := bind_ok_iff.1 rendered
  rw [← Except.ok.inj written]

theorem declaration_reads (renderer : Renderer) (constant : Constant)
    (placeholder : IsLiteral renderer.placeholder) (isName : IsGlobalName constant.name)
    (fragment : Fragment) (rendered : (constant.render renderer).outcome = .ok fragment)
    (suffix : Text) : declaration (fragment.text ++ suffix) = some (constant.symbol, suffix) := by
  rw [render, Rendering.bind_outcome] at rendered
  obtain ⟨value, valueRendered, written⟩ := bind_ok_iff.1 rendered
  have isLiteral := value_literal renderer constant placeholder value valueRendered
  have short := (QualifiedName.of_text_names isName).1
  have afterName : EndsWord (Text.ofString "=" ++ value ++ .char ';' :: suffix) := .of_cons _ rfl
  have found := name_append short afterName
  rw [← name_skips is_trivia_blank] at found
  have ends : Literal.Ends (.char ';' :: suffix) := ends_of_cons suffix (by decide)
  have text : fragment.text ++ suffix = Text.ofString "const " ++
      ((QualifiedName.ofText constant.name).short ++
        (Text.ofString "=" ++ value ++ .char ';' :: suffix)) := by
    rw [← Except.ok.inj written]
    simp only [List.append_assoc]
    rfl
  have start : ∀ rest, declaration (Text.ofString "const " ++ rest) =
      Script.constant (Text.ofString " " ++ rest) := fun _ => rfl
  rw [text, start, Script.constant, bind_of _ found, bind_of _ (initialiser_reads isLiteral ends),
    bind_of _ (symbol_cons _ rfl (by decide))]
  rfl

end Constant

namespace Function

def symbol (function : Function) : Script.Symbol :=
  .function (QualifiedName.ofText function.name).short
    (function.parameters.map Parameter.name)

theorem render_scope (renderer : Renderer) (function : Function) (fragment : Fragment)
    (rendered : (function.render renderer).outcome = .ok fragment) :
    fragment.scope = (QualifiedName.ofText function.name).scope := by
  rw [render, Rendering.bind_outcome] at rendered
  obtain ⟨parameters, _, rest⟩ := bind_ok_iff.1 rendered
  rw [Rendering.bind_outcome] at rest
  obtain ⟨returns, _, written⟩ := bind_ok_iff.1 rest
  rw [← Except.ok.inj written]

theorem empty_body_reads (suffix : Text) :
    emptyBraces (emptyBody ++ suffix) = some ((), suffix) ∧ EndsType (emptyBody ++ suffix) ∧
      Script.returnType (emptyBody ++ suffix) = none :=
  ⟨rfl, ⟨.of_cons _ rfl (by decide), rfl, rfl⟩, rfl⟩

theorem declaration_reads (renderer : Renderer) (function : Function)
    (placeholder : IsLiteral renderer.placeholder)
    (wellFormed : function.IsWellFormed IsGlobalName) (fragment : Fragment)
    (rendered : (function.render renderer).outcome = .ok fragment) (suffix : Text) :
    declaration (fragment.text ++ suffix) = some (function.symbol, suffix) := by
  rw [render, Rendering.bind_outcome] at rendered
  obtain ⟨parameters, listRendered, rest⟩ := bind_ok_iff.1 rendered
  rw [Rendering.bind_outcome,
    return_clause_outcome function.returnType wellFormed.returnType] at rest
  have written := Except.ok.inj rest
  obtain ⟨ending, endsType, noReturn⟩ := empty_body_reads suffix
  have short := (QualifiedName.of_text_names wellFormed.name).1
  have lead := is_trivia_doc_lines function.docComment "" wellFormed.doc (by decide)
  have listRead := Parameter.parameters_read renderer _ function.name function.parameters
    placeholder wellFormed.parameters parameters listRendered
    (returnText function.returnType ++ (emptyBody ++ suffix))
  have afterName : EndsWord (.char '(' :: (parameters ++ .char ')' ::
      (returnText function.returnType ++ (emptyBody ++ suffix)))) := .of_cons _ rfl
  have found := name_append short afterName
  rw [← name_skips is_trivia_blank] at found
  have returnRead :=
    maybe_return_type_reads function.returnType wellFormed.returnType endsType noReturn
  have text : fragment.text ++ suffix = docLines function.docComment "" ++
      (Text.ofString "function " ++ ((QualifiedName.ofText function.name).short ++
        (.char '(' :: (parameters ++ .char ')' ::
          (returnText function.returnType ++ (emptyBody ++ suffix)))))) := by
    rw [← written]
    simp only [List.append_assoc]
    rfl
  have start : ∀ rest, declaration (Text.ofString "function " ++ rest) =
      Script.function (Text.ofString " " ++ rest) := fun _ => rfl
  rw [text, declaration_skips lead, start, Script.function, bind_of _ found, bind_of _ listRead,
    bind_of _ returnRead, bind_of _ ending]
  rfl

end Function

namespace ClassLike

def extended (declared : ClassLike) : List Text :=
  match declared.kind with
  | .interface => declared.interfaces.map QualifiedName.bare
  | .ordinary => declared.parents.map QualifiedName.bare
  | .trait => []

def implemented (declared : ClassLike) : List Text :=
  match declared.kind with
  | .ordinary => declared.interfaces.map QualifiedName.bare
  | _ => []

/-- What a class declares itself: the methods that it inherits are not among its members. -/
def members (declared : ClassLike) : List Member :=
  (declared.traits.map fun name => .trait (QualifiedName.bare name)) ++
    (declared.constants.map fun constant => .constant constant.name) ++
    (declared.properties.map fun property => .property property.name) ++
    (declared.ownMethods.map fun method =>
      .method method.name (method.parameters.map Parameter.name))

def symbol (declared : ClassLike) : Script.Symbol :=
  .classLike declared.kind (QualifiedName.ofText declared.name).short declared.extended
    declared.implemented declared.members

structure IsWellFormed (declared : ClassLike) : Prop where
  name : IsGlobalName declared.name
  doc : HasDoc declared.docComment
  parents : ∀ name ∈ declared.parents, IsGlobalName name
  trait_parents : declared.kind = .trait → declared.parents = []
  interfaces : ∀ name ∈ declared.interfaces, IsGlobalName name
  traits : ∀ name ∈ declared.traits, IsGlobalName name
  constants : ∀ constant ∈ declared.constants, IsWord constant.name
  properties : ∀ property ∈ declared.properties, property.IsWellFormed
  methods : ∀ method ∈ declared.methods, method.toFunction.IsWellFormed IsWord

instance (declared : ClassLike) : Decidable declared.IsWellFormed :=
  decidable_of_iff
    (IsGlobalName declared.name ∧ HasDoc declared.docComment ∧
      (∀ name ∈ declared.parents, IsGlobalName name) ∧
      (declared.kind = .trait → declared.parents = []) ∧
      (∀ name ∈ declared.interfaces, IsGlobalName name) ∧
      (∀ name ∈ declared.traits, IsGlobalName name) ∧
      (∀ constant ∈ declared.constants, IsWord constant.name) ∧
      (∀ property ∈ declared.properties, property.IsWellFormed) ∧
      ∀ method ∈ declared.methods, method.toFunction.IsWellFormed IsWord)
    ⟨fun ⟨a, b, c, d, e, f, g, h, i⟩ => ⟨a, b, c, d, e, f, g, h, i⟩,
      fun ⟨a, b, c, d, e, f, g, h, i⟩ => ⟨a, b, c, d, e, f, g, h, i⟩⟩

theorem rooted_reads {name : Text} (isName : IsGlobalName name) {suffix : Text}
    (ends : EndsName suffix) :
    reference (QualifiedName.rooted name ++ suffix) = some (QualifiedName.bare name, suffix) :=
  reference_append isName ends

theorem references_read (names : List Text) (some_name : names ≠ [])
    (globals : ∀ name ∈ names, IsGlobalName name) {rest : Text} (ends : EndsName rest)
    (stops : Script.symbol ',' rest = none) :
    separated reference (Text.ofString " " ++ (references names ++ rest)) =
      some (names.map QualifiedName.bare, rest) := by
  obtain ⟨first, others, rfl⟩ := List.exists_cons_of_ne_nil some_name
  have start : separated reference (Text.ofString " " ++ (references (first :: others) ++ rest)) =
      separated reference (references (first :: others) ++ rest) :=
    bind_congr _ (reference_skips is_trivia_blank _)
  have read := separated_reads (reference_skips is_trivia_blank) EndsName
    (fun _ => .of_cons _ rfl (by decide))
    (QualifiedName.rooted first, QualifiedName.bare first)
    (others.map fun name => (QualifiedName.rooted name, QualifiedName.bare name))
    (by
      intro piece among suffix following
      rcases List.mem_cons.1 among with rfl | later
      · exact rooted_reads (globals first (by simp)) following
      · obtain ⟨name, member, rfl⟩ := List.mem_map.1 later
        exact rooted_reads (globals name (by simp [member])) following)
    ends stops
  rw [List.map_cons, List.map_cons, List.map_map, List.map_map] at read
  rw [start]
  exact read

/-- References after their keyword, and none where the keyword is missing. -/
theorem clause_reads (keyword : Text) (isWord : IsWord keyword) (names : List Text)
    (globals : ∀ name ∈ names, IsGlobalName name) {rest : Text} (ends : EndsName rest)
    (stops : Script.symbol ',' rest = none) (other : Script.keyword keyword rest = none) :
    Script.references keyword (clause keyword names ++ rest) =
      some (names.map QualifiedName.bare, rest) := by
  by_cases nothing : names = []
  · subst nothing
    rw [Script.references, or_none]
    · rfl
    · exact bind_none _ other
  · have text : clause keyword names ++ rest = Text.ofString " " ++
        (keyword ++ (Text.ofString " " ++ (references names ++ rest))) := by
      rw [clause, Text.when, if_pos nothing]
      simp only [List.append_assoc]
    have afterWord : EndsWord (Text.ofString " " ++ (references names ++ rest)) := .of_cons _ rfl
    have found := keyword_append isWord afterWord
    rw [← keyword_skips is_trivia_blank] at found
    rw [text, Script.references]
    apply or_of
    rw [bind_of _ found, references_read names nothing globals ends stops]

theorem clause_ends_name (keyword : Text) (names : List Text) {rest : Text}
    (ends : EndsName rest) : EndsName (clause keyword names ++ rest) := by
  rw [clause, Text.when]
  split
  · exact .of_cons _ rfl (by decide)
  · exact ends

theorem parent_reads (declared : ClassLike)
    (globals : ∀ name ∈ declared.parents, IsGlobalName name) {rest : Text} (ends : EndsName rest)
    (other : keyword "extends" rest = none) :
    Script.parent (clause "extends" declared.parents ++ rest) =
      some (declared.parents.map QualifiedName.bare, rest) := by
  have alone : declared.parents = [] ∨ ∃ name, declared.parents = [name] := by
    unfold parents
    split
    · exact .inl rfl
    · split
      · exact .inl rfl
      · exact .inr ⟨_, rfl⟩
  rcases alone with nothing | ⟨name, single⟩
  · rw [nothing, Script.parent, or_none]
    · rfl
    · exact bind_none _ other
  · have isName := globals name (by simp [single])
    have text : clause "extends" [name] ++ rest = Text.ofString " extends " ++
        (QualifiedName.rooted name ++ rest) := by
      rw [clause, Text.when, if_pos (by simp), references, List.map_singleton, Text.joinWith,
        List.intercalate_singleton]
      simp only [List.append_assoc]
      rfl
    have word : keyword "extends" (Text.ofString " extends " ++
        (QualifiedName.rooted name ++ rest)) =
          some ((), Text.ofString " " ++ (QualifiedName.rooted name ++ rest)) := rfl
    have found := rooted_reads isName ends
    rw [← reference_skips is_trivia_blank] at found
    rw [single, text, Script.parent]
    apply or_of
    rw [bind_of _ word, bind_of _ found]
    rfl

section

variable (declared : ClassLike) (wellFormed : declared.IsWellFormed) {lines : Text}
  {members : List Member} (inBody : Lines lines members) (suffix : Text)
include wellFormed inBody

/-- The name, the relations and the body of a class in the narrow sense. -/
theorem ordinary_reads :
    ordinaryClass (Text.ofString " " ++ ((QualifiedName.ofText declared.name).short ++
        (clause "extends" declared.parents ++ (clause "implements" declared.interfaces ++
          (Text.ofString " \x7b\n" ++ (lines ++ .char '\x7d' :: suffix)))))) =
      some (.classLike .ordinary (QualifiedName.ofText declared.name).short
        (declared.parents.map QualifiedName.bare) (declared.interfaces.map QualifiedName.bare)
        members, suffix) := by
  have bodyRead := body_reads inBody suffix
  have atBody : EndsName (Text.ofString " \x7b\n" ++ (lines ++ .char '\x7d' :: suffix)) :=
    .of_cons _ rfl (by decide)
  have interfacesRead := clause_reads "implements" (by decide) declared.interfaces
    wellFormed.interfaces atBody rfl rfl
  have noParent : keyword "extends" (clause "implements" declared.interfaces ++
      (Text.ofString " \x7b\n" ++ (lines ++ .char '\x7d' :: suffix))) = none := by
    rw [clause, Text.when]
    split <;> rfl
  have atInterfaces := clause_ends_name "implements" declared.interfaces atBody
  have parentRead := parent_reads declared wellFormed.parents atInterfaces noParent
  have atParents := clause_ends_name "extends" declared.parents atInterfaces
  have found := name_append (QualifiedName.of_text_names wellFormed.name).1 atParents.1
  rw [← name_skips is_trivia_blank] at found
  rw [ordinaryClass, bind_of _ found, bind_of _ parentRead, bind_of _ interfacesRead,
    bind_of _ bodyRead]
  rfl

theorem interface_reads :
    Script.interface (Text.ofString " " ++ ((QualifiedName.ofText declared.name).short ++
        (clause "extends" declared.interfaces ++
          (Text.ofString " \x7b\n" ++ (lines ++ .char '\x7d' :: suffix))))) =
      some (.classLike .interface (QualifiedName.ofText declared.name).short
        (declared.interfaces.map QualifiedName.bare) [] members, suffix) := by
  have bodyRead := body_reads inBody suffix
  have atBody : EndsName (Text.ofString " \x7b\n" ++ (lines ++ .char '\x7d' :: suffix)) :=
    .of_cons _ rfl (by decide)
  have interfacesRead := clause_reads "extends" (by decide) declared.interfaces
    wellFormed.interfaces atBody rfl rfl
  have atInterfaces := clause_ends_name "extends" declared.interfaces atBody
  have found := name_append (QualifiedName.of_text_names wellFormed.name).1 atInterfaces.1
  rw [← name_skips is_trivia_blank] at found
  rw [Script.interface, bind_of _ found, bind_of _ interfacesRead, bind_of _ bodyRead]
  rfl

theorem trait_reads :
    Script.trait (Text.ofString " " ++ ((QualifiedName.ofText declared.name).short ++
        (Text.ofString " \x7b\n" ++ (lines ++ .char '\x7d' :: suffix)))) =
      some (.classLike .trait (QualifiedName.ofText declared.name).short [] [] members,
        suffix) := by
  have bodyRead := body_reads inBody suffix
  have afterName : EndsWord (Text.ofString " \x7b\n" ++ (lines ++ .char '\x7d' :: suffix)) :=
    .of_cons _ rfl
  have found := name_append (QualifiedName.of_text_names wellFormed.name).1 afterName
  rw [← name_skips is_trivia_blank] at found
  rw [Script.trait, bind_of _ found, bind_of _ bodyRead]
  rfl

end

/-- The words in front of a class say which kind it is of. -/
theorem header_reads (declared : ClassLike) (wellFormed : declared.IsWellFormed) {lines : Text}
    (inBody : Lines lines declared.members) (suffix : Text) :
    declaration (declared.header ++
        (Text.ofString " \x7b\n" ++ (lines ++ .char '\x7d' :: suffix))) =
      some (declared.symbol, suffix) := by
  unfold header modifiers relations symbol extended implemented
  cases kind : declared.kind with
  | ordinary =>
      have start : ∀ rest, declaration (Text.when declared.isAbstract "abstract " ++
          (Text.when declared.isFinal "final " ++ (Text.ofString "class " ++ rest))) =
            ordinaryClass (Text.ofString " " ++ rest) := by
        intro rest
        cases declared.isAbstract <;> cases declared.isFinal <;> rfl
      simp only [List.append_assoc]
      rw [start]
      exact ordinary_reads declared wellFormed inBody suffix
  | interface =>
      have start : ∀ rest, declaration (Text.ofString "interface " ++ rest) =
          Script.interface (Text.ofString " " ++ rest) := fun _ => rfl
      simp only [List.append_assoc]
      rw [start]
      exact interface_reads declared wellFormed inBody suffix
  | trait =>
      have start : ∀ rest, declaration (Text.ofString "trait " ++ rest) =
          Script.trait (Text.ofString " " ++ rest) := fun _ => rfl
      have alone : clause "extends" declared.parents = [] := by
        rw [wellFormed.trait_parents kind]
        rfl
      simp only [List.append_assoc, alone, List.nil_append]
      rw [start]
      exact trait_reads declared wellFormed inBody suffix

def opening (declared : ClassLike) (renderer : Renderer) (constants properties : Text) : Text :=
  docLines declared.docComment "" ++ declared.header ++ " \x7b\n" ++
    declared.traits.flatMap (traitLine renderer) ++ constants ++ properties

theorem render_eq_ok_iff (declared : ClassLike) (renderer : Renderer) {fragment : Fragment} :
    (declared.render renderer).outcome = .ok fragment ↔
      ∃ constants properties methods,
        (renderAll (constantLine renderer (QualifiedName.ofText declared.name).short)
          declared.constants).outcome = .ok constants ∧
        (renderAll (Property.render renderer) declared.properties).outcome = .ok properties ∧
        (renderAll (Method.render renderer (QualifiedName.ofText declared.name).short
          (declared.kind = .interface)) declared.ownMethods).outcome = .ok methods ∧
        fragment = ⟨(QualifiedName.ofText declared.name).scope,
          declared.opening renderer constants properties ++ methods ++ "\x7d"⟩ := by
  rw [render, Rendering.bind_outcome]
  constructor
  · intro rendered
    obtain ⟨constants, constantsRendered, rest⟩ := bind_ok_iff.1 rendered
    rw [Rendering.bind_outcome] at rest
    obtain ⟨properties, propertiesRendered, rest⟩ := bind_ok_iff.1 rest
    rw [Rendering.bind_outcome] at rest
    obtain ⟨methods, methodsRendered, written⟩ := bind_ok_iff.1 rest
    exact ⟨constants, properties, methods, constantsRendered, propertiesRendered, methodsRendered,
      (Except.ok.inj written).symm⟩
  · rintro ⟨constants, properties, methods, constantsRendered, propertiesRendered, methodsRendered,
      rfl⟩
    apply bind_ok_iff.2 ⟨constants, constantsRendered, _⟩
    rw [Rendering.bind_outcome]
    apply bind_ok_iff.2 ⟨properties, propertiesRendered, _⟩
    rw [Rendering.bind_outcome]
    exact bind_ok_iff.2 ⟨methods, methodsRendered, rfl⟩

theorem render_scope (renderer : Renderer) (declared : ClassLike) (fragment : Fragment)
    (rendered : (declared.render renderer).outcome = .ok fragment) :
    fragment.scope = (QualifiedName.ofText declared.name).scope := by
  obtain ⟨constants, properties, methods, _, _, _, rfl⟩ :=
    (render_eq_ok_iff declared renderer).1 rendered
  rfl

theorem declaration_reads (renderer : Renderer) (printable : renderer.IsWellFormed)
    (declared : ClassLike) (wellFormed : declared.IsWellFormed) (fragment : Fragment)
    (rendered : (declared.render renderer).outcome = .ok fragment) (suffix : Text) :
    declaration (fragment.text ++ suffix) = some (declared.symbol, suffix) := by
  obtain ⟨constants, properties, methods, constantsRendered, propertiesRendered, methodsRendered,
    written⟩ := (render_eq_ok_iff declared renderer).1 rendered
  have traitLines := Lines.flat_map declared.traits (traitLine renderer)
    (fun name => .trait (QualifiedName.bare name)) fun name among =>
      trait_line_reads renderer printable name (wellFormed.traits name among)
  have constantLines := render_all_lines _ (fun constant => Member.constant constant.name)
    declared.constants
    (fun constant among => constant_line_reads renderer printable _ constant
      (wellFormed.constants constant among)) constants constantsRendered
  have propertyLines := render_all_lines _ (fun property => Member.property property.name)
    declared.properties
    (fun property among => Property.line_reads renderer printable property
      (wellFormed.properties property among)) properties propertiesRendered
  have methodLines := render_all_lines _
    (fun method : Method => Member.method method.name (method.parameters.map Parameter.name))
    declared.ownMethods
    (fun method among => Method.line_reads renderer printable _ _ method
      (wellFormed.methods method (List.mem_of_mem_filter among))) methods methodsRendered
  have inBody := ((traitLines.append constantLines).append propertyLines).append methodLines
  have lead := is_trivia_doc_lines declared.docComment "" wellFormed.doc (by decide)
  have text : fragment.text ++ suffix = docLines declared.docComment "" ++ (declared.header ++
      (Text.ofString " \x7b\n" ++ ((declared.traits.flatMap (traitLine renderer) ++ constants ++
        properties ++ methods) ++ .char '\x7d' :: suffix))) := by
    rw [written]
    simp only [opening, List.append_assoc]
    rfl
  rw [text, declaration_skips lead]
  exact header_reads declared wellFormed inBody suffix

end ClassLike

end Stubwright
