import Stubwright.Proofs.Script.Body

/-!
The members of a class belong to the grammar, each on lines of its own. A static property and a
property of the type that has the same word are told apart by what follows the word.
-/

namespace Stubwright

open Script

section

variable {rest : Text} (ends : EndsWord rest)
include ends

theorem SingleType.static_or_other (type : SingleType)
    (wellFormed : type.IsWellFormed IsQualified) :
    type.written = "static" ∨ keyword "static" (type.written ++ rest) = none := by
  cases type with
  | builtin name nullable =>
      by_cases same : name = "static"
      · exact .inl same
      · exact .inr (keyword_other _ (builtin_names_are_words name wellFormed) ends same)
  | named name nullable =>
      exact .inr (keyword_none _ ⟨separator, name ++ rest, rfl, rfl, by decide, rfl⟩)

theorem Alternative.static_or_other (member : Alternative)
    (wellFormed : member.IsWellFormed IsQualified) :
    member.written = "static" ∨ keyword "static" (member.written ++ rest) = none := by
  cases member with
  | single type => exact SingleType.static_or_other ends type wellFormed.1
  | intersection members => exact .inr rfl
  | foreign value => exact wellFormed.elim

/-- A type that starts with the word for a static property is that word alone, or goes on with a
bar, which no property's name does. -/
theorem TypeRef.static_or_other (type : TypeRef) (wellFormed : type.IsWellFormed IsQualified) :
    type.written = "static" ∨ (∃ more, type.written = Text.ofString "static" ++ .char '|' :: more) ∨
      keyword "static" (type.written ++ rest) = none := by
  cases type with
  | single type =>
      rw [written, SingleType.render_eq]
      split
      · exact .inr (.inr rfl)
      · rcases SingleType.static_or_other ends type wellFormed with same | other
        · exact .inl same
        · exact .inr (.inr other)
  | intersection members =>
      obtain ⟨first, second, others, rfl⟩ := exists_two_members wellFormed.1
      have firstFormed := wellFormed.2 first (by simp)
      cases first with
      | named name nullable =>
          rw [written, Conjunct.allWritten, List.map_cons, Text.join_with_cons]
          exact .inr (.inr rfl)
      | foreign value => exact firstFormed.elim
  | union members =>
      obtain ⟨first, second, others, rfl⟩ := exists_two_members wellFormed.1
      have goesOn : EndsWord (second.further ++
          ((others.flatMap Alternative.further) ++ rest)) := .of_cons _ rfl
      have text : (TypeRef.union (first :: second :: others)).written =
          first.written ++ (second.further ++ others.flatMap Alternative.further) := by
        have joined := joined_members (Text.ofString "|") Alternative.written first second others []
        simp only [List.append_nil] at joined
        exact joined
      rw [text]
      rcases Alternative.static_or_other goesOn first (wellFormed.2 first (by simp)) with
        same | other
      · rw [same]
        exact .inr (.inl ⟨_, rfl⟩)
      · rw [List.append_assoc, List.append_assoc]
        exact .inr (.inr other)
  | foreign value => exact wellFormed.elim

end

namespace Script

variable (name : Text) (isWord : IsWord name) (suffix : Text)
include isWord

theorem variable_name_reads :
    variableName (.char '$' :: (name ++ .char ';' :: suffix)) =
      some (name, .char ';' :: suffix) := by
  rw [variableName, bind_of _ (symbol_cons _ rfl (by decide)),
    take_word_append isWord (.of_cons _ rfl)]

theorem typed_variable_reads (type : Option TypeRef) (types : HasTypes type) :
    typedVariable (typeLead type ++ (.char '$' :: (name ++ .char ';' :: suffix))) =
      some (.property name, suffix) := by
  have ends : EndsType (.char ' ' :: .char '$' :: (name ++ .char ';' :: suffix)) :=
    ⟨.of_cons _ rfl (by decide), rfl, rfl⟩
  obtain ⟨lead, isTrivia, typeRead⟩ := maybe_type_reads type types ends rfl
  have nameRead := variable_name_reads name isWord suffix
  rw [← variable_name_skips isTrivia] at nameRead
  rw [typedVariable, bind_of _ typeRead, bind_of _ nameRead,
    bind_of _ (symbol_cons _ rfl (by decide))]
  rfl

/-- The type of a property may be the word for a static one: that word is taken first then, and what
is left of the property has no type. -/
theorem dynamic_property_reads (known : TypeRef) (wellFormed : known.IsWellFormed IsQualified) :
    property (Text.ofString " " ++
        (typeLead (some known) ++ (.char '$' :: (name ++ .char ';' :: suffix)))) =
      some (.property name, suffix) := by
  have read := typed_variable_reads name isWord suffix (some known) fun _ same =>
    Option.some.inj same ▸ wellFormed
  have untyped := typed_variable_reads name isWord suffix none (by simp [HasTypes])
  rw [← typed_variable_skips is_trivia_blank] at read untyped
  have lead : typeLead (some known) ++ (.char '$' :: (name ++ .char ';' :: suffix)) =
      known.written ++ (.char ' ' :: .char '$' :: (name ++ .char ';' :: suffix)) := by
    rw [typeLead, List.append_assoc]
    rfl
  rw [lead] at read ⊢
  have blankAfter : EndsWord (.char ' ' :: .char '$' :: (name ++ .char ';' :: suffix)) :=
    .of_cons _ rfl
  rcases TypeRef.static_or_other blankAfter known wellFormed with same | ⟨more, goesOn⟩ | other
  · have word : keyword "static" (Text.ofString " " ++ (Text.ofString "static" ++
        (.char ' ' :: .char '$' :: (name ++ .char ';' :: suffix)))) =
          some ((), Text.ofString " " ++ (.char '$' :: (name ++ .char ';' :: suffix))) := rfl
    apply or_of
    rw [same, bind_of _ word]
    exact untyped
  · rw [property, or_none]
    · exact read
    · rw [goesOn]
      rfl
  · rw [property, or_none]
    · exact read
    · apply bind_none
      rw [keyword_skips is_trivia_blank]
      exact other

/-- A property is found whether it is static or only of a type with that name. -/
theorem property_reads (isStatic : Bool) (type : Option TypeRef) (types : HasTypes type) :
    property (Text.ofString " " ++ (.when isStatic "static " ++
        (typeLead type ++ (.char '$' :: (name ++ .char ';' :: suffix))))) =
      some (.property name, suffix) := by
  have read := typed_variable_reads name isWord suffix type types
  rw [← typed_variable_skips is_trivia_blank] at read
  cases isStatic with
  | true =>
      have word : keyword "static" (Text.ofString " " ++ (Text.ofString "static " ++
          (typeLead type ++ (.char '$' :: (name ++ .char ';' :: suffix))))) =
            some ((), Text.ofString " " ++
              (typeLead type ++ (.char '$' :: (name ++ .char ';' :: suffix)))) := rfl
      apply or_of
      rw [Text.when, if_pos rfl, bind_of _ word, read]
  | false =>
      rw [Text.when, if_neg (by simp), List.nil_append]
      cases type with
      | none =>
          rw [property, or_none]
          · exact read
          · rfl
      | some known => exact dynamic_property_reads name isWord suffix known (types known rfl)

end Script

/-- The doc comment of a declaration is one of the script, and its types name classes of it. -/
structure Property.IsWellFormed (property : Property) : Prop where
  name : IsWord property.name
  doc : HasDoc property.docComment
  type : HasTypes property.type

instance (property : Property) : Decidable property.IsWellFormed :=
  decidable_of_iff
    (IsWord property.name ∧ HasDoc property.docComment ∧ HasTypes property.type)
    ⟨fun ⟨name, doc, type⟩ => ⟨name, doc, type⟩, fun ⟨name, doc, type⟩ => ⟨name, doc, type⟩⟩

structure Function.IsWellFormed (isName : Text → Prop) (function : Function) : Prop where
  name : isName function.name
  doc : HasDoc function.docComment
  parameters : ∀ parameter ∈ function.parameters, parameter.IsWellFormed
  returnType : HasTypes function.returnType

instance (isName : Text → Prop) [DecidablePred isName] (function : Function) :
    Decidable (function.IsWellFormed isName) :=
  decidable_of_iff
    (isName function.name ∧ HasDoc function.docComment ∧
      (∀ parameter ∈ function.parameters, parameter.IsWellFormed) ∧ HasTypes function.returnType)
    ⟨fun ⟨name, doc, parameters, returnType⟩ => ⟨name, doc, parameters, returnType⟩,
      fun ⟨name, doc, parameters, returnType⟩ => ⟨name, doc, parameters, returnType⟩⟩

/-- The word for the visibility says that a property or a method follows. -/
theorem Script.member_of_visibility (visibility : Visibility) (rest : Text) :
    member (visibility.keyword ++ .char ' ' :: rest) =
      (property <|> method) (.char ' ' :: rest) := by
  cases visibility <;> rfl

theorem Script.method_of_modifiers (isAbstract isStatic isFinal : Bool) (rest : Text) :
    (property <|> method) (.char ' ' :: (Text.when isAbstract "abstract " ++
        (Text.when isStatic "static " ++ (Text.when isFinal "final " ++
          (Text.ofString "function " ++ rest))))) =
      methodSignature (Text.ofString " " ++ rest) := by
  cases isAbstract <;> cases isStatic <;> cases isFinal <;> rfl

namespace Method

def lineEnd (bodiless : Bool) : Text := if bodiless then ";" else emptyBody

theorem ending_eq (inInterface : Bool) (method : Method) :
    method.ending inInterface = lineEnd (method.isAbstract || inInterface) ++ "\n" := by
  unfold ending lineEnd
  split <;> rfl

theorem line_end_reads (bodiless : Bool) (suffix : Text) :
    (symbol ';' <|> emptyBraces) (lineEnd bodiless ++ suffix) = some ((), suffix) ∧
      EndsType (lineEnd bodiless ++ suffix) ∧ returnType (lineEnd bodiless ++ suffix) = none := by
  cases bodiless <;> exact ⟨rfl, ⟨.of_cons _ rfl (by decide), rfl, rfl⟩, rfl⟩

theorem signature_reads (renderer : Renderer) (site : Site) (owner : Text) (method : Method)
    (placeholder : IsLiteral renderer.placeholder)
    (wellFormed : method.toFunction.IsWellFormed IsWord) (bodiless : Bool) (text : Text)
    (rendered : (Parameter.renderList renderer site owner method.parameters).outcome = .ok text)
    (suffix : Text) :
    methodSignature (Text.ofString " " ++ (method.name ++ (Text.ofString " (" ++ (text ++
        (.char ')' :: (returnText method.returnType ++ (lineEnd bodiless ++ suffix))))))) =
      some (.method method.name (method.parameters.map Parameter.name), suffix) := by
  obtain ⟨ending, endsType, noReturn⟩ := line_end_reads bodiless suffix
  have afterName : EndsWord (Text.ofString " (" ++ (text ++ (.char ')' ::
      (returnText method.returnType ++ (lineEnd bodiless ++ suffix))))) := .of_cons _ rfl
  have nameRead := word_append wellFormed.name afterName
  rw [← word_skips is_trivia_blank] at nameRead
  have listRead : parameters (Text.ofString " (" ++ (text ++ (.char ')' ::
      (returnText method.returnType ++ (lineEnd bodiless ++ suffix))))) =
        some (method.parameters.map Parameter.name,
          returnText method.returnType ++ (lineEnd bodiless ++ suffix)) := by
    change parameters (Text.ofString " " ++ .char '(' :: _) = _
    rw [parameters_skips (is_trivia_spaces _ (by decide))]
    exact Parameter.parameters_read renderer site owner method.parameters placeholder
      wellFormed.parameters text rendered _
  have returnRead :=
    maybe_return_type_reads method.returnType wellFormed.returnType endsType noReturn
  rw [methodSignature, bind_of _ nameRead, bind_of _ listRead, bind_of _ returnRead,
    bind_of _ ending]
  rfl

end Method

section

variable (renderer : Renderer) (printable : renderer.IsWellFormed)
include printable

theorem ClassLike.trait_line_reads (name : Text) (isName : IsQualified (QualifiedName.bare name)) :
    Lines (traitLine renderer name) [.trait (QualifiedName.bare name)] := by
  have line : traitLine renderer name = renderer.indent ++
      ("use " ++ QualifiedName.rooted name ++ ";" ++ "\n") := by
    simp [traitLine, Text.ofString, Text.ofChars]
  apply Lines.single (is_trivia_spaces _ printable.indent) line
  intro suffix
  have ends : EndsName (.char ';' :: suffix) := .of_cons suffix rfl (by decide)
  have used := reference_append isName ends
  have text : Text.ofString "use " ++ QualifiedName.rooted name ++ Text.ofString ";" ++ suffix =
      Text.ofString "use " ++ (separator :: QualifiedName.bare name ++ .char ';' :: suffix) := by
    rw [List.append_assoc, List.append_assoc]
    rfl
  have start : ∀ rest, member (Text.ofString "use " ++ rest) =
      traitUse (Text.ofString " " ++ rest) := fun _ => rfl
  rw [← reference_skips is_trivia_blank] at used
  rw [text, start, traitUse, bind_of _ used, bind_of _ (symbol_cons _ rfl (by decide))]
  rfl

theorem ClassLike.constant_line_reads (owner : Text) (constant : Constant)
    (isWord : IsWord constant.name) (text : Text)
    (rendered : (constantLine renderer owner constant).outcome = .ok text) :
    Lines text [.constant constant.name] := by
  rw [constantLine, Rendering.bind_outcome] at rendered
  obtain ⟨value, valueRendered, written⟩ := bind_ok_iff.1 rendered
  have isLiteral := ValueRef.render_literal renderer _ _ _ printable.placeholder value valueRendered
  have line : text = renderer.indent ++
      ("const " ++ constant.name ++ "=" ++ value ++ ";" ++ "\n") := by
    rw [← Except.ok.inj written]
    simp [Text.ofString, Text.ofChars]
  apply Lines.single (is_trivia_spaces _ printable.indent) line
  intro suffix
  have afterName : EndsWord (Text.ofString "=" ++ value ++ .char ';' :: suffix) := .of_cons _ rfl
  have found := word_append isWord afterName
  have assigned := initialiser_reads isLiteral (ends_of_cons suffix (by decide) :
    Literal.Ends (.char ';' :: suffix))
  have split : Text.ofString "const " ++ constant.name ++ Text.ofString "=" ++ value ++
      Text.ofString ";" ++ suffix = Text.ofString "const " ++ (constant.name ++
        (Text.ofString "=" ++ value ++ .char ';' :: suffix)) := by
    simp only [List.append_assoc]
    rfl
  have start : ∀ rest, member (Text.ofString "const " ++ rest) =
      classConstant (Text.ofString " " ++ rest) := fun _ => rfl
  rw [← word_skips is_trivia_blank] at found
  rw [split, start, classConstant, bind_of _ found, bind_of _ assigned,
    bind_of _ (symbol_cons _ rfl (by decide))]
  rfl

theorem Property.line_reads (property : Property) (wellFormed : property.IsWellFormed)
    (text : Text) (rendered : (property.render renderer).outcome = .ok text) :
    Lines text [.property property.name] := by
  rw [render, Rendering.bind_outcome, type_before_outcome property.type wellFormed.type] at rendered
  have lead := (is_trivia_spaces _ printable.indent).append
    (is_trivia_doc_lines property.docComment renderer.indent wellFormed.doc printable.indent)
  have line : text = renderer.indent ++ docLines property.docComment renderer.indent ++
      (property.modifiers ++ typeLead property.type ++ "$" ++ property.name ++ ";" ++ "\n") := by
    rw [← Except.ok.inj rendered]
    simp [Text.ofString, Text.ofChars]
  apply Lines.single lead line
  intro suffix
  have split : property.modifiers ++ typeLead property.type ++ Text.ofString "$" ++
      property.name ++ Text.ofString ";" ++ suffix =
        property.visibility.keyword ++ .char ' ' :: (.when property.isStatic "static " ++
          (typeLead property.type ++ (.char '$' :: (property.name ++ .char ';' :: suffix)))) := by
    simp [modifiers, Text.ofString, Text.ofChars]
  rw [split, Script.member_of_visibility]
  exact or_of _ (property_reads property.name wellFormed.name suffix property.isStatic
    property.type wellFormed.type)

theorem Method.line_reads (owner : Text) (inInterface : Bool) (method : Method)
    (wellFormed : method.toFunction.IsWellFormed IsWord) (text : Text)
    (rendered : (method.render renderer owner inInterface).outcome = .ok text) :
    Lines text [.method method.name (method.parameters.map Parameter.name)] := by
  rw [render, Rendering.bind_outcome] at rendered
  obtain ⟨parameters, listRendered, rest⟩ := bind_ok_iff.1 rendered
  rw [Rendering.bind_outcome, return_clause_outcome method.returnType wellFormed.returnType] at rest
  have written := Except.ok.inj rest
  have lead := (is_trivia_spaces _ printable.indent).append
    (is_trivia_doc_lines method.docComment renderer.indent wellFormed.doc printable.indent)
  have line : text = renderer.indent ++ docLines method.docComment renderer.indent ++
      (method.modifiers inInterface ++ "function " ++ method.name ++ " (" ++ parameters ++ ")" ++
        returnText method.returnType ++ lineEnd (method.isAbstract || inInterface) ++ "\n") := by
    rw [← written, ending_eq]
    simp only [List.append_assoc]
  apply Lines.single lead line
  intro suffix
  have split : method.modifiers inInterface ++ Text.ofString "function " ++ method.name ++
      Text.ofString " (" ++ parameters ++ Text.ofString ")" ++ returnText method.returnType ++
      lineEnd (method.isAbstract || inInterface) ++ suffix =
        method.visibility.keyword ++ .char ' ' ::
          (Text.when (method.isAbstract && !inInterface) "abstract " ++
            (Text.when method.isStatic "static " ++ (Text.when method.isFinal "final " ++
              (Text.ofString "function " ++ (method.name ++ (Text.ofString " (" ++ (parameters ++
                (.char ')' :: (returnText method.returnType ++
                  (lineEnd (method.isAbstract || inInterface) ++ suffix)))))))))) := by
    simp only [modifiers, List.append_assoc]
    rfl
  rw [split, Script.member_of_visibility, Script.method_of_modifiers]
  exact signature_reads renderer _ _ method printable.placeholder wellFormed _ parameters
    listRendered suffix

end

end Stubwright
