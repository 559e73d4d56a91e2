import Stubwright.Proofs.Literal.RoundTrip
import Stubwright.Proofs.Script.Type
import Stubwright.Rendering.Member

/-!
Values, parameter lists and return types belong to the grammar, and the names of the parameters are
found again.
-/

namespace Stubwright

open Script

/-- A literal, whatever may stand after it. -/
def IsLiteral (text : Text) : Prop :=
  ∃ value, ∀ suffix, Literal.Ends suffix → Literal.read (text ++ suffix) = some (value, suffix)

namespace Script

theorem literal_reads {text : Text} (isLiteral : IsLiteral text) {suffix : Text}
    (ends : Literal.Ends suffix) : literal (text ++ suffix) = some ((), suffix) := by
  obtain ⟨value, reads⟩ := isLiteral
  rw [literal, reads suffix ends]
  rfl

theorem initialiser_reads {text : Text} (isLiteral : IsLiteral text) {suffix : Text}
    (ends : Literal.Ends suffix) : initialiser ("=" ++ text ++ suffix) = some ((), suffix) := by
  have mark : symbol '=' (.char '=' :: (text ++ suffix)) = some ((), text ++ suffix) :=
    symbol_cons _ rfl (by decide)
  change initialiser (.char '=' :: (text ++ suffix)) = _
  rw [initialiser, bind_of _ mark, literal_reads isLiteral ends]

theorem ends_of_cons {point : CodePoint} (rest : Text)
    (among : point ∈ ([',', ']', ')', ';', ' '] : List CodePoint)) :
    Literal.Ends (point :: rest) := by
  intro first found
  rw [← Option.some.inj found]
  exact among

end Script

theorem is_literal_of_value {room : Literal.Room} {value : Value} {text : Text}
    (accepted : Literal.ofValue room value = .ok text) : IsLiteral text :=
  ⟨Literal.meaning value, (Literal.reads_value room [] value text accepted).read⟩

/-- A value is written as a literal, or else the placeholder stands for it. -/
theorem ValueRef.render_cases (renderer : Renderer) (site : Site) (construct : Text)
    (value : Option ValueRef) (text : Text)
    (rendered : (ValueRef.render renderer site construct value).outcome = .ok text) :
    (∃ known, Literal.ofValue (renderer.room site) known = .ok text) ∨
      text = renderer.placeholder := by
  unfold ValueRef.render at rendered
  split at rendered
  · split at rendered
    · rename_i accepted
      rw [← Except.ok.inj rendered]
      exact .inl ⟨_, accepted⟩
    · split at rendered
      · exact .inr (Except.ok.inj rendered).symm
      · exact absurd rendered (by simp)
  · exact .inr (Except.ok.inj rendered).symm

theorem ValueRef.render_literal (renderer : Renderer) (site : Site) (construct : Text)
    (value : Option ValueRef) (placeholder : IsLiteral renderer.placeholder) (text : Text)
    (rendered : (ValueRef.render renderer site construct value).outcome = .ok text) :
    IsLiteral text := by
  rcases render_cases renderer site construct value text rendered with ⟨known, accepted⟩ | rfl
  · exact is_literal_of_value accepted
  · exact placeholder

/-- The types of a declaration are well formed with names of the script in them. -/
def HasTypes (type : Option TypeRef) : Prop :=
  ∀ known, type = some known → known.IsWellFormed IsQualified

instance (type : Option TypeRef) : Decidable (HasTypes type) :=
  inferInstanceAs (Decidable (∀ known ∈ type, known.IsWellFormed IsQualified))

def typeLead : Option TypeRef → Text
  | none => []
  | some type => type.written ++ " "

theorem type_before_outcome (type : Option TypeRef) (wellFormed : HasTypes type) :
    (typeBefore type).outcome = .ok (typeLead type) := by
  cases type with
  | none => rfl
  | some known =>
      simp [typeBefore, renderType, TypeRef.render_written known (wellFormed known rfl)]
      rfl

def returnText : Option TypeRef → Text
  | none => []
  | some type => ": " ++ type.written

theorem return_clause_outcome (type : Option TypeRef) (wellFormed : HasTypes type) :
    (returnClause type).outcome = .ok (returnText type) := by
  cases type with
  | none => rfl
  | some known =>
      simp [returnClause, renderType, TypeRef.render_written known (wellFormed known rfl)]
      rfl

/-- The types of a parameter, a property or a result go before what this says. -/
theorem maybe_type_reads (type : Option TypeRef) (wellFormed : HasTypes type) {suffix : Text}
    (ends : EndsType (.char ' ' :: suffix)) (noType : Script.type suffix = none) :
    ∃ lead, IsTrivia lead ∧
      maybe Script.type (typeLead type ++ suffix) = some ((), lead ++ suffix) := by
  cases type with
  | none => exact ⟨[], fun _ => rfl, maybe_none noType⟩
  | some known =>
      have text : typeLead (some known) ++ suffix = known.written ++ (.char ' ' :: suffix) := by
        rw [typeLead, List.append_assoc]
        rfl
      refine ⟨" ", is_trivia_spaces _ (by decide), ?_⟩
      rw [text]
      exact maybe_of (TypeRef.type_reads known (wellFormed known rfl) ends)

theorem maybe_return_type_reads (type : Option TypeRef) (wellFormed : HasTypes type)
    {suffix : Text} (ends : EndsType suffix) (noType : returnType suffix = none) :
    maybe returnType (returnText type ++ suffix) = some ((), suffix) := by
  cases type with
  | none => exact maybe_none noType
  | some known =>
      have text : returnText (some known) ++ suffix =
          .char ':' :: (Text.ofString " " ++ (known.written ++ suffix)) := by
        rw [returnText, List.append_assoc]
        rfl
      apply maybe_of
      rw [text, returnType, bind_of _ (symbol_cons _ rfl (by decide)),
        type_skips (is_trivia_spaces _ (by decide)),
        TypeRef.type_reads known (wellFormed known rfl) ends]

namespace Script

section

variable {lead : Text} (isTrivia : IsTrivia lead) (text : Text)
include isTrivia

theorem variable_name_skips : variableName (lead ++ text) = variableName text :=
  bind_congr _ (symbol_skips isTrivia text _)

theorem passed_name_skips : passedName (lead ++ text) = passedName text := by
  apply maybe_then_skips (symbol_skips isTrivia text _)
  apply maybe_then_skips (bind_congr _ (symbol_skips isTrivia text _))
  exact variable_name_skips isTrivia text

theorem parameter_skips : parameter (lead ++ text) = parameter text :=
  maybe_then_skips (type_skips isTrivia text) (bind_congr _ (passed_name_skips isTrivia text))

theorem parameters_skips : parameters (lead ++ text) = parameters text :=
  bind_congr _ (symbol_skips isTrivia text _)

end

/-- Items that are joined by a comma and a blank are read one after the other. -/
theorem separated_reads {α : Type} {item : Reader α}
    (skips : ∀ text, item (Text.ofString " " ++ text) = item text) (follows : Text → Prop)
    (comma : ∀ rest, follows (.char ',' :: rest)) (first : Text × α) (others : List (Text × α))
    (each : ∀ piece ∈ first :: others, ∀ suffix, follows suffix →
      item (piece.1 ++ suffix) = some (piece.2, suffix)) {rest : Text} (ends : follows rest)
    (stops : symbol ',' rest = none) :
    separated item (Text.joinWith ", " ((first :: others).map Prod.fst) ++ rest) =
      some ((first :: others).map Prod.snd, rest) := by
  have more : many (do symbol ','; item)
      (others.flatMap (fun piece => Text.ofString ", " ++ piece.1) ++ rest) =
        some (others.map Prod.snd, rest) := by
    apply many_reads others _ _ follows _ _ ends
    · exact bind_none _ stops
    · intro piece member suffix following
      have mark : symbol ',' (.char ',' :: (Text.ofString " " ++ (piece.1 ++ suffix))) =
          some ((), Text.ofString " " ++ (piece.1 ++ suffix)) := symbol_cons _ rfl (by decide)
      change (do symbol ','; item) (.char ',' :: (Text.ofString " " ++ (piece.1 ++ suffix))) = _
      rw [bind_of _ mark, skips, each piece (by simp [member]) suffix following]
    · intro piece _
      exact ⟨List.cons_ne_nil _ _, fun _ => comma _⟩
  have afterFirst := follows_pieces others (fun piece => Text.ofString ", " ++ piece.1) follows
    (fun _ _ _ => comma _) ends
  rw [List.map_cons, Text.join_with_cons, List.flatMap_map, List.append_assoc, separated,
    bind_of _ (each first (by simp) _ afterFirst), bind_of _ more]
  rfl

def EndsParameter (suffix : Text) : Prop :=
  ∃ rest, suffix = .char ',' :: rest ∨ suffix = .char ')' :: rest

end Script

namespace Parameter

structure IsWellFormed (parameter : Parameter) : Prop where
  name : IsWord parameter.name
  type : HasTypes parameter.type

instance (parameter : Parameter) : Decidable parameter.IsWellFormed :=
  decidable_of_iff (IsWord parameter.name ∧ HasTypes parameter.type)
    ⟨fun ⟨name, type⟩ => ⟨name, type⟩, fun ⟨name, type⟩ => ⟨name, type⟩⟩

def passing (parameter : Parameter) : Text :=
  .when parameter.byReference "&" ++ (.when parameter.variadic "..." ++
    .char '$' :: parameter.name)

theorem passed_name_reads (parameter : Parameter) (isWord : IsWord parameter.name) {suffix : Text}
    (ends : EndsWord suffix) :
    passedName (parameter.passing ++ suffix) = some (parameter.name, suffix) := by
  have taken := take_word_append isWord ends
  unfold passing
  cases parameter.byReference <;> cases parameter.variadic <;> exact taken

/-- No type begins where the marks stand, and a type before them does not go on. -/
theorem no_type_at_passing (parameter : Parameter) (suffix : Text) :
    Script.type (parameter.passing ++ suffix) = none ∧
      EndsType (.char ' ' :: (parameter.passing ++ suffix)) := by
  unfold passing
  cases parameter.byReference <;> cases parameter.variadic <;>
    exact ⟨rfl, .of_cons _ rfl (by decide), rfl, rfl⟩

/-- A parameter without a default, and the default where there is one. -/
theorem render_parts (renderer : Renderer) (site : Site) (owner : Text) (parameter : Parameter)
    (types : HasTypes parameter.type) (text : Text)
    (rendered : (parameter.render renderer site owner).outcome = .ok text) :
    ∃ tail, text = typeLead parameter.type ++ (parameter.passing ++ tail) ∧
      (tail = [] ∨ ∃ construct value,
        (ValueRef.render renderer site construct parameter.default).outcome = .ok value ∧
          tail = "=" ++ value) := by
  unfold render at rendered
  rw [Rendering.bind_outcome, type_before_outcome parameter.type types] at rendered
  simp only [bind_ok_iff, Except.ok.injEq, exists_eq_left'] at rendered
  split at rendered
  · rw [Rendering.bind_outcome] at rendered
    obtain ⟨value, valueRendered, written⟩ := bind_ok_iff.1 rendered
    refine ⟨"=" ++ value, ?_, .inr ⟨_, value, valueRendered, rfl⟩⟩
    rw [← Except.ok.inj written]
    simp [passing, Text.ofString, Text.ofChars]
  · refine ⟨[], ?_, .inl rfl⟩
    rw [← Except.ok.inj rendered]
    simp [passing, Text.ofString, Text.ofChars]

theorem parameter_reads (renderer : Renderer) (site : Site) (owner : Text) (parameter : Parameter)
    (placeholder : IsLiteral renderer.placeholder) (wellFormed : parameter.IsWellFormed)
    (text : Text) (rendered : (parameter.render renderer site owner).outcome = .ok text)
    {suffix : Text} (ends : EndsParameter suffix) :
    Script.parameter (text ++ suffix) = some (parameter.name, suffix) := by
  obtain ⟨tail, rfl, default⟩ :=
    render_parts renderer site owner parameter wellFormed.type text rendered
  have afterName : EndsWord (tail ++ suffix) ∧
      maybe initialiser (tail ++ suffix) = some ((), suffix) := by
    rcases default with rfl | ⟨construct, value, valueRendered, rfl⟩
    · obtain ⟨rest, rfl | rfl⟩ := ends
      · exact ⟨.of_cons _ rfl, rfl⟩
      · exact ⟨.of_cons _ rfl, rfl⟩
    · have isLiteral := ValueRef.render_literal renderer site _ _ placeholder value valueRendered
      refine ⟨.of_cons _ rfl, ?_⟩
      obtain ⟨rest, rfl | rfl⟩ := ends
      · exact maybe_of (initialiser_reads isLiteral (ends_of_cons rest (by decide)))
      · exact maybe_of (initialiser_reads isLiteral (ends_of_cons rest (by decide)))
  have marks := no_type_at_passing parameter (tail ++ suffix)
  obtain ⟨lead, isTrivia, typeRead⟩ :=
    maybe_type_reads parameter.type wellFormed.type marks.2 marks.1
  have nameRead := passed_name_reads parameter wellFormed.name afterName.1
  rw [← passed_name_skips isTrivia] at nameRead
  rw [List.append_assoc, List.append_assoc, Script.parameter, bind_of _ typeRead,
    bind_of _ nameRead, bind_of _ afterName.2]
  rfl

def ReadsName (piece : Text × Text) : Prop :=
  ∀ suffix, EndsParameter suffix → Script.parameter (piece.1 ++ suffix) = some (piece.2, suffix)

theorem render_each_reads (renderer : Renderer) (site : Site) (owner : Text)
    (parameters : List Parameter) (placeholder : IsLiteral renderer.placeholder)
    (wellFormed : ∀ parameter ∈ parameters, parameter.IsWellFormed) (texts : List Text)
    (rendered : (renderEach renderer site owner parameters).outcome = .ok texts) :
    ∃ pieces : List (Text × Text), texts = pieces.map Prod.fst ∧
      parameters.map Parameter.name = pieces.map Prod.snd ∧ ∀ piece ∈ pieces, ReadsName piece := by
  induction parameters generalizing texts with
  | nil =>
      rw [← Except.ok.inj rendered]
      exact ⟨[], rfl, rfl, by simp⟩
  | cons parameter parameters ih =>
      rw [renderEach, Rendering.bind_outcome] at rendered
      obtain ⟨text, here, rest⟩ := bind_ok_iff.1 rendered
      rw [Rendering.bind_outcome] at rest
      obtain ⟨others, later, written⟩ := bind_ok_iff.1 rest
      obtain ⟨pieces, rfl, names, each⟩ :=
        ih (fun other member => wellFormed other (by simp [member])) others later
      refine ⟨(text, parameter.name) :: pieces, (Except.ok.inj written).symm, ?_, ?_⟩
      · rw [List.map_cons, names, List.map_cons]
      · intro piece member
        rcases List.mem_cons.1 member with rfl | among
        · intro suffix ends
          exact parameter_reads renderer site owner parameter placeholder
            (wellFormed parameter (by simp)) text here ends
        · exact each piece among

/-- A parameter list in its parentheses. -/
theorem parameters_read (renderer : Renderer) (site : Site) (owner : Text)
    (parameters : List Parameter) (placeholder : IsLiteral renderer.placeholder)
    (wellFormed : ∀ parameter ∈ parameters, parameter.IsWellFormed) (text : Text)
    (rendered : (renderList renderer site owner parameters).outcome = .ok text) (suffix : Text) :
    Script.parameters (.char '(' :: (text ++ .char ')' :: suffix)) =
      some (parameters.map Parameter.name, suffix) := by
  rw [renderList, Rendering.bind_outcome] at rendered
  obtain ⟨texts, eachRendered, joined⟩ := bind_ok_iff.1 rendered
  obtain ⟨pieces, rfl, names, each⟩ :=
    render_each_reads renderer site owner parameters placeholder wellFormed texts eachRendered
  have inner : (separated Script.parameter <|> pure []) (text ++ .char ')' :: suffix) =
      some (pieces.map Prod.snd, .char ')' :: suffix) := by
    rw [← Except.ok.inj joined]
    cases pieces with
    | nil => rfl
    | cons first others =>
        have closing : EndsParameter (.char ')' :: suffix) := ⟨suffix, .inr rfl⟩
        have skips := parameter_skips is_trivia_blank
        exact or_of _ (separated_reads skips EndsParameter (fun rest => ⟨rest, .inl rfl⟩) first
          others each closing rfl)
  rw [names, Script.parameters, bind_of _ (symbol_cons _ rfl (by decide)), bind_of _ inner,
    bind_of _ (symbol_cons _ rfl (by decide))]
  rfl

end Parameter

end Stubwright
