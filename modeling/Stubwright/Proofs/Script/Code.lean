import Stubwright.Proofs.Literal.Evaluation
import Stubwright.Proofs.Script.Declaration

/-!
Texts that are nothing but code. Wherever the tokens of code have got to, names, types, parameter
lists and initialisers leave nothing open but code again: no quoted text and no comment.
-/

namespace Stubwright

open Script

namespace Script

/-- The points of names, types and signatures, and the blanks between them. None of them opens a
quoted text or a comment. -/
def isPlain (point : CodePoint) : Bool :=
  isWordPoint point || point = separator || point ∈ Text.ofString " \n$,;()\x7b\x7d=&|:?."

theorem plain_ne {point : CodePoint} (plain : isPlain point = true) (mark : CodePoint)
    (among : mark ∈ Text.ofString "'\"\x60#/*<>") : point ≠ mark := by
  have apart : point ∉ Text.ofString "'\"\x60#/*<>" := not_mem_of_apart plain (by decide)
  rintro rfl
  exact apart among

/-- A text after which code goes on, wherever in code it stands. -/
def IsCode (text : Text) : Prop :=
  ∀ mode : Mode, mode.isCode = true → (run mode text).2.isCode = true

section

variable {point : CodePoint} (plain : isPlain point = true)
include plain

theorem start_plain : (start point).2.isCode = true := by
  have unquoted : point ∉ (['\'', '"', '\x60'] : List CodePoint) :=
    not_mem_of_apart plain (by decide)
  have noHash : [point] ≠ Text.ofString "#" := fun same =>
    plain_ne plain '#' (by decide) (List.cons.inj same).1
  unfold start
  rw [if_neg unquoted]
  split
  · rfl
  split
  · rfl
  split
  · rfl
  split
  · rfl
  split
  · exact decide_eq_true noHash
  · rfl

theorem step_mark_plain {text : Text} (code : text ≠ "#") :
    (stepMark text point).2.isCode = true := by
  have longer : text ++ [point] ≠ Text.ofString "#" := by
    intro same
    have last : point ∈ Text.ofString "#" := same ▸ List.mem_append_right text (by simp)
    exact plain_ne plain '#' (by decide) (List.mem_singleton.1 last)
  simp only [stepMark, code, plain_ne plain '*' (by decide), plain_ne plain '/' (by decide),
    plain_ne plain '>' (by decide), plain_ne plain '<' (by decide), false_and, and_false, or_self,
    if_false]
  split
  · exact decide_eq_true longer
  split
  · rfl
  · exact start_plain plain

theorem step_plain {mode : Mode} (code : mode.isCode = true) :
    (step mode point).2.isCode = true := by
  have starts := start_plain plain
  cases mode with
  | idle => exact starts
  | word text =>
      rw [step]
      split
      · rfl
      · exact starts
  | variableName text =>
      rw [step]
      split
      · rfl
      · exact starts
  | number text =>
      rw [step]
      split
      · rfl
      · exact starts
  | mark text => exact step_mark_plain plain (of_decide_eq_true code)
  | quoted text escaped => cases code
  | comment starred => cases code
  | line asked => cases code
  | apart text => cases code

end

namespace IsCode

theorem of_plain {text : Text} (plain : ∀ point ∈ text, isPlain point = true) : IsCode text := by
  induction text with
  | nil => exact fun _ code => code
  | cons point text ih =>
      intro mode code
      have later := ih fun other member => plain other (by simp [member])
      exact later _ (step_plain (plain point (by simp)) code)

theorem append {first second : Text} (isFirst : IsCode first) (isSecond : IsCode second) :
    IsCode (first ++ second) := by
  intro mode code
  rw [run_append]
  exact isSecond _ (isFirst mode code)

theorem when {text : Text} (isCode : IsCode text) (condition : Prop) [Decidable condition] :
    IsCode (.when condition text) := by
  unfold Text.when
  split
  · exact isCode
  · exact fun _ code => code

theorem join_with {separator : Text} {pieces : List Text} (between : IsCode separator)
    (each : ∀ piece ∈ pieces, IsCode piece) : IsCode (Text.joinWith separator pieces) := by
  induction pieces with
  | nil => exact fun _ code => code
  | cons piece pieces ih =>
      have later := ih fun other member => each other (by simp [member])
      have here := each piece (by simp)
      cases pieces with
      | nil =>
          rw [Text.joinWith, List.intercalate_singleton]
          exact here
      | cons next others =>
          rw [Text.joinWith, List.intercalate_cons_cons]
          exact (here.append between).append later

end IsCode

theorem is_code_word {name : Text} (isWord : IsWord name) : IsCode name :=
  .of_plain fun point member => by rw [isPlain, word_points isWord point member]; rfl

theorem is_code_qualified {name : Text} (isQualified : IsQualified name) : IsCode name := by
  obtain ⟨first, others, rfl, names⟩ := qualified_pieces isQualified
  exact .join_with (.of_plain (by decide)) fun piece member => is_code_word (names piece member).1

theorem is_code_reference {name : Text} (isQualified : IsQualified name) :
    IsCode (separator :: name) := by
  have mark : IsCode [separator] := .of_plain (by decide)
  exact mark.append (is_code_qualified isQualified)

theorem is_code_rooted {name : Text} (isGlobal : IsGlobalName name) :
    IsCode (QualifiedName.rooted name) :=
  is_code_reference isGlobal

/-- Within a word or a number, where a mark is always a token of its own. -/
def Mode.inWord : Mode → Bool
  | .word _ => true
  | .variableName _ => true
  | .number _ => true
  | _ => false

theorem Mode.code_of_in_word {mode : Mode} (inWord : mode.inWord = true) : mode.isCode = true := by
  cases mode <;> first | rfl | cases inWord

section

variable {point : CodePoint} (isPoint : isWordPoint point = true)
include isPoint

theorem start_in_word : (start point).2.inWord = true := by
  have visible : isSpace point = false := by
    cases blank : isSpace point with
    | false => rfl
    | true =>
        have ends := (delimiter_ends (delimiter_of_space blank)).1
        exact absurd (ends.symm.trans isPoint) Bool.false_ne_true
  unfold start
  rw [if_neg (by simp [visible])]
  split
  · rfl
  · rename_i noStart
    rw [not_or] at noStart
    have digit : point.isIn Char.isDigit = true :=
      (Bool.or_eq_true _ _ ▸ isPoint).resolve_left noStart.1
    rw [if_pos digit]
    rfl

theorem step_in_word {mode : Mode} (code : mode.isCode = true) :
    (step mode point).2.inWord = true := by
  have starts := start_in_word isPoint
  have noMark : point ∉ markPoints := not_mem_of_apart isPoint (by decide)
  cases mode with
  | idle => exact starts
  | word text => rw [step, if_pos (.inl isPoint)]; rfl
  | variableName text => rw [step, if_pos isPoint]; rfl
  | number text =>
      have goesOn : extendsNumber text point = true := by
        rw [extendsNumber, isPoint]
        rfl
      rw [step, if_pos goesOn]
      rfl
  | mark text =>
      rw [step, step_mark_other (of_decide_eq_true code) noMark]
      split
      · rfl
      · exact starts
  | quoted text escaped => cases code
  | comment starred => cases code
  | line asked => cases code
  | apart text => cases code

end

theorem run_in_word {text : Text} (points : ∀ point ∈ text, isWordPoint point = true) {mode : Mode}
    (inWord : mode.inWord = true) : (run mode text).2.inWord = true := by
  induction text generalizing mode with
  | nil => exact inWord
  | cons point text ih =>
      have taken := step_in_word (points point (by simp)) (Mode.code_of_in_word inWord)
      exact ih (fun other member => points other (by simp [member])) taken

/-- A text that leaves nothing open but code if it stands behind an equals sign. -/
def IsClosed (text : Text) : Prop := (run (.mark "=") text).2.isCode = true

instance (text : Text) : Decidable (IsClosed text) :=
  inferInstanceAs (Decidable ((run (.mark "=") text).2.isCode = true))

theorem is_code_initialised {name value : Text} (isWord : IsWord name) (closed : IsClosed value) :
    IsCode (name ++ (Text.ofString "=" ++ value)) := by
  intro mode code
  have afterName : (run mode name).2.inWord = true := by
    cases name with
    | nil => exact isWord.elim
    | cons first rest =>
        have begun := step_in_word (word_point_of_start isWord.1) code
        exact run_in_word isWord.2 begun
  have marked : (step (run mode name).2 '=').2 = .mark "=" := by
    generalize (run mode name).2 = reached at afterName
    cases reached with
    | word text => rfl
    | variableName text => rfl
    | number text => rfl
    | _ => cases afterName
  rw [run_append]
  change (run (step (run mode name).2 '=').2 value).2.isCode = true
  rw [marked]
  exact closed

/-- The mark before a literal is complete, since no literal begins with what would go on with it. -/
theorem is_closed_literal {room : Literal.Room} {value : Value} {text : Text}
    (accepted : Literal.ofValue room value = .ok text) : IsClosed text := by
  obtain ⟨found, lexes, -⟩ := Literal.denotes_value room [] value text accepted
  have reads := Literal.reads_value room [] value text accepted
  obtain ⟨first, rest, rfl, -, -⟩ := reads.opens
  have read := reads.reads (2 * (first :: rest).length) [] (Nat.le_refl _) nofun
  rw [List.append_nil] at read
  have apart : first ∉ (['=', '>'] : List CodePoint) := by
    intro among
    rcases List.mem_pair.1 among with rfl | rfl
    · cases read
    · cases read
  have complete : isMark (Text.ofString "=" ++ [first]) = false := by
    have marks : ∀ known ∈ longMarks, (Text.ofString known).head? = some '=' →
        ∀ second ∈ (Text.ofString known)[1]?, second ∈ (['=', '>'] : List CodePoint) := by decide
    apply Bool.eq_false_iff.2
    intro longer
    obtain ⟨known, among, isPrefix⟩ := List.any_eq_true.1 longer
    obtain ⟨more, same⟩ := List.isPrefixOf_iff_prefix.1 isPrefix
    exact apart (marks known among (by rw [← same]; rfl) first (by rw [← same]; rfl))
  have stepped : step (.mark "=") first =
      (Text.ofString "=" :: (start first).1, (start first).2) := by
    have other : ∀ mark ∈ (["#", "/", "?", "<<", "."] : List String),
        Text.ofString "=" ≠ Text.ofString mark := by decide
    simp [step, stepMark, complete, other]
  rw [IsClosed, run_cons, stepped]
  exact lexes.code

end Script

theorem SingleType.written_is_code (type : SingleType)
    (wellFormed : type.IsWellFormed IsQualified) : IsCode type.written := by
  cases type with
  | builtin name nullable => exact is_code_word (builtin_names_are_words name wellFormed)
  | named name nullable => exact is_code_reference wellFormed

theorem Conjunct.written_is_code (member : Conjunct)
    (wellFormed : member.IsWellFormed IsQualified) : IsCode member.written := by
  cases member with
  | named name nullable => exact is_code_reference wellFormed.1
  | foreign value => exact wellFormed.elim

theorem Conjunct.all_written_is_code (members : List Conjunct)
    (wellFormed : ∀ member ∈ members, member.IsWellFormed IsQualified) :
    IsCode (allWritten members) := by
  apply IsCode.join_with (.of_plain (by decide))
  intro piece among
  obtain ⟨member, known, rfl⟩ := List.mem_map.1 among
  exact member.written_is_code (wellFormed member known)

theorem Alternative.written_is_code (member : Alternative)
    (wellFormed : member.IsWellFormed IsQualified) : IsCode member.written := by
  cases member with
  | single type => exact type.written_is_code wellFormed.1
  | intersection members =>
      have opened : IsCode "(" := .of_plain (by decide)
      exact (opened.append (Conjunct.all_written_is_code members wellFormed.2)).append
        (.of_plain (by decide))
  | foreign value => exact wellFormed.elim

theorem TypeRef.written_is_code (type : TypeRef) (wellFormed : type.IsWellFormed IsQualified) :
    IsCode type.written := by
  cases type with
  | single type =>
      have isCode := type.written_is_code wellFormed
      rw [written, SingleType.render_eq]
      split
      · have mark : IsCode "?" := .of_plain (by decide)
        exact mark.append isCode
      · exact isCode
  | intersection members => exact Conjunct.all_written_is_code members wellFormed.2
  | union members =>
      apply IsCode.join_with (.of_plain (by decide))
      intro piece among
      obtain ⟨member, known, rfl⟩ := List.mem_map.1 among
      exact member.written_is_code (wellFormed.2 member known)
  | foreign value => exact wellFormed.elim

theorem type_lead_is_code {type : Option TypeRef} (types : HasTypes type) :
    IsCode (typeLead type) := by
  cases type with
  | none => exact fun _ code => code
  | some known => exact (known.written_is_code (types known rfl)).append (.of_plain (by decide))

theorem return_text_is_code {type : Option TypeRef} (types : HasTypes type) :
    IsCode (returnText type) := by
  cases type with
  | none => exact fun _ code => code
  | some known =>
      have colon : IsCode ": " := .of_plain (by decide)
      exact colon.append (known.written_is_code (types known rfl))

section

variable (renderer : Renderer) (closed : IsClosed renderer.placeholder)
include closed

theorem ValueRef.render_closed (site : Site) (construct : Text) (value : Option ValueRef)
    (text : Text)
    (rendered : (ValueRef.render renderer site construct value).outcome = .ok text) :
    IsClosed text := by
  rcases render_cases renderer site construct value text rendered with ⟨known, accepted⟩ | rfl
  · exact is_closed_literal accepted
  · exact closed

theorem Constant.value_closed (constant : Constant) (text : Text)
    (rendered : (constant.value? renderer).outcome = .ok text) : IsClosed text := by
  rcases value_cases renderer constant text rendered with ⟨known, accepted⟩ | rfl
  · exact is_closed_literal accepted
  · exact closed

namespace Parameter

variable (site : Site) (owner : Text)

theorem render_is_code (parameter : Parameter) (wellFormed : parameter.IsWellFormed) (text : Text)
    (rendered : (parameter.render renderer site owner).outcome = .ok text) : IsCode text := by
  obtain ⟨tail, rfl, default⟩ :=
    render_parts renderer site owner parameter wellFormed.type text rendered
  have reference : IsCode "&" := .of_plain (by decide)
  have ellipsis : IsCode "..." := .of_plain (by decide)
  have dollar : IsCode "$" := .of_plain (by decide)
  have named : IsCode (parameter.name ++ tail) := by
    rcases default with rfl | ⟨construct, value, valueRendered, rfl⟩
    · rw [List.append_nil]
      exact is_code_word wellFormed.name
    · exact is_code_initialised wellFormed.name
        (ValueRef.render_closed renderer closed site construct _ value valueRendered)
  have passed := (reference.when (parameter.byReference = true)).append
    ((ellipsis.when (parameter.variadic = true)).append (dollar.append named))
  rw [passing, List.append_assoc, List.append_assoc]
  exact (type_lead_is_code wellFormed.type).append passed

theorem render_each_is_code (parameters : List Parameter)
    (wellFormed : ∀ parameter ∈ parameters, parameter.IsWellFormed) (texts : List Text)
    (rendered : (renderEach renderer site owner parameters).outcome = .ok texts) :
    ∀ text ∈ texts, IsCode text := by
  induction parameters generalizing texts with
  | nil =>
      rw [← Except.ok.inj rendered]
      simp
  | cons parameter parameters ih =>
      rw [renderEach, Rendering.bind_outcome] at rendered
      obtain ⟨text, here, rest⟩ := bind_ok_iff.1 rendered
      rw [Rendering.bind_outcome] at rest
      obtain ⟨others, later, written⟩ := bind_ok_iff.1 rest
      rw [← Except.ok.inj written]
      have isCode := render_is_code renderer closed site owner parameter
        (wellFormed parameter (by simp)) text here
      exact List.forall_mem_cons.2
        ⟨isCode, ih (fun other member => wellFormed other (by simp [member])) others later⟩

theorem render_list_is_code (parameters : List Parameter)
    (wellFormed : ∀ parameter ∈ parameters, parameter.IsWellFormed) (text : Text)
    (rendered : (renderList renderer site owner parameters).outcome = .ok text) : IsCode text := by
  rw [renderList, Rendering.bind_outcome] at rendered
  obtain ⟨texts, eachRendered, joined⟩ := bind_ok_iff.1 rendered
  rw [← Except.ok.inj joined]
  exact .join_with (.of_plain (by decide))
    (render_each_is_code renderer closed site owner parameters wellFormed texts eachRendered)

end Parameter

end

theorem Visibility.keyword_is_code (visibility : Visibility) : IsCode visibility.keyword := by
  cases visibility <;> exact .of_plain (by decide)

theorem Property.modifiers_are_code (property : Property) : IsCode property.modifiers := by
  have static : IsCode "static " := .of_plain (by decide)
  exact (property.visibility.keyword_is_code.append (.of_plain (by decide))).append (static.when _)

namespace Method

theorem modifiers_are_code (inInterface : Bool) (method : Method) :
    IsCode (method.modifiers inInterface) := by
  have abstract : IsCode "abstract " := .of_plain (by decide)
  have static : IsCode "static " := .of_plain (by decide)
  have final : IsCode "final " := .of_plain (by decide)
  exact (((method.visibility.keyword_is_code.append (.of_plain (by decide))).append
    (abstract.when _)).append (static.when _)).append (final.when _)

theorem line_end_is_code (bodiless : Bool) : IsCode (lineEnd bodiless) := by
  cases bodiless <;> exact .of_plain (by decide)

end Method

namespace ClassLike

theorem modifiers_are_code (declared : ClassLike) : IsCode declared.modifiers := by
  have abstract : IsCode "abstract " := .of_plain (by decide)
  have final : IsCode "final " := .of_plain (by decide)
  unfold modifiers
  cases declared.kind with
  | ordinary => exact ((abstract.when _).append (final.when _)).append (.of_plain (by decide))
  | interface => exact (.of_plain (by decide) : IsCode "interface ")
  | trait => exact (.of_plain (by decide) : IsCode "trait ")

theorem references_are_code {names : List Text} (globals : ∀ name ∈ names, IsGlobalName name) :
    IsCode (references names) := by
  apply IsCode.join_with (.of_plain (by decide))
  intro piece among
  obtain ⟨name, member, rfl⟩ := List.mem_map.1 among
  exact is_code_rooted (globals name member)

theorem clause_is_code {keyword : Text} (isWord : IsWord keyword) {names : List Text}
    (globals : ∀ name ∈ names, IsGlobalName name) : IsCode (clause keyword names) := by
  have blank : IsCode " " := .of_plain (by decide)
  exact (((blank.append (is_code_word isWord)).append blank).append
    (references_are_code globals)).when _

/-- Whatever the kind, and also where a trait names a parent. -/
theorem header_is_code (declared : ClassLike) (isName : IsGlobalName declared.name)
    (parents : ∀ name ∈ declared.parents, IsGlobalName name)
    (interfaces : ∀ name ∈ declared.interfaces, IsGlobalName name) : IsCode declared.header := by
  have short := is_code_word (QualifiedName.of_text_names isName).1.1
  have extending := clause_is_code (by decide : IsWord "extends") parents
  have relations : IsCode declared.relations := by
    unfold relations
    cases declared.kind with
    | ordinary => exact extending.append (clause_is_code (by decide) interfaces)
    | interface => exact clause_is_code (by decide) interfaces
    | trait => exact extending
  exact (declared.modifiers_are_code.append short).append relations

end ClassLike

end Stubwright
