import Stubwright.Proofs.Script.Declaration

/-!
The header of a class: the words for its kind, its name, and the classes that it refers to. A header
is read back without regard to the kind, so it is another matter whether the kind has a place for
all that was read.
-/

namespace Stubwright

namespace Script

/-- What a header says. Classes that are referred to are given by their names without the mark of
the root, of which each reference has one. -/
structure Header where
  kind : ClassKind
  isAbstract : Bool
  isFinal : Bool
  name : Text
  extended : List Text
  implemented : List Text
  deriving DecidableEq

/-- Whether the language has a class of that kind with such a header. -/
def Header.FitsKind (header : Header) : Prop :=
  match header.kind with
  | .ordinary => header.extended.length ≤ 1
  | .interface => header.isAbstract = false ∧ header.isFinal = false ∧ header.implemented = []
  | .trait =>
      header.isAbstract = false ∧ header.isFinal = false ∧ header.extended = [] ∧
        header.implemented = []

def flag (expected : Text) : Reader Bool :=
  (do
    keyword expected
    return true) <|> pure false

def classKind : Reader ClassKind := do
  let found ← word
  if found = "class" then pure .ordinary
  else if found = "interface" then pure .interface
  else if found = "trait" then pure .trait
  else failure

def relations : Reader (Text × List Text × List Text) := do
  let found ← name
  let extended ← references "extends"
  let implemented ← references "implements"
  return (found, extended, implemented)

def header : Reader Header := do
  let isAbstract ← flag "abstract"
  let isFinal ← flag "final"
  let kind ← classKind
  let (found, extended, implemented) ← relations
  return ⟨kind, isAbstract, isFinal, found, extended, implemented⟩

/-- The words in front of a name say what they are meant to say. -/
theorem header_words (isAbstract isFinal : Bool) (kind : ClassKind) (rest : Text) :
    header (Text.when isAbstract "abstract " ++ (Text.when isFinal "final " ++
        (kind.keyword ++ (Text.ofString " " ++ rest)))) =
      (do
        let (found, extended, implemented) ← relations
        return ⟨kind, isAbstract, isFinal, found, extended, implemented⟩ : Reader Header)
          (Text.ofString " " ++ rest) := by
  cases isAbstract <;> cases isFinal <;> cases kind <;> rfl

end Script

namespace ClassLike

open Script

/-- What a header needs to be one of the language. -/
structure HasHeaderNames (declared : ClassLike) : Prop where
  name : IsGlobalName declared.name
  parents : ∀ name ∈ declared.parents, IsGlobalName name
  interfaces : ∀ name ∈ declared.interfaces, IsGlobalName name

def extendedNames (declared : ClassLike) : List Text :=
  match declared.kind with
  | .interface => declared.interfaces
  | _ => declared.parents

def implementedNames (declared : ClassLike) : List Text :=
  match declared.kind with
  | .ordinary => declared.interfaces
  | _ => []

/-- The header as it is written. Only a class in the narrow sense is called abstract or final. -/
def headline (declared : ClassLike) : Header where
  kind := declared.kind
  isAbstract := declared.kind = .ordinary && declared.isAbstract
  isFinal := declared.kind = .ordinary && declared.isFinal
  name := (QualifiedName.ofText declared.name).short
  extended := declared.extendedNames.map QualifiedName.bare
  implemented := declared.implementedNames.map QualifiedName.bare

/-- The header that belongs to the class: a trait extends nothing, whatever parent it is given. -/
def dueHeadline (declared : ClassLike) : Header :=
  { declared.headline with extended := declared.extended, implemented := declared.implemented }

variable (declared : ClassLike)

theorem modifiers_eq : declared.modifiers =
    Text.when declared.headline.isAbstract "abstract " ++
      (Text.when declared.headline.isFinal "final " ++
        (declared.kind.keyword ++ Text.ofString " ")) := by
  unfold modifiers headline
  cases declared.kind with
  | ordinary =>
      rw [List.append_assoc]
      rfl
  | interface => rfl
  | trait => rfl

theorem relations_eq : declared.relations =
    clause "extends" declared.extendedNames ++ clause "implements" declared.implementedNames := by
  unfold relations extendedNames implementedNames
  cases declared.kind with
  | ordinary => rfl
  | interface => exact (List.append_nil _).symm
  | trait => exact (List.append_nil _).symm

section

variable {declared}

theorem extended_names_global (named : declared.HasHeaderNames) :
    ∀ name ∈ declared.extendedNames, IsGlobalName name := by
  unfold extendedNames
  cases declared.kind with
  | ordinary => exact named.parents
  | interface => exact named.interfaces
  | trait => exact named.parents

theorem implemented_names_global (named : declared.HasHeaderNames) :
    ∀ name ∈ declared.implementedNames, IsGlobalName name := by
  unfold implementedNames
  cases declared.kind with
  | ordinary => exact named.interfaces
  | interface => simp
  | trait => simp

/-- What is read of a header is what was written, up to the brace that opens the body. -/
theorem header_read (named : declared.HasHeaderNames) (body : Text) :
    Script.header (declared.header ++ (Text.ofString " \x7b" ++ body)) =
      some (declared.headline, Text.ofString " \x7b" ++ body) := by
  have atBody : EndsName (Text.ofString " \x7b" ++ body) := .of_cons _ rfl (by decide)
  have implementedRead := clause_reads "implements" (by decide) declared.implementedNames
    (implemented_names_global named) atBody rfl rfl
  have atImplemented := clause_ends_name "implements" declared.implementedNames atBody
  have noComma : Script.symbol ',' (clause "implements" declared.implementedNames ++
      (Text.ofString " \x7b" ++ body)) = none := by
    rw [clause, Text.when]
    split <;> rfl
  have noExtended : keyword "extends" (clause "implements" declared.implementedNames ++
      (Text.ofString " \x7b" ++ body)) = none := by
    rw [clause, Text.when]
    split <;> rfl
  have extendedRead := clause_reads "extends" (by decide) declared.extendedNames
    (extended_names_global named) atImplemented noComma noExtended
  have atExtended := clause_ends_name "extends" declared.extendedNames atImplemented
  have found := name_append (QualifiedName.of_text_names named.name).1 atExtended.1
  rw [← name_skips is_trivia_blank] at found
  rw [header, modifiers_eq, relations_eq]
  simp only [List.append_assoc]
  rw [header_words]
  have read : Script.relations (Text.ofString " " ++ ((QualifiedName.ofText declared.name).short ++
      (clause "extends" declared.extendedNames ++ (clause "implements" declared.implementedNames ++
        (Text.ofString " \x7b" ++ body))))) =
      some ((declared.headline.name, declared.headline.extended, declared.headline.implemented),
        Text.ofString " \x7b" ++ body) := by
    rw [Script.relations, bind_of _ found, bind_of _ extendedRead, bind_of _ implementedRead]
    rfl
  rw [bind_of _ read]
  rfl

theorem clause_braceless {keyword : Text} (braceless : CodePoint.char '\x7b' ∉ keyword)
    {names : List Text} (globals : ∀ name ∈ names, IsGlobalName name) :
    CodePoint.char '\x7b' ∉ clause keyword names := by
  have within : ∀ piece ∈ names.map QualifiedName.rooted, ∀ point ∈ piece,
      point ≠ .char '\x7b' := by
    intro piece among point inside
    obtain ⟨name, member, rfl⟩ := List.mem_map.1 among
    rcases List.mem_cons.1 inside with rfl | later
    · decide
    · rcases qualified_points (globals name member) point later with isPoint | rfl
      · rintro rfl
        exact absurd isPoint (by decide)
      · decide
  have listed : ∀ point ∈ references names, point ≠ .char '\x7b' :=
    Text.forall_mem_join_with ", " _ (by decide) within
  rw [clause, Text.when]
  split
  · rw [List.mem_append, List.mem_append, List.mem_append]
    rintro (((blank | inKeyword) | blank) | inNames)
    · exact absurd blank (by decide)
    · exact braceless inKeyword
    · exact absurd blank (by decide)
    · exact listed _ inNames rfl
  · exact List.not_mem_nil

/-- The brace of the body is the first one. -/
theorem header_braceless (named : declared.HasHeaderNames) :
    CodePoint.char '\x7b' ∉ declared.header := by
  have inFront : CodePoint.char '\x7b' ∉ declared.modifiers := by
    unfold modifiers
    cases declared.kind <;> cases declared.isAbstract <;> cases declared.isFinal <;> decide
  have inName : CodePoint.char '\x7b' ∉ (QualifiedName.ofText declared.name).short := by
    intro inside
    have isPoint := word_points (QualifiedName.of_text_names named.name).1.1 _ inside
    exact absurd isPoint (by decide)
  rw [header, relations_eq, List.mem_append, List.mem_append, List.mem_append]
  rintro ((front | short) | (extended | implemented))
  · exact inFront front
  · exact inName short
  · exact clause_braceless (by decide) (extended_names_global named) extended
  · exact clause_braceless (by decide) (implemented_names_global named) implemented

/-- Different headlines are written differently. -/
theorem headline_eq_of_header {other : ClassLike} (named : declared.HasHeaderNames)
    (otherNamed : other.HasHeaderNames) (same : other.header = declared.header) :
    other.headline = declared.headline := by
  have here := header_read named []
  have there := header_read otherNamed []
  rw [same, here] at there
  exact (congrArg Prod.fst (Option.some.inj there)).symm

/-- A reference is one mark of the root and a name that does not begin with another. -/
theorem headline_references (named : declared.HasHeaderNames) :
    ∀ name ∈ declared.headline.extended ++ declared.headline.implemented, IsQualified name := by
  intro name among
  rcases List.mem_append.1 among with extended | implemented
  · obtain ⟨given, member, rfl⟩ := List.mem_map.1 extended
    exact extended_names_global named given member
  · obtain ⟨given, member, rfl⟩ := List.mem_map.1 implemented
    exact implemented_names_global named given member

end

/-- Only a trait is written with a parent that does not belong to it. -/
theorem headline_due_iff :
    declared.headline = declared.dueHeadline ↔
      (declared.kind = .trait → declared.parents = []) := by
  unfold dueHeadline headline extendedNames implementedNames extended implemented
  cases declared.kind with
  | ordinary => simp
  | interface => simp
  | trait => simp

theorem parents_length : declared.parents.length ≤ 1 := by
  unfold parents
  cases declared.parent with
  | none => exact Nat.zero_le 1
  | some parent =>
      by_cases empty : parent = []
      · simp [empty]
      · simp [empty]

theorem headline_fits_iff :
    declared.headline.FitsKind ↔ (declared.kind = .trait → declared.parents = []) := by
  unfold Header.FitsKind headline extendedNames implementedNames
  cases declared.kind with
  | ordinary => simp [parents_length]
  | interface => simp
  | trait => simp

/-- Where there is no doc comment, the text of a class begins with its header. -/
theorem render_begins {renderer : Renderer} {fragment : Fragment}
    (undocumented : ∀ comment ∈ declared.docComment, comment = [])
    (rendered : (declared.render renderer).outcome = .ok fragment) :
    ∃ body, fragment.text = declared.header ++ (Text.ofString " \x7b" ++ body) := by
  have noLines : docLines declared.docComment "" = [] := by
    cases given : declared.docComment with
    | none => rfl
    | some comment =>
        rw [undocumented comment given]
        rfl
  obtain ⟨constants, properties, methods, -, -, -, rfl⟩ :=
    (render_eq_ok_iff declared renderer).1 rendered
  refine ⟨Text.ofString "\n" ++ (declared.traits.flatMap (traitLine renderer) ++ constants ++
    properties ++ methods ++ "\x7d"), ?_⟩
  simp only [opening, noLines, List.nil_append, List.append_assoc]
  rfl

/-- What a class is written with in front of the brace is its headline, and no other. It is the
headline that belongs to the class, and fits its kind, unless a trait is given a parent. -/
theorem header_reads_back (renderer : Renderer) (declared : ClassLike)
    (named : declared.HasHeaderNames)
    (undocumented : ∀ comment ∈ declared.docComment, comment = []) :
    (∀ fragment, (declared.render renderer).outcome = .ok fragment →
        ∃ body, fragment.text = declared.header ++ (Text.ofString " \x7b" ++ body) ∧
          Script.header fragment.text = some (declared.headline, Text.ofString " \x7b" ++ body)) ∧
      CodePoint.char '\x7b' ∉ declared.header ∧
      (∀ other : ClassLike, other.HasHeaderNames → other.header = declared.header →
        other.headline = declared.headline) ∧
      (∀ name ∈ declared.headline.extended ++ declared.headline.implemented, IsQualified name) ∧
      (declared.headline = declared.dueHeadline ↔
        (declared.kind = .trait → declared.parents = [])) ∧
      (declared.headline.FitsKind ↔ (declared.kind = .trait → declared.parents = [])) := by
  refine ⟨?_, header_braceless named, ?_, headline_references named, headline_due_iff declared,
    headline_fits_iff declared⟩
  · intro fragment rendered
    obtain ⟨body, text⟩ := render_begins declared undocumented rendered
    refine ⟨body, text, ?_⟩
    rw [text]
    exact header_read named body
  · intro other otherNamed same
    exact headline_eq_of_header named otherNamed same

/-- An abstract class with a parent and two interfaces. -/
theorem header_reads_back_child :
    let child : ClassLike :=
      { name := "A\\Child", parent := some "P", interfaces := ["\\I", "J"], isAbstract := true }
    child.HasHeaderNames ∧ child.docComment = none ∧
      child.header = "abstract class Child extends \\P implements \\I, \\J" ∧
      (∃ fragment rest, (render .plain child).outcome = .ok fragment ∧
        Script.header fragment.text =
          some (⟨.ordinary, true, false, "Child", ["P"], ["I", "J"]⟩, rest)) ∧
      child.headline = child.dueHeadline ∧ child.headline.FitsKind := by
  intro child
  have named : child.HasHeaderNames :=
    ⟨by decide +kernel, by decide +kernel, by decide +kernel⟩
  have rendered := (render_eq_ok_iff child .plain).2 ⟨[], [], [], rfl, rfl, rfl, rfl⟩
  have headline : child.headline = ⟨.ordinary, true, false, "Child", ["P"], ["I", "J"]⟩ := by
    decide +kernel
  obtain ⟨read, -, -, -, due, fits⟩ :=
    header_reads_back .plain child named (by simp [child])
  obtain ⟨body, -, found⟩ := read _ rendered
  rw [headline] at found
  exact ⟨named, rfl, by decide +kernel, ⟨_, _, rendered, found⟩, due.2 (by simp [child]),
    fits.2 (by simp [child])⟩

/-- A trait with a parent is written as no trait can be. -/
theorem trait_extends_parent :
    let broken : ClassLike := { name := "T", kind := .trait, parent := some "P" }
    broken.HasHeaderNames ∧ broken.docComment = none ∧
      broken.header = "trait T extends \\P" ∧
      (∃ fragment rest, (render .plain broken).outcome = .ok fragment ∧
        Script.header fragment.text = some (⟨.trait, false, false, "T", ["P"], []⟩, rest)) ∧
      broken.dueHeadline = ⟨.trait, false, false, "T", [], []⟩ ∧ ¬broken.headline.FitsKind := by
  intro broken
  have named : broken.HasHeaderNames :=
    ⟨by decide +kernel, by decide +kernel, by decide +kernel⟩
  have rendered := (render_eq_ok_iff broken .plain).2 ⟨[], [], [], rfl, rfl, rfl, rfl⟩
  have headline : broken.headline = ⟨.trait, false, false, "T", ["P"], []⟩ := by decide +kernel
  obtain ⟨body, text⟩ := render_begins broken (by simp [broken]) rendered
  have found := header_read named body
  rw [← text, headline] at found
  refine ⟨named, rfl, by decide +kernel, ⟨_, _, rendered, found⟩, by decide +kernel, ?_⟩
  intro fits
  exact absurd ((headline_fits_iff broken).1 fits rfl) (by decide)

end ClassLike

end Stubwright
