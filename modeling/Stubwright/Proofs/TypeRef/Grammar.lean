import Stubwright.Proofs.Declaration.Stored
import Stubwright.Proofs.Script.Type

/-!
Which types are written in the notation of the script. The notation puts a mark for null in front of
a single name only, joins two or more of what it joins, and encloses nothing but an intersection
that stands in a union. A type that was read from its written form keeps to that; a type that was
spelled out can have marks and numbers of members that the notation has no place for.
-/

namespace Stubwright

open Script (IsQualified)

/-- A name as a type: a built-in name in any letter case, or a class with the mark of the root. -/
inductive IsTypeName : Text → Prop
  | builtin {name text : Text} (known : name ∈ builtinNames) (letters : SameLetters name text) :
      IsTypeName text
  | named {name : Text} (qualified : IsQualified name) : IsTypeName (separator :: name)

inductive IsConjunction : Text → Prop
  | joined {names : List Text} (several : 2 ≤ names.length)
      (qualified : ∀ name ∈ names, IsQualified name) :
      IsConjunction (Text.joinWith "&" (names.map (separator :: ·)))

inductive IsAlternative : Text → Prop
  | name {text : Text} (isName : IsTypeName text) : IsAlternative text
  | enclosed {text : Text} (conjunction : IsConjunction text) : IsAlternative ("(" ++ text ++ ")")

/-- The types of the notation. -/
inductive IsTypeText : Text → Prop
  | plain {text : Text} (isName : IsTypeName text) : IsTypeText text
  | nullable {text : Text} (isName : IsTypeName text) : IsTypeText ("?" ++ text)
  | intersection {text : Text} (conjunction : IsConjunction text) : IsTypeText text
  | union {texts : List Text} (several : 2 ≤ texts.length)
      (alternatives : ∀ text ∈ texts, IsAlternative text) : IsTypeText (Text.joinWith "|" texts)

def SingleType.HasName : SingleType → Prop
  | .builtin name _ => ∃ known ∈ builtinNames, SameLetters known name
  | .named name _ => IsQualified name

def Conjunct.HasName : Conjunct → Prop
  | .named name _ => IsQualified name
  | .foreign _ => True

def Alternative.HasNames : Alternative → Prop
  | .single type => type.HasName
  | .intersection members => ∀ member ∈ members, member.HasName
  | .foreign _ => True

/-- Whether the names in a type are those of types: built-in names where it says so, and else names
of classes. -/
def TypeRef.HasNames : TypeRef → Prop
  | .single type => type.HasName
  | .intersection members => ∀ member ∈ members, member.HasName
  | .union members => ∀ member ∈ members, member.HasNames
  | .foreign _ => True

def SingleType.isMarked (type : SingleType) : Bool := type.settled.nullable

def Conjunct.isMarked : Conjunct → Bool
  | .named name nullable => (SingleType.named name nullable).isMarked
  | .foreign _ => false

def IsGroup (members : List Conjunct) : Prop :=
  2 ≤ members.length ∧ ∀ member ∈ members, member.isMarked = false

def Alternative.IsRegular : Alternative → Prop
  | .single type => type.isMarked = false
  | .intersection members => IsGroup members
  | .foreign _ => False

/-- Whether the notation has a place for all marks and members of a type. A single member is written
like a type of its own, so there it may be marked, but no intersection stands alone in a union. -/
def TypeRef.IsRegular : TypeRef → Prop
  | .single _ => True
  | .intersection members => members.length = 1 ∨ IsGroup members
  | .union members =>
      (∃ type, members = [.single type]) ∨
        2 ≤ members.length ∧ ∀ member ∈ members, member.IsRegular
  | .foreign _ => False

/-- The language takes some white space for letters, but no other mark of the notation. -/
theorem word_point_spaced {point : CodePoint} (inWord : Script.isWordPoint point = true)
    (isMark : isTypeMark point = true) : point.isIn Text.isBlank = true := by
  cases point with
  | half offset => cases isMark
  | char c =>
      simp only [isTypeMark, CodePoint.isIn, Bool.or_eq_true, decide_eq_true_eq] at isMark
      rcases isMark with ((((blank | rfl) | rfl) | rfl) | rfl) | rfl
      · exact blank
      all_goals exact absurd inWord (by decide)

theorem qualified_spaced {name : Text} (qualified : IsQualified name) : SpacedMarks [] name := by
  intro point member isMark
  rcases Script.qualified_points qualified point member with isPoint | rfl
  · exact .inl (word_point_spaced isPoint isMark)
  · exact absurd isMark (by decide)

theorem IsTypeName.spaced {text : Text} (isName : IsTypeName text) : SpacedMarks [] text := by
  cases isName with
  | builtin known letters => exact .of_unmarked (letters.unmarked (builtin_name_unmarked _ known))
  | named qualified =>
      have root : SpacedMarks [] [separator] := .of_unmarked (by decide)
      exact root.append (qualified_spaced qualified)

theorem IsTypeName.nullable_spaced {text : Text} (isName : IsTypeName text) :
    SpacedMarks [.char '?'] ("?" ++ text) := by
  have mark : SpacedMarks [.char '?'] "?" := .listed (by decide)
  exact mark.append (isName.spaced.mono (by simp))

theorem IsTypeName.nonempty {text : Text} (isName : IsTypeName text) : text ≠ [] := by
  cases isName with
  | @builtin name _ known letters =>
      obtain ⟨chars, rfl⟩ := letters
      rintro empty
      rw [List.map_eq_nil_iff.1 empty] at known
      exact absurd known (by decide)
  | named qualified => simp

theorem IsConjunction.spaced {text : Text} (conjunction : IsConjunction text) :
    SpacedMarks [.char '&'] text ∧ CodePoint.char '&' ∈ text := by
  obtain ⟨several, qualified⟩ := conjunction
  constructor
  · apply SpacedMarks.join_with "&" _ (by decide)
    intro piece among
    obtain ⟨name, member, rfl⟩ := List.mem_map.1 among
    exact (IsTypeName.named (qualified name member)).spaced.mono (by simp)
  · apply mem_join_with_mark
    rwa [List.length_map]

theorem IsAlternative.spaced {text : Text} (alternative : IsAlternative text) :
    SpacedMarks [.char '(', .char ')', .char '&'] text := by
  cases alternative with
  | name isName => exact isName.spaced.mono (by simp)
  | enclosed conjunction => exact conjunction.spaced.1.enclosed

/-- Joined pieces determine each other where none of them holds the mark. -/
theorem joined_injective {mark : CodePoint} {pieces others : List Text}
    (nonempty : pieces ≠ []) (othersNonempty : others ≠ [])
    (clean : ∀ piece ∈ pieces, mark ∉ piece) (othersClean : ∀ piece ∈ others, mark ∉ piece)
    (same : Text.joinWith [mark] pieces = Text.joinWith [mark] others) : pieces = others := by
  have cut := Text.split_at_intercalate mark pieces nonempty clean
  have otherCut := Text.split_at_intercalate mark others othersNonempty othersClean
  rw [Text.joinWith, Text.joinWith] at same
  rw [← cut, same, otherCut]

theorem length_eq_of_maps {α β γ : Type} {first : α → γ} {second : β → γ} {items : List α}
    {others : List β} (same : items.map first = others.map second) :
    items.length = others.length := by
  rw [← items.length_map first, same, List.length_map]

namespace SingleType

variable {type : SingleType}

theorem written_is_name (hasName : type.HasName) : IsTypeName type.written := by
  cases type with
  | builtin name nullable =>
      obtain ⟨known, among, letters⟩ := hasName
      exact .builtin among letters
  | named name nullable => exact .named hasName

theorem render_unmarked (plain : type.isMarked = false) : type.render = type.written := by
  rw [isMarked] at plain
  rw [render_eq, plain, if_neg Bool.false_ne_true]

theorem render_marked (marked : type.isMarked = true) :
    type.render = .char '?' :: type.written := by
  rw [render_eq]
  exact if_pos marked

theorem render_spaced (hasName : type.HasName) : SpacedMarks [.char '?'] type.render := by
  have isName := written_is_name hasName
  cases marked : type.isMarked with
  | false =>
      rw [render_unmarked marked]
      exact isName.spaced.mono (by simp)
  | true =>
      rw [render_marked marked]
      exact isName.nullable_spaced

theorem render_is_type_text (hasName : type.HasName) : IsTypeText type.render := by
  have isName := written_is_name hasName
  cases marked : type.isMarked with
  | false =>
      rw [render_unmarked marked]
      exact .plain isName
  | true =>
      rw [render_marked marked]
      exact .nullable isName

end SingleType

namespace Conjunct

def text : Conjunct → Text
  | .named name nullable => (SingleType.named name nullable).render
  | .foreign _ => []

variable {member : Conjunct}

theorem render_text (bare : member.IsBare) : member.render = .ok member.text := by
  cases member with
  | named name nullable => rfl
  | foreign value => exact absurd bare id

theorem text_spaced (hasName : member.HasName) : SpacedMarks [.char '?'] member.text := by
  cases member with
  | named name nullable => exact SingleType.render_spaced hasName
  | foreign value =>
      intro point among
      cases among

theorem text_unmarked (bare : member.IsBare) (hasName : member.HasName)
    (plain : member.isMarked = false) :
    ∃ name, IsQualified name ∧ member.text = separator :: name := by
  cases member with
  | named name nullable => exact ⟨name, hasName, SingleType.render_unmarked plain⟩
  | foreign value => exact absurd bare id

theorem text_is_type_text (bare : member.IsBare) (hasName : member.HasName) :
    IsTypeText member.text := by
  cases member with
  | named name nullable => exact SingleType.render_is_type_text hasName
  | foreign value => exact absurd bare id

theorem unmarked_of_rooted {name : Text} (rooted : member.text = separator :: name) :
    member.isMarked = false := by
  cases member with
  | named given nullable =>
      cases marked : (Conjunct.named given nullable).isMarked with
      | false => rfl
      | true =>
          rw [text, SingleType.render_marked marked] at rooted
          exact absurd (List.cons.inj rooted).1 (by decide)
  | foreign value => rfl

end Conjunct

section

variable {members : List Conjunct} (bare : ∀ member ∈ members, member.IsBare)
  (named : ∀ member ∈ members, member.HasName)

include bare in
theorem intersection_text :
    renderIntersection members = .ok (Text.joinWith "&" (members.map Conjunct.text)) := by
  have written := map_m_written Conjunct.render Conjunct.text members
    fun member among => Conjunct.render_text (bare member among)
  rw [renderIntersection, written]
  rfl

include named in
theorem conjuncts_spaced :
    SpacedMarks [.char '?', .char '&'] (Text.joinWith "&" (members.map Conjunct.text)) := by
  apply SpacedMarks.join_with "&" _ (by decide)
  intro piece among
  obtain ⟨member, found, rfl⟩ := List.mem_map.1 among
  exact (Conjunct.text_spaced (named member found)).mono (by simp)

include bare named in
theorem exists_class_names (plain : ∀ member ∈ members, member.isMarked = false) :
    ∃ names : List Text, (∀ name ∈ names, IsQualified name) ∧
      members.map Conjunct.text = names.map (separator :: ·) := by
  induction members with
  | nil => exact ⟨[], by simp, rfl⟩
  | cons member members ih =>
      obtain ⟨name, isQualified, written⟩ :=
        Conjunct.text_unmarked (bare member (by simp)) (named member (by simp))
          (plain member (by simp))
      obtain ⟨names, qualified, texts⟩ := ih (fun other found => bare other (by simp [found]))
        (fun other found => named other (by simp [found]))
        (fun other found => plain other (by simp [found]))
      refine ⟨name :: names, ?_, ?_⟩
      · simpa [isQualified] using qualified
      · rw [List.map_cons, List.map_cons, written, texts]

include bare named in
/-- Joined members are a conjunction of the notation exactly if they are a group. -/
theorem is_conjunction_iff :
    IsConjunction (Text.joinWith "&" (members.map Conjunct.text)) ↔ IsGroup members := by
  constructor
  · intro conjunction
    generalize whole : Text.joinWith "&" (members.map Conjunct.text) = text at conjunction
    have ampersand := conjunction.spaced.2
    cases conjunction with
    | @joined names several qualified =>
    have same : members.map Conjunct.text = names.map (separator :: ·) := by
      refine joined_injective ?_ ?_ ?_ ?_ whole
      · intro none
        rw [← whole, none] at ampersand
        cases ampersand
      · intro none
        rw [List.map_eq_nil_iff.1 none] at several
        cases several
      · intro piece among
        obtain ⟨member, found, rfl⟩ := List.mem_map.1 among
        exact (Conjunct.text_spaced (named member found)).not_mem rfl (by decide) (by decide)
      · intro piece among
        obtain ⟨name, found, rfl⟩ := List.mem_map.1 among
        exact (IsTypeName.named (qualified name found)).spaced.not_mem rfl (by decide) (by simp)
    constructor
    · rwa [length_eq_of_maps same]
    · intro member found
      have among : member.text ∈ names.map (separator :: ·) := by
        rw [← same]
        exact List.mem_map_of_mem found
      obtain ⟨name, -, rooted⟩ := List.mem_map.1 among
      exact Conjunct.unmarked_of_rooted rooted.symm
  · rintro ⟨several, plain⟩
    obtain ⟨names, qualified, texts⟩ := exists_class_names bare named plain
    rw [texts]
    refine .joined ?_ qualified
    rwa [← length_eq_of_maps texts]

end

namespace Alternative

def text : Alternative → Text
  | .single type => type.render
  | .intersection members => "(" ++ Text.joinWith "&" (members.map Conjunct.text) ++ ")"
  | .foreign _ => []

variable {member : Alternative}

theorem render_text (bare : member.IsBare) : member.render = .ok member.text := by
  cases member with
  | single type => rfl
  | intersection members =>
      rw [render, intersection_text bare]
      rfl
  | foreign value => exact absurd bare id

theorem text_spaced (hasNames : member.HasNames) :
    SpacedMarks [.char '(', .char ')', .char '?', .char '&'] member.text := by
  cases member with
  | single type => exact (SingleType.render_spaced hasNames).mono (by simp)
  | intersection members => exact (conjuncts_spaced hasNames).enclosed
  | foreign value =>
      intro point among
      cases among

theorem is_alternative_iff (bare : member.IsBare) (hasNames : member.HasNames) :
    IsAlternative member.text ↔ member.IsRegular := by
  cases member with
  | single type =>
      have isName := SingleType.written_is_name hasNames
      constructor
      · intro alternative
        have unmarked : CodePoint.char '?' ∉ type.render :=
          alternative.spaced.not_mem rfl (by decide) (by decide)
        cases marked : type.isMarked with
        | false => exact marked
        | true =>
            rw [SingleType.render_marked marked] at unmarked
            exact absurd (List.mem_cons_self) unmarked
      · intro plain
        rw [text, SingleType.render_unmarked plain]
        exact .name isName
  | intersection members =>
      have group := is_conjunction_iff bare hasNames
      rw [text, IsRegular, ← group]
      constructor
      · intro alternative
        generalize whole : "(" ++ Text.joinWith "&" (members.map Conjunct.text) ++ ")" = enclosed
          at alternative
        cases alternative with
        | name isName =>
            have opening : CodePoint.char '(' ∈ enclosed := by
              rw [← whole]
              exact List.mem_cons_self
            exact absurd opening (isName.spaced.not_mem rfl (by decide) (by simp))
        | enclosed conjunction =>
            have inner := List.append_cancel_left (List.append_cancel_right whole)
            rwa [inner]
      · exact .enclosed
  | foreign value => exact absurd bare id

end Alternative

namespace IsTypeText

variable {text : Text} (isType : IsTypeText text)
include isType

theorem union_of_bar (bar : CodePoint.char '|' ∈ text) :
    ∃ texts, 2 ≤ texts.length ∧ (∀ text ∈ texts, IsAlternative text) ∧
      text = Text.joinWith "|" texts := by
  cases isType with
  | plain isName => exact absurd bar (isName.spaced.not_mem rfl (by decide) (by simp))
  | nullable isName => exact absurd bar (isName.nullable_spaced.not_mem rfl (by decide) (by decide))
  | intersection conjunction =>
      exact absurd bar (conjunction.spaced.1.not_mem rfl (by decide) (by decide))
  | union several alternatives => exact ⟨_, several, alternatives, rfl⟩

theorem conjunction_of_ampersand (ampersand : CodePoint.char '&' ∈ text)
    (noBar : CodePoint.char '|' ∉ text) : IsConjunction text := by
  cases isType with
  | plain isName => exact absurd ampersand (isName.spaced.not_mem rfl (by decide) (by simp))
  | nullable isName =>
      exact absurd ampersand (isName.nullable_spaced.not_mem rfl (by decide) (by decide))
  | intersection conjunction => exact conjunction
  | union several alternatives => exact absurd (mem_join_with_mark several) noBar

/-- Only what stands in a union is enclosed. -/
theorem no_opening (noBar : CodePoint.char '|' ∉ text) : CodePoint.char '(' ∉ text := by
  cases isType with
  | plain isName => exact isName.spaced.not_mem rfl (by decide) (by simp)
  | nullable isName => exact isName.nullable_spaced.not_mem rfl (by decide) (by decide)
  | intersection conjunction => exact conjunction.spaced.1.not_mem rfl (by decide) (by decide)
  | union several alternatives => exact absurd (mem_join_with_mark several) noBar

theorem nonempty : text ≠ [] := by
  cases isType with
  | plain isName => exact isName.nonempty
  | nullable isName => exact List.cons_ne_nil _ _
  | intersection conjunction => exact List.ne_nil_of_mem conjunction.spaced.2
  | union several alternatives => exact List.ne_nil_of_mem (mem_join_with_mark several)

end IsTypeText

namespace TypeRef

theorem intersection_iff {members : List Conjunct} (bare : ∀ member ∈ members, member.IsBare)
    (named : ∀ member ∈ members, member.HasName) :
    IsTypeText (Text.joinWith "&" (members.map Conjunct.text)) ↔
      members.length = 1 ∨ IsGroup members := by
  have group := is_conjunction_iff bare named
  match members with
  | [] =>
      apply iff_of_false
      · intro isType
        exact isType.nonempty rfl
      · simp [IsGroup]
  | [member] =>
      have alone := Conjunct.text_is_type_text (bare member (by simp)) (named member (by simp))
      rw [List.map_singleton, Text.joinWith, List.intercalate_singleton]
      exact iff_of_true alone (.inl rfl)
  | first :: second :: others =>
      have several : 2 ≤ ((first :: second :: others).map Conjunct.text).length := by simp
      rw [← group]
      constructor
      · intro isType
        refine .inr (isType.conjunction_of_ampersand (mem_join_with_mark several) ?_)
        exact (conjuncts_spaced named).not_mem rfl (by decide) (by decide)
      · rintro (one | conjunction)
        · simp at one
        · exact .intersection conjunction

/-- Texts without bars are the pieces of what they are joined to, so a type with bars has just these
alternatives. -/
theorem several_iff {members : List Alternative} (bare : ∀ member ∈ members, member.IsBare)
    (named : ∀ member ∈ members, member.HasNames) (several : 2 ≤ members.length) :
    IsTypeText (Text.joinWith "|" (members.map Alternative.text)) ↔
      ∀ member ∈ members, member.IsRegular := by
  have noBar : ∀ piece ∈ members.map Alternative.text, CodePoint.char '|' ∉ piece := by
    intro piece among
    obtain ⟨member, found, rfl⟩ := List.mem_map.1 among
    exact (Alternative.text_spaced (named member found)).not_mem rfl (by decide) (by decide)
  have severalTexts : 2 ≤ (members.map Alternative.text).length := by rwa [List.length_map]
  have piece_iff := fun member among =>
    Alternative.is_alternative_iff (bare member among) (named member among)
  constructor
  · intro isType member among
    obtain ⟨texts, enough, alternatives, whole⟩ :=
      isType.union_of_bar (mem_join_with_mark severalTexts)
    have same : members.map Alternative.text = texts := by
      apply joined_injective (List.ne_nil_of_length_pos (by omega))
        (List.ne_nil_of_length_pos (by omega)) noBar _ whole
      intro piece among
      exact (alternatives piece among).spaced.not_mem rfl (by decide) (by decide)
    apply (piece_iff member among).1
    apply alternatives
    rw [← same]
    exact List.mem_map_of_mem among
  · intro regular
    apply IsTypeText.union severalTexts
    intro piece among
    obtain ⟨member, found, rfl⟩ := List.mem_map.1 among
    exact (piece_iff member found).2 (regular member found)

theorem union_iff {members : List Alternative} (bare : ∀ member ∈ members, member.IsBare)
    (named : ∀ member ∈ members, member.HasNames) :
    IsTypeText (Text.joinWith "|" (members.map Alternative.text)) ↔
      (TypeRef.union members).IsRegular := by
  match members with
  | [] =>
      apply iff_of_false
      · intro isType
        exact isType.nonempty rfl
      · simp [IsRegular]
  | [.single type] =>
      have alone := SingleType.render_is_type_text (named (.single type) (by simp))
      rw [List.map_singleton, Text.joinWith, List.intercalate_singleton]
      exact iff_of_true alone (.inl ⟨type, rfl⟩)
  | [.intersection inner] =>
      have noBar : CodePoint.char '|' ∉ (Alternative.intersection inner).text :=
        (Alternative.text_spaced (named _ (by simp))).not_mem rfl (by decide) (by decide)
      apply iff_of_false
      · intro isType
        rw [List.map_singleton, Text.joinWith, List.intercalate_singleton] at isType
        exact isType.no_opening noBar List.mem_cons_self
      · simp [IsRegular]
  | [.foreign value] => exact absurd (bare (.foreign value) (by simp)) id
  | first :: second :: others =>
      rw [several_iff bare named (by simp)]
      constructor
      · exact fun regular => .inr ⟨by simp, regular⟩
      · rintro (⟨type, one⟩ | ⟨-, regular⟩)
        · cases one
        · exact regular

theorem rendered_iff {type : TypeRef} (bare : type.IsBare) (hasNames : type.HasNames) :
    ∃ text, type.render = .ok text ∧ (IsTypeText text ↔ type.IsRegular) := by
  cases type with
  | single type =>
      exact ⟨type.render, rfl, iff_of_true (SingleType.render_is_type_text hasNames) trivial⟩
  | intersection members =>
      exact ⟨_, intersection_text bare, intersection_iff bare hasNames⟩
  | union members =>
      refine ⟨Text.joinWith "|" (members.map Alternative.text), ?_, union_iff bare hasNames⟩
      rw [render, map_m_written Alternative.render Alternative.text members
        fun member among => Alternative.render_text (bare member among)]
      rfl
  | foreign value => exact absurd bare id

theorem conjuncts_group {text : Text} (ampersand : CodePoint.char '&' ∈ text) :
    IsGroup (conjuncts text) := by
  constructor
  · rw [conjuncts, List.length_map]
    apply Text.several_pieces
    exact Text.mem_trim_of_kept (Text.mem_trim_of_kept ampersand (by decide)) (by decide)
  · intro member among
    obtain ⟨piece, -, rfl⟩ := List.mem_map.1 among
    rfl

theorem alternative_regular (text : Text) : (alternative text).IsRegular := by
  unfold alternative
  split
  · rename_i ampersand
    exact conjuncts_group (List.contains_iff_mem.1 ampersand)
  · unfold SingleType.ofText
    dsimp only
    split <;> rfl

theorem pieces_regular (nullable : Bool) {pieces : List Text} (nonempty : pieces ≠ []) :
    (ofPieces nullable pieces).IsRegular := by
  match pieces with
  | [] => exact absurd rfl nonempty
  | [only] =>
      unfold ofPieces
      dsimp only
      split
      · rename_i ampersand
        exact .inr (conjuncts_group (List.contains_iff_mem.1 ampersand))
      · exact trivial
  | first :: second :: others =>
      refine .inr ⟨by simp, ?_⟩
      intro member among
      obtain ⟨piece, -, rfl⟩ := List.mem_map.1 among
      exact alternative_regular piece

/-- The reader puts no mark inside of a union or an intersection, and reads as such only what has
two or more members. -/
theorem of_text_regular (text : Text) : (ofText text).IsRegular := by
  have nonempty : ∀ body : Text, (Text.splitAt (CodePoint.char '|') body).map Text.strip ≠ [] :=
    fun body none => Text.split_at_ne_nil _ body (List.map_eq_nil_iff.1 none)
  exact pieces_regular _ (nonempty _)

/-- A type whose names are those of types has a text whatever else was accepted in it. The text is a
type of the notation exactly if the type is regular, as it is whenever it was given in its written
form. -/
theorem valid_is_type_text (data : Value) (type : TypeRef)
    (valid : readField data = .valid (some type)) (hasNames : type.HasNames) :
    ∃ text, type.render = .ok text ∧ (IsTypeText text ↔ type.IsRegular) ∧
      ∀ written, data = .str written → IsTypeText text := by
  have bare := read_field_valid valid type rfl
  obtain ⟨text, rendered, isType⟩ := rendered_iff bare hasNames
  refine ⟨text, rendered, isType, ?_⟩
  rintro written rfl
  have regular := of_text_regular written
  rw [Option.some.inj (Checked.valid.inj valid)] at regular
  exact isType.2 regular

/-- A union with an intersection in it, as it is spelled out. -/
theorem valid_is_type_text_enclosed :
    let data : Value := .map [(.str "kind", .str "union"), (.str "types", .list [
      .map [(.str "kind", .str "intersection"), (.str "types", .list [
        .map [(.str "kind", .str "named"), (.str "name", .str "\\A\\B")],
        .map [(.str "kind", .str "named"), (.str "name", .str "C")]])],
      .map [(.str "kind", .str "builtin"), (.str "name", .str "int")]])]
    let type : TypeRef := .union [.intersection [.named "A\\B" false, .named "C" false],
      .single (.builtin "int" false)]
    readField data = .valid (some type) ∧ type.HasNames ∧ IsTypeText "(\\A\\B&\\C)|int" := by
  intro data type
  have valid : readField data = .valid (some type) := rfl
  have hasNames : type.HasNames := by
    intro member among
    rcases List.mem_pair.1 among with rfl | rfl
    · intro conjunct found
      rcases List.mem_pair.1 found with rfl | rfl
      · exact (by decide : IsQualified "A\\B")
      · exact (by decide : IsQualified "C")
    · exact ⟨"int", by decide, builtin_name_letters "int" (by decide)⟩
  obtain ⟨text, rendered, isType, -⟩ := valid_is_type_text data type valid hasNames
  have regular : type.IsRegular := by
    refine .inr ⟨Nat.le_refl 2, ?_⟩
    intro member among
    rcases List.mem_pair.1 among with rfl | rfl
    · exact ⟨Nat.le_refl 2, by decide⟩
    · rfl
  cases rendered
  exact ⟨valid, hasNames, isType.2 regular⟩

/-- A mark inside of a union is accepted and written, and the notation has no place for it. -/
theorem marked_alternative_is_written :
    let data : Value := .map [(.str "kind", .str "union"), (.str "types", .list [
      .map [(.str "kind", .str "named"), (.str "name", .str "A"), (.str "nullable", .bool true)],
      .map [(.str "kind", .str "builtin"), (.str "name", .str "int")]])]
    let type : TypeRef := .union [.single (.named "A" true), .single (.builtin "int" false)]
    readField data = .valid (some type) ∧ type.HasNames ∧ type.render = .ok "?\\A|int" ∧
      ¬IsTypeText "?\\A|int" := by
  intro data type
  have valid : readField data = .valid (some type) := rfl
  have hasNames : type.HasNames := by
    intro member among
    rcases List.mem_pair.1 among with rfl | rfl
    · exact (by decide : IsQualified "A")
    · exact ⟨"int", by decide, builtin_name_letters "int" (by decide)⟩
  obtain ⟨text, rendered, isType⟩ := rendered_iff (read_field_valid valid type rfl) hasNames
  have irregular : ¬type.IsRegular := by
    rintro (⟨_, one⟩ | ⟨-, regular⟩)
    · cases one
    · have plain : (SingleType.named "A" true).isMarked = false := regular _ List.mem_cons_self
      exact absurd plain (by decide)
  cases rendered
  exact ⟨valid, hasNames, rfl, fun isText => irregular (isType.1 isText)⟩

end TypeRef

end Stubwright
