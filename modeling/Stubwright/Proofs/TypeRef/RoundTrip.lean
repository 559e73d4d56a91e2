import Stubwright.Proofs.TypeRef.Spelling

/-!
Reading a written type gives the type back. The written form of a type is one of its spellings,
without white space and with one mark of the root before every class, so what is read from it is
what is read from all of them.
-/

namespace Stubwright

theorem Padded.refl (core : Text) : Padded core core := by
  have alone : Padded core ([] ++ (core ++ [])) := .mk [] [] (by simp) (by simp)
  rwa [List.append_nil, List.nil_append] at alone

theorem builtin_name_letters (name : Text) (builtin : name ∈ builtinNames) :
    SameLetters name name := by
  have letters : ∀ name ∈ builtinNames,
      Text.ofChars (name.filterMap CodePoint.char?) = name ∧
        Text.ofChars ((name.filterMap CodePoint.char?).map Char.toLower) = name := by
    decide
  obtain ⟨itself, lower⟩ := letters name builtin
  have spelled := SameLetters.mk _ lower
  rwa [itself] at spelled

namespace SingleType

def written : SingleType → Text
  | .builtin name _ => name
  | .named name _ => separator :: name

theorem render_eq (type : SingleType) :
    type.render = if type.settled.nullable then .char '?' :: type.written else type.written := by
  cases type <;> rfl

theorem settled_of_plain (type : SingleType) (plain : type.nullable = false) :
    type.settled = type := by
  cases type with
  | builtin name nullable =>
      change nullable = false at plain
      simp [settled, plain]
  | named name nullable =>
      change nullable = false at plain
      simp [settled, plain]

theorem settled_spells (type : SingleType) {isClass : Text → Prop}
    (wellFormed : type.IsWellFormed isClass) : type.settled.Spells type.written := by
  cases type with
  | builtin name nullable => exact .builtin (builtin_name_letters name wellFormed)
  | named name nullable => exact .named 1 fun _ => Nat.one_pos

end SingleType

/-- Where each member is written as a spelling of it, so are all of them in order. -/
theorem map_m_spells {α : Type} {write : α → Except RenderError Text} {spells : α → Text → Prop}
    {members : List α}
    (each : ∀ member ∈ members, ∃ text, write member = .ok text ∧ spells member text) :
    ∃ texts, members.mapM write = .ok texts ∧ List.Forall₂ spells members texts := by
  induction members with
  | nil => exact ⟨[], rfl, .nil⟩
  | cons member members ih =>
      obtain ⟨text, written, here⟩ := each member (by simp)
      obtain ⟨texts, others, later⟩ := ih fun other more => each other (by simp [more])
      refine ⟨text :: texts, ?_, .cons here later⟩
      rw [List.mapM_cons, written, others]
      rfl

theorem Conjunct.render_spells (member : Conjunct) {isClass : Text → Prop}
    (wellFormed : member.IsWellFormed isClass) :
    ∃ text, member.render = .ok text ∧ member.Spells text := by
  cases member with
  | foreign value => exact absurd wellFormed id
  | named name nullable =>
      have plain : nullable = false := wellFormed.2
      subst plain
      exact ⟨separator :: name, rfl, .named 1 (.refl _)⟩

theorem intersection_written {members : List Conjunct} {isClass : Text → Prop}
    (wellFormed : ∀ member ∈ members, member.IsWellFormed isClass) :
    ∃ pieces, renderIntersection members = .ok (Text.joinWith "&" pieces) ∧
      List.Forall₂ Conjunct.Spells members pieces := by
  obtain ⟨pieces, written, each⟩ :=
    map_m_spells fun member among => Conjunct.render_spells member (wellFormed member among)
  refine ⟨pieces, ?_, each⟩
  rw [renderIntersection, written]
  rfl

theorem Alternative.render_spells (member : Alternative) {isClass : Text → Prop}
    (wellFormed : member.IsWellFormed isClass) :
    ∃ text, member.render = .ok text ∧ member.Spells text := by
  cases member with
  | foreign value => exact absurd wellFormed id
  | single type =>
      have plain := type.settled_of_plain wellFormed.2
      have spelled := type.settled_spells wellFormed.1
      rw [plain] at spelled
      refine ⟨type.written, ?_, .single spelled (.refl _)⟩
      rw [render, SingleType.render_eq, plain, wellFormed.2]
      rfl
  | intersection members =>
      obtain ⟨pieces, written, each⟩ := intersection_written wellFormed.2
      refine ⟨"(" ++ Text.joinWith "&" pieces ++ ")", ?_, .intersection (.enclosed each (.refl _))⟩
      rw [render, written]
      rfl

section

variable {isClass isLabel : Text → Prop} (wider : ∀ name, isClass name → isLabel name)
include wider

theorem SingleType.IsWellFormed.settled {type : SingleType}
    (wellFormed : type.IsWellFormed isClass) : type.settled.IsWellFormed isLabel := by
  cases type with
  | builtin name nullable => exact wellFormed
  | named name nullable => exact wider name wellFormed

theorem Conjunct.IsWellFormed.mono {member : Conjunct} (wellFormed : member.IsWellFormed isClass) :
    member.IsWellFormed isLabel := by
  cases member with
  | named name nullable => exact ⟨wider name wellFormed.1, wellFormed.2⟩
  | foreign value => exact wellFormed

theorem Alternative.IsWellFormed.mono {member : Alternative}
    (wellFormed : member.IsWellFormed isClass) : member.IsWellFormed isLabel := by
  cases member with
  | single type =>
      have settled := SingleType.IsWellFormed.settled wider wellFormed.1
      rw [type.settled_of_plain wellFormed.2] at settled
      exact ⟨settled, wellFormed.2⟩
  | intersection members =>
      exact ⟨wellFormed.1, fun member among => (wellFormed.2 member among).mono wider⟩
  | foreign value => exact wellFormed

/-- A type stays well formed if its mark for null is settled, and for a wider notion of what names
a class. -/
theorem TypeRef.IsWellFormed.settled {type : TypeRef} (wellFormed : type.IsWellFormed isClass) :
    type.settled.IsWellFormed isLabel := by
  cases type with
  | single type => exact SingleType.IsWellFormed.settled wider wellFormed
  | intersection members =>
      exact ⟨wellFormed.1, fun member among => (wellFormed.2 member among).mono wider⟩
  | union members =>
      exact ⟨wellFormed.1, fun member among => (wellFormed.2 member among).mono wider⟩
  | foreign value => exact wellFormed

end

namespace TypeRef

/-- The written form is a spelling of the type, less a mark for null that says nothing. -/
theorem render_spells (type : TypeRef) {isClass : Text → Prop}
    (wellFormed : type.IsWellFormed isClass) :
    ∃ text, type.render = .ok text ∧ type.settled.Spells text := by
  cases type with
  | single type =>
      have spelled := type.settled_spells wellFormed
      refine ⟨type.render, rfl, ?_⟩
      rw [SingleType.render_eq]
      cases marked : type.settled.nullable with
      | false => exact .plain marked spelled (.refl _)
      | true => exact .nullable marked spelled (.refl _) (.refl _)
  | intersection members =>
      obtain ⟨pieces, written, each⟩ := intersection_written wellFormed.2
      exact ⟨_, written, .intersection (.bare each)⟩
  | union members =>
      obtain ⟨pieces, written, each⟩ :=
        map_m_spells fun member among =>
          Alternative.render_spells member (wellFormed.2 member among)
      refine ⟨Text.joinWith "|" pieces, ?_, .union each⟩
      rw [render, written]
      rfl
  | foreign value => exact absurd wellFormed id

theorem read_back (type : TypeRef) (wellFormed : type.IsWellFormed IsClassName) :
    ∃ text, type.render = .ok text ∧ ofText text = type.settled := by
  obtain ⟨text, written, spelled⟩ := type.render_spells wellFormed
  exact ⟨text, written, spelled.read (wellFormed.settled fun _ => IsClassName.label)⟩

/-- The mark that says nothing is never written. -/
theorem render_settled (type : TypeRef) : type.settled.render = type.render := by
  cases type with
  | single type =>
      have twice : type.settled.settled = type.settled := by
        cases type <;> simp [SingleType.settled]
      have sameName : type.settled.written = type.written := by
        cases type <;> rfl
      simp only [settled, render, SingleType.render_eq, twice, sameName]
  | intersection members => rfl
  | union members => rfl
  | foreign value => rfl

/-- Writing a well-formed type and reading it back gives the type, less a mark for null on a type
that admits null already. So two well-formed types are written alike only where they differ in
nothing but such a mark, and a class is never taken for a built-in type, whatever its name. -/
theorem of_text_render (type : TypeRef) (wellFormed : type.IsWellFormed IsClassName) :
    (∃ text, type.render = .ok text ∧ ofText text = type.settled) ∧
      (∀ other : TypeRef, other.IsWellFormed IsClassName →
        (other.render = type.render ↔ other.settled = type.settled)) ∧
      ∀ name nullable builtin marked, type = .single (.named name nullable) →
        builtin ∈ builtinNames →
          (TypeRef.single (.builtin builtin marked)).render ≠ type.render := by
  obtain ⟨text, written, back⟩ := read_back type wellFormed
  have determined : ∀ other : TypeRef, other.IsWellFormed IsClassName → other.render = type.render →
      other.settled = type.settled := by
    intro other otherFormed same
    obtain ⟨otherText, otherWritten, otherBack⟩ := read_back other otherFormed
    rw [otherWritten, written] at same
    rw [← otherBack, ← back, Except.ok.inj same]
  refine ⟨⟨text, written, back⟩, ?_, ?_⟩
  · intro other otherFormed
    constructor
    · exact determined other otherFormed
    · intro same
      rw [← render_settled other, same, render_settled]
  · rintro name nullable builtin marked rfl isBuiltin same
    have settled := determined (.single (.builtin builtin marked)) isBuiltin same
    simp [TypeRef.settled, SingleType.settled] at settled

/-- A class that is called like a built-in type, beside that type and an intersection. -/
theorem of_text_render_class_named_int :
    let type : TypeRef := .union [.single (.named "int" false),
      .intersection [.named "A\\B" false, .named "C" false], .single (.builtin "int" false)]
    type.IsWellFormed IsClassName ∧ (∃ text, type.render = .ok text ∧ ofText text = type.settled) ∧
      (TypeRef.single (.named "int" true)).IsWellFormed IsClassName ∧
      (TypeRef.single (.builtin "int" true)).render ≠
        (TypeRef.single (.named "int" true)).render := by
  intro type
  have formed : type.IsWellFormed IsClassName := by decide
  have classFormed : (TypeRef.single (.named "int" true)).IsWellFormed IsClassName := by decide
  exact ⟨formed, (of_text_render type formed).1, classFormed,
    (of_text_render _ classFormed).2.2 "int" true "int" true rfl (by decide)⟩

/-- Only the type counts and not how it is spelled: every spelling of a well-formed type is read as
that type, and the written form is one of them, less a mark for null that says nothing. -/
theorem of_text_spelled (type : TypeRef) (wellFormed : type.IsWellFormed IsClassLabel) :
    (∀ text, type.Spells text → ofText text = type) ∧
      ∃ text, type.render = .ok text ∧ type.settled.Spells text :=
  ⟨fun _ spelled => spelled.read wellFormed, type.render_spells wellFormed⟩

/-- White space of several kinds, superfluous marks of the root, a built-in name in capitals and a
class of the same name. -/
theorem of_text_spelled_loosely :
    let type : TypeRef := .union [.single (.named "int" false),
      .intersection [.named "A\\B" false, .named "self" false], .single (.builtin "int" false)]
    let text : Text := "\t\\int |\u3000( \\\\A\\B\n&self\u00a0) | INT "
    type.IsWellFormed IsClassLabel ∧ type.Spells text ∧ ofText text = type := by
  intro type text
  have formed : type.IsWellFormed IsClassLabel := by decide
  have classNamed : (SingleType.named "int" false).Spells "\\int" := .named 1 fun _ => Nat.one_pos
  have builtIn : (SingleType.builtin "int" false).Spells "INT" :=
    .builtin (.mk ['I', 'N', 'T'] (by decide))
  have first : (Conjunct.named "A\\B" false).Spells " \\\\A\\B\n" :=
    .named 2 (.mk " " "\n" (by decide) (by decide))
  have second : (Conjunct.named "self" false).Spells "self\u00a0" :=
    .named 0 (.mk [] "\u00a0" (by decide) (by decide))
  have rooted : (Alternative.single _).Spells "\t\\int " :=
    .single classNamed (.mk "\t" " " (by decide) (by decide))
  have enclosed : (Alternative.intersection _).Spells "\u3000( \\\\A\\B\n&self\u00a0) " :=
    .intersection (.enclosed (.cons first (.cons second .nil))
      (.mk "\u3000" " " (by decide) (by decide)))
  have capital : (Alternative.single _).Spells " INT " :=
    .single builtIn (.mk " " " " (by decide) (by decide))
  have joined : Text.joinWith "|"
      ["\t\\int ", "\u3000( \\\\A\\B\n&self\u00a0) ", " INT "] = text := by decide +kernel
  have spelled : type.Spells text := by
    rw [← joined]
    exact .union (.cons rooted (.cons enclosed (.cons capital .nil)))
  exact ⟨formed, spelled, (of_text_spelled type formed).1 text spelled⟩

end TypeRef

end Stubwright
