import Stubwright.Proofs.Script.Grammar
import Stubwright.Proofs.TypeRef.RoundTrip

/-!
Written types belong to the grammar. Neither a space nor an ampersand ends a type by itself: what
follows has to rule out that the type goes on.
-/

namespace Stubwright

open Script

namespace Script

structure EndsType (suffix : Text) : Prop where
  name : EndsName suffix
  conjunct : conjunct suffix = none
  alternative : otherAlternative suffix = none

theorem builtin_names_are_words : ∀ name ∈ builtinNames, IsWord name := by
  decide

end Script

namespace SingleType

variable {type : SingleType}

/-- A single name starts like a word or with the mark of the root namespace. -/
theorem written_starts (wellFormed : type.IsWellFormed IsQualified) :
    StartsWith (fun first => isWordStart first = true ∨ first = separator) type.written := by
  cases type with
  | builtin name nullable =>
      obtain ⟨first, rest, text, visible, noComment, start⟩ :=
        word_starts (builtin_names_are_words name wellFormed)
      exact ⟨first, rest, text, visible, noComment, .inl start⟩
  | named name nullable => exact ⟨separator, name, rfl, rfl, by decide, .inr rfl⟩

theorem written_starts_other (wellFormed : type.IsWellFormed IsQualified) (point : CodePoint)
    (noWord : isWordStart point = false) (noSeparator : point ≠ separator) :
    StartsWith (· ≠ point) type.written := by
  obtain ⟨first, rest, text, visible, noComment, start | root⟩ := written_starts wellFormed
  · exact ⟨first, rest, text, visible, noComment, word_start_ne start noWord⟩
  · refine ⟨first, rest, text, visible, noComment, ?_⟩
    rw [root]
    exact noSeparator.symm

theorem type_name_reads (wellFormed : type.IsWellFormed IsQualified) {suffix : Text}
    (ends : EndsName suffix) : typeName (type.written ++ suffix) = some ((), suffix) := by
  cases type with
  | builtin name nullable =>
      have isWord := builtin_names_are_words name wellFormed
      have known : name ∈ builtinNames := wellFormed
      obtain ⟨first, rest, text, visible, noComment, start⟩ := word_starts isWord
      have unrooted : StartsWith (· ≠ separator) name :=
        ⟨first, rest, text, visible, noComment, word_start_ne start rfl⟩
      change typeName (name ++ suffix) = _
      rw [typeName, or_none _ (bind_none _ (reference_none (unrooted.append suffix))),
        Script.builtin,
        bind_of _ (word_append isWord ends.1), if_pos known]
      rfl
  | named name nullable =>
      change typeName (separator :: name ++ suffix) = _
      apply or_of
      rw [bind_of _ (reference_append wellFormed ends)]
      rfl

theorem nullable_none (wellFormed : type.IsWellFormed IsQualified) (suffix : Text) :
    Script.nullable (type.written ++ suffix) = none := by
  have other := written_starts_other wellFormed '?' rfl (by decide)
  exact bind_none _ (symbol_none (other.append suffix))

theorem alternative_reads (wellFormed : type.IsWellFormed IsQualified) {suffix : Text}
    (ends : EndsName suffix) : alternative (type.written ++ suffix) = some ((), suffix) := by
  have other := written_starts_other wellFormed '(' rfl (by decide)
  have noGroup : group (type.written ++ suffix) = none :=
    bind_none _ (symbol_none (other.append suffix))
  rw [alternative, or_none _ noGroup, type_name_reads wellFormed ends]

/-- A single name is no intersection unless one goes on after it. -/
theorem intersection_none (wellFormed : type.IsWellFormed IsQualified) {suffix : Text}
    (ends : EndsName suffix) (alone : conjunct suffix = none) :
    Script.intersection (type.written ++ suffix) = none := by
  cases type with
  | builtin name nullable =>
      obtain ⟨first, rest, text, visible, noComment, start⟩ :=
        word_starts (builtin_names_are_words name wellFormed)
      have unrooted : StartsWith (· ≠ separator) name :=
        ⟨first, rest, text, visible, noComment, word_start_ne start rfl⟩
      exact bind_none _ (reference_none (unrooted.append suffix))
  | named name nullable =>
      change Script.intersection (separator :: name ++ suffix) = none
      rw [Script.intersection, bind_of _ (reference_append wellFormed ends)]
      exact bind_none _ alone

end SingleType

section

variable {α : Type}

theorem exists_two_members {members : List α} (several : 2 ≤ members.length) :
    ∃ first second others, members = first :: second :: others := by
  match members, several with
  | first :: second :: others, _ => exact ⟨first, second, others, rfl⟩

/-- Joined members are the first one and the others with their marks in front. -/
theorem joined_members (mark : Text) (written : α → Text) (first second : α) (others : List α)
    (suffix : Text) :
    Text.joinWith mark ((first :: second :: others).map written) ++ suffix =
      written first ++ ((mark ++ written second) ++
        (others.flatMap (fun member => mark ++ written member) ++ suffix)) := by
  rw [List.map_cons, Text.join_with_cons, List.map_cons, List.flatMap_cons, List.flatMap_map]
  simp only [List.append_assoc]

end

/-- A member that is well formed is written, and so are all members. -/
theorem map_m_written {α : Type} (write : α → Except RenderError Text) (written : α → Text)
    (members : List α) (each : ∀ member ∈ members, write member = .ok (written member)) :
    members.mapM write = .ok (members.map written) := by
  induction members with
  | nil => rfl
  | cons member members ih =>
      rw [List.mapM_cons, each member (by simp), ih fun other more => each other (by simp [more])]
      rfl

namespace Conjunct

def written : Conjunct → Text
  | .named name _ => separator :: name
  | .foreign _ => []

theorem render_written (member : Conjunct) (wellFormed : member.IsWellFormed IsQualified) :
    member.render = .ok member.written := by
  cases member with
  | named name nullable =>
      have plain : nullable = false := wellFormed.2
      rw [render, SingleType.render_eq, plain]
      rfl
  | foreign value => exact wellFormed.elim

def further (member : Conjunct) : Text := "&" ++ member.written

theorem further_ends_name (member : Conjunct) (suffix : Text) :
    EndsName (member.further ++ suffix) := .of_cons _ rfl (by decide)

theorem conjunct_reads (member : Conjunct) (wellFormed : member.IsWellFormed IsQualified)
    {suffix : Text} (ends : EndsName suffix) :
    Script.conjunct (member.further ++ suffix) = some ((), suffix) := by
  cases member with
  | named name nullable =>
      have mark : symbol '&' (.char '&' :: (separator :: name ++ suffix)) =
          some ((), separator :: name ++ suffix) := symbol_cons _ rfl (by decide)
      change Script.conjunct (.char '&' :: (separator :: name ++ suffix)) = _
      rw [Script.conjunct, bind_of _ mark, bind_of _ (reference_append wellFormed.1 ends)]
      rfl
  | foreign value => exact wellFormed.elim

def allWritten (members : List Conjunct) : Text := Text.joinWith "&" (members.map written)

theorem render_all_written (members : List Conjunct)
    (wellFormed : ∀ member ∈ members, member.IsWellFormed IsQualified) :
    renderIntersection members = .ok (allWritten members) := by
  have texts := map_m_written render written members fun member among =>
    render_written member (wellFormed member among)
  rw [renderIntersection, texts]
  rfl

theorem nullable_none (members : List Conjunct) (several : 2 ≤ members.length)
    (wellFormed : ∀ member ∈ members, member.IsWellFormed IsQualified) (suffix : Text) :
    nullable (allWritten members ++ suffix) = none := by
  obtain ⟨first, second, others, rfl⟩ := exists_two_members several
  have firstFormed := wellFormed first (by simp)
  cases first with
  | named name nullable =>
      rw [allWritten, List.map_cons, Text.join_with_cons]
      rfl
  | foreign value => exact firstFormed.elim

theorem intersection_reads (members : List Conjunct) (several : 2 ≤ members.length)
    (wellFormed : ∀ member ∈ members, member.IsWellFormed IsQualified) {suffix : Text}
    (ends : EndsName suffix) (alone : conjunct suffix = none) :
    Script.intersection (allWritten members ++ suffix) = some ((), suffix) := by
  obtain ⟨first, second, others, rfl⟩ := exists_two_members several
  have rest : many conjunct (others.flatMap further ++ suffix) =
      some (others.map fun _ => (), suffix) := by
    apply many_reads others _ _ EndsName _ _ ends alone
    · intro member among following stops
      exact conjunct_reads member (wellFormed member (by simp [among])) stops
    · intro member _
      exact ⟨List.cons_ne_nil _ _, further_ends_name member⟩
  have afterSecond := follows_pieces others further EndsName
    (fun member _ => further_ends_name member) ends
  have secondRead := conjunct_reads second (wellFormed second (by simp)) afterSecond
  have text : allWritten (first :: second :: others) ++ suffix =
      first.written ++ (second.further ++ (others.flatMap further ++ suffix)) :=
    joined_members _ written first second others suffix
  rw [text, Script.intersection]
  have firstFormed := wellFormed first (by simp)
  cases first with
  | named name nullable =>
      have firstRead := reference_append firstFormed.1
        (further_ends_name second (others.flatMap further ++ suffix))
      change (reference >>= _) (separator :: name ++ _) = _
      rw [bind_of _ firstRead, bind_of _ secondRead, bind_of _ rest]
      rfl
  | foreign value => exact firstFormed.elim

end Conjunct

namespace Alternative

def written : Alternative → Text
  | .single type => type.written
  | .intersection members => "(" ++ Conjunct.allWritten members ++ ")"
  | .foreign _ => []

theorem render_written (member : Alternative) (wellFormed : member.IsWellFormed IsQualified) :
    member.render = .ok member.written := by
  cases member with
  | single type =>
      have plain := SingleType.settled_of_plain type wellFormed.2
      rw [render, SingleType.render_eq, plain, wellFormed.2]
      rfl
  | intersection members =>
      rw [render, Conjunct.render_all_written members wellFormed.2]
      rfl
  | foreign value => exact wellFormed.elim

theorem alternative_reads (member : Alternative) (wellFormed : member.IsWellFormed IsQualified)
    {suffix : Text} (ends : EndsName suffix) :
    alternative (member.written ++ suffix) = some ((), suffix) := by
  cases member with
  | single type => exact SingleType.alternative_reads wellFormed.1 ends
  | intersection members =>
      have text : (Alternative.intersection members).written ++ suffix =
          .char '(' :: (Conjunct.allWritten members ++ .char ')' :: suffix) := by
        rw [written, List.append_assoc, List.append_assoc]
        rfl
      have inner : Script.intersection (Conjunct.allWritten members ++ .char ')' :: suffix) =
          some ((), .char ')' :: suffix) :=
        Conjunct.intersection_reads members wellFormed.1 wellFormed.2
          (.of_cons suffix rfl (by decide)) rfl
      rw [text, alternative]
      apply or_of
      rw [group, bind_of _ (symbol_cons _ rfl (by decide)), bind_of _ inner,
        symbol_cons _ rfl (by decide)]
  | foreign value => exact wellFormed.elim

def further (member : Alternative) : Text := "|" ++ member.written

theorem further_ends_name (member : Alternative) (suffix : Text) :
    EndsName (member.further ++ suffix) := .of_cons _ rfl (by decide)

theorem other_alternative_reads (member : Alternative)
    (wellFormed : member.IsWellFormed IsQualified) {suffix : Text} (ends : EndsName suffix) :
    otherAlternative (member.further ++ suffix) = some ((), suffix) := by
  have mark : symbol '|' (.char '|' :: (member.written ++ suffix)) =
      some ((), member.written ++ suffix) := symbol_cons _ rfl (by decide)
  change otherAlternative (.char '|' :: (member.written ++ suffix)) = _
  rw [otherAlternative, bind_of _ mark, alternative_reads member wellFormed ends]

/-- What begins with a single name or a group is no intersection where a bar follows. -/
theorem intersection_none (member : Alternative) (wellFormed : member.IsWellFormed IsQualified)
    {suffix : Text} (ends : EndsName suffix) (alone : conjunct suffix = none) :
    Script.intersection (member.written ++ suffix) = none := by
  cases member with
  | single type => exact SingleType.intersection_none wellFormed.1 ends alone
  | intersection members => exact bind_none _ rfl
  | foreign value => exact wellFormed.elim

theorem nullable_none (member : Alternative) (wellFormed : member.IsWellFormed IsQualified)
    (suffix : Text) : nullable (member.written ++ suffix) = none := by
  cases member with
  | single type => exact SingleType.nullable_none wellFormed.1 suffix
  | intersection members => rfl
  | foreign value => exact wellFormed.elim

def allWritten (members : List Alternative) : Text := Text.joinWith "|" (members.map written)

theorem union_reads (members : List Alternative) (several : 2 ≤ members.length)
    (wellFormed : ∀ member ∈ members, member.IsWellFormed IsQualified) {suffix : Text}
    (ends : EndsType suffix) :
    type (allWritten members ++ suffix) = some ((), suffix) := by
  obtain ⟨first, second, others, rfl⟩ := exists_two_members several
  have rest : many otherAlternative (others.flatMap further ++ suffix) =
      some (others.map fun _ => (), suffix) := by
    apply many_reads others _ _ EndsName _ _ ends.name ends.alternative
    · intro member among following stops
      exact other_alternative_reads member (wellFormed member (by simp [among])) stops
    · intro member _
      exact ⟨List.cons_ne_nil _ _, further_ends_name member⟩
  have afterSecond := follows_pieces others further EndsName
    (fun member _ => further_ends_name member) ends.name
  have firstFormed := wellFormed first (by simp)
  have afterFirst := further_ends_name second (others.flatMap further ++ suffix)
  have secondRead := other_alternative_reads second (wellFormed second (by simp)) afterSecond
  have text : allWritten (first :: second :: others) ++ suffix =
      first.written ++ (second.further ++ (others.flatMap further ++ suffix)) :=
    joined_members _ written first second others suffix
  rw [text, type, or_none _ (nullable_none first firstFormed _),
    or_none _ (intersection_none first firstFormed afterFirst rfl)]
  apply or_of
  rw [union, bind_of _ (alternative_reads first firstFormed afterFirst), bind_of _ secondRead,
    bind_of _ rest]
  rfl

end Alternative

theorem Script.type_skips {lead : Text} (isTrivia : IsTrivia lead) (text : Text) :
    type (lead ++ text) = type text := by
  have name : typeName (lead ++ text) = typeName text := by
    apply or_skips
    · exact bind_congr _ (reference_skips isTrivia text)
    · exact bind_congr _ (word_skips isTrivia text)
  have intersection : intersection (lead ++ text) = intersection text :=
    bind_congr _ (reference_skips isTrivia text)
  have union : union (lead ++ text) = union text := by
    apply bind_congr
    apply or_skips
    · exact bind_congr _ (symbol_skips isTrivia text _)
    · exact name
  apply or_skips
  · exact bind_congr _ (symbol_skips isTrivia text _)
  · exact or_skips intersection (or_skips union name)

namespace TypeRef

def written : TypeRef → Text
  | .single type => type.render
  | .intersection members => Conjunct.allWritten members
  | .union members => Alternative.allWritten members
  | .foreign _ => []

theorem render_written (type : TypeRef) (wellFormed : type.IsWellFormed IsQualified) :
    type.render = .ok type.written := by
  cases type with
  | single type => rfl
  | intersection members => exact Conjunct.render_all_written members wellFormed.2
  | union members =>
      have texts := map_m_written Alternative.render Alternative.written members
        fun member among => Alternative.render_written member (wellFormed.2 member among)
      rw [render, texts]
      rfl
  | foreign value => exact wellFormed.elim

theorem type_reads (type : TypeRef) (wellFormed : type.IsWellFormed IsQualified) {suffix : Text}
    (ends : EndsType suffix) : Script.type (type.written ++ suffix) = some ((), suffix) := by
  cases type with
  | single type =>
      rw [written, SingleType.render_eq]
      split
      · have mark : symbol '?' (.char '?' :: (type.written ++ suffix)) =
            some ((), type.written ++ suffix) := symbol_cons _ rfl (by decide)
        rw [Script.type, List.cons_append]
        apply or_of
        rw [nullable, bind_of _ mark, SingleType.type_name_reads wellFormed ends.name]
      · have noUnion : Script.union (type.written ++ suffix) = none := by
          rw [Script.union, bind_of _ (SingleType.alternative_reads wellFormed ends.name)]
          exact bind_none _ ends.alternative
        rw [Script.type, or_none _ (SingleType.nullable_none wellFormed suffix),
          or_none _ (SingleType.intersection_none wellFormed ends.name ends.conjunct),
          or_none _ noUnion, SingleType.type_name_reads wellFormed ends.name]
  | intersection members =>
      have unmarked := Conjunct.nullable_none members wellFormed.1 wellFormed.2 suffix
      rw [written, Script.type, or_none _ unmarked]
      apply or_of
      exact Conjunct.intersection_reads members wellFormed.1 wellFormed.2 ends.name ends.conjunct
  | union members => exact Alternative.union_reads members wellFormed.1 wellFormed.2 ends
  | foreign value => exact wellFormed.elim

end TypeRef

end Stubwright
