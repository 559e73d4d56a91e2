import Stubwright.Proofs.TypeRef.Spelling

/-!
What becomes of the mark for null when a type is read. The mark is looked for at the front of the
whole text, before it is known what follows it; a single name keeps it, and from a union or an
intersection it is cut off without a trace. No mark is set that is not written at the front.
-/

namespace Stubwright

def Conjunct.hasMark : Conjunct → Bool
  | .named _ nullable => nullable
  | .foreign _ => false

def Alternative.hasMark : Alternative → Bool
  | .single type => type.nullable
  | .intersection members => members.any Conjunct.hasMark
  | .foreign _ => false

def TypeRef.hasMark : TypeRef → Bool
  | .single type => type.nullable
  | .intersection members => members.any Conjunct.hasMark
  | .union members => members.any Alternative.hasMark
  | .foreign _ => false

def Alternative.isNull : Alternative → Bool
  | .single (.builtin name _) => name = Text.ofString "null"
  | _ => false

/-- Whether a type says of itself that it admits null: a single name by its mark, and a union by one
of its members. -/
def TypeRef.AdmitsNull : TypeRef → Prop
  | .single type => type.nullable = true
  | .union members => ∃ member ∈ members, member.isNull = true
  | _ => False

/-- What is the same in lower case stays in a text. -/
theorem mem_lowercase_after {point : CodePoint} (fixed : Text.lowercasePoint point = [point])
    (noSigma : point ≠ 'Σ') {text : Text} (member : point ∈ text) (cased : Bool) :
    point ∈ Text.lowercaseAfter cased text := by
  induction text generalizing cased with
  | nil => cases member
  | cons first rest ih =>
      rw [Text.lowercaseAfter, List.mem_append]
      rcases List.mem_cons.1 member with rfl | later
      · rw [if_neg noSigma, fixed]
        exact .inl List.mem_cons_self
      · exact .inr (ih later _)

/-- No built-in name holds what is written between the members of an intersection. -/
theorem ampersand_not_builtin {text : Text} (ampersand : CodePoint.char '&' ∈ text) :
    Text.lowercase text ∉ builtinNames := by
  intro builtin
  have kept := mem_lowercase_after (by decide) (by decide) ampersand false
  have unmarked := builtin_name_unmarked _ builtin _ kept
  exact absurd unmarked (by decide)

namespace TypeRef

theorem conjuncts_unmarked (text : Text) : (conjuncts text).any Conjunct.hasMark = false := by
  rw [List.any_eq_false]
  intro member among
  obtain ⟨piece, -, rfl⟩ := List.mem_map.1 among
  exact Bool.false_ne_true

theorem single_nullable (name : Text) (nullable : Bool) :
    (SingleType.ofText name nullable).nullable = nullable := by
  unfold SingleType.ofText
  dsimp only
  split <;> rfl

theorem alternative_unmarked (text : Text) : (alternative text).hasMark = false := by
  unfold alternative
  split
  · exact conjuncts_unmarked text
  · exact single_nullable text false

/-- Only the word itself is read as null, in any letter case. -/
theorem alternative_null_iff (text : Text) :
    (alternative text).isNull = true ↔ Text.lowercase text = Text.ofString "null" := by
  unfold alternative
  split
  · rename_i ampersand
    have other := ampersand_not_builtin (List.contains_iff_mem.1 ampersand)
    apply iff_of_false Bool.false_ne_true
    intro null
    rw [null] at other
    exact other (by decide)
  · unfold SingleType.ofText
    dsimp only
    split
    · exact decide_eq_true_iff
    · rename_i other
      apply iff_of_false Bool.false_ne_true
      intro null
      rw [null] at other
      exact other (by decide)

section

variable (nullable : Bool) {body : Text}

/-- Without a bar the mark counts for a name, and is lost before an intersection. -/
theorem one_piece (noBar : CodePoint.char '|' ∉ body) :
    ((ofPieces nullable ((Text.splitAt (CodePoint.char '|') body).map Text.strip)).hasMark = true ↔
        nullable = true ∧ CodePoint.char '&' ∉ body) ∧
      ((ofPieces nullable ((Text.splitAt (CodePoint.char '|') body).map Text.strip)).AdmitsNull ↔
        nullable = true ∧ CodePoint.char '&' ∉ body) := by
  by_cases ampersand : CodePoint.char '&' ∈ body
  · rw [of_pieces_intersection nullable noBar ampersand]
    constructor
    · apply iff_of_false
      · rw [hasMark, conjuncts_unmarked]
        exact Bool.false_ne_true
      · exact fun both => both.2 ampersand
    · exact iff_of_false id fun both => both.2 ampersand
  · rw [of_pieces_word nullable noBar ampersand, hasMark, AdmitsNull, single_nullable]
    constructor
    · exact (and_iff_left ampersand).symm
    · exact (and_iff_left ampersand).symm

/-- In a union the mark counts for nothing. -/
theorem several_pieces (bar : CodePoint.char '|' ∈ body) :
    (ofPieces nullable ((Text.splitAt (CodePoint.char '|') body).map Text.strip)).hasMark = false ∧
      ((ofPieces nullable ((Text.splitAt (CodePoint.char '|') body).map Text.strip)).AdmitsNull ↔
        ∃ piece ∈ Text.splitAt (CodePoint.char '|') body,
          Text.lowercase (Text.strip piece) = Text.ofString "null") := by
  rw [of_pieces_union nullable (Text.several_pieces bar)]
  constructor
  · rw [hasMark, List.any_eq_false]
    intro member among
    obtain ⟨piece, -, rfl⟩ := List.mem_map.1 among
    rw [alternative_unmarked]
    exact Bool.false_ne_true
  · constructor
    · rintro ⟨member, among, null⟩
      obtain ⟨piece, found, rfl⟩ := List.mem_map.1 among
      exact ⟨piece, found, (alternative_null_iff _).1 null⟩
    · rintro ⟨piece, found, null⟩
      exact ⟨_, List.mem_map_of_mem found, (alternative_null_iff _).2 null⟩

end

section

variable {text : Text}

theorem read_marked (marked : (Text.strip text).head? = some (.char '?')) :
    ofText text = ofPieces true
      ((Text.splitAt (CodePoint.char '|') ((Text.strip text).drop 1)).map Text.strip) := by
  have front : (Text.strip text).head? = some '?' := marked
  simp only [ofText, front, decide_true, if_true]
  rfl

theorem read_unmarked (unmarked : (Text.strip text).head? ≠ some (.char '?')) :
    ofText text = ofPieces false
      ((Text.splitAt (CodePoint.char '|') (Text.strip text)).map Text.strip) := by
  have front : ¬(Text.strip text).head? = some '?' := unmarked
  simp only [ofText, front, decide_false, if_false]
  rfl

/-- Cutting off white space and a mark for null takes no other mark away. -/
theorem mem_body {mark : CodePoint} (visible : mark.isIn Text.isBlank = false)
    (noMark : mark ≠ .char '?') (marked : (Text.strip text).head? = some (.char '?')) :
    mark ∈ (Text.strip text).drop 1 ↔ mark ∈ text := by
  have stripped : mark ∈ Text.strip text ↔ mark ∈ text :=
    ⟨Text.mem_of_mem_trim, fun member => Text.mem_trim_of_kept member visible⟩
  rw [← stripped]
  cases front : Text.strip text with
  | nil =>
      rw [front] at marked
      cases marked
  | cons first rest =>
      rw [front] at marked
      obtain rfl : first = .char '?' := Option.some.inj marked
      rw [List.drop_one, List.tail_cons, List.mem_cons]
      exact (or_iff_right noMark).symm

end

/-- A mark for null is set exactly where it is written in front of a single name. In front of
anything else it is lost: then the type admits null only if it is a union that names null. -/
theorem null_mark_kept (text : Text) :
    ((ofText text).hasMark = true ↔
        (Text.strip text).head? = some (.char '?') ∧ CodePoint.char '|' ∉ text ∧
          CodePoint.char '&' ∉ text) ∧
      (CodePoint.char '?' ∉ text → (ofText text).hasMark = false) ∧
      ((Text.strip text).head? = some (.char '?') →
        ((ofText text).AdmitsNull ↔
          (CodePoint.char '|' ∉ text ∧ CodePoint.char '&' ∉ text) ∨
            (CodePoint.char '|' ∈ text ∧
              ∃ piece ∈ Text.splitAt (CodePoint.char '|') ((Text.strip text).drop 1),
                Text.lowercase (Text.strip piece) = Text.ofString "null"))) := by
  by_cases marked : (Text.strip text).head? = some (.char '?')
  · have written : CodePoint.char '?' ∈ text := Text.mem_of_mem_trim (List.mem_of_head? marked)
    have bar_iff : CodePoint.char '|' ∈ (Text.strip text).drop 1 ↔ CodePoint.char '|' ∈ text :=
      mem_body (by decide) (by decide) marked
    have ampersand_iff :
        CodePoint.char '&' ∈ (Text.strip text).drop 1 ↔ CodePoint.char '&' ∈ text :=
      mem_body (by decide) (by decide) marked
    rw [read_marked marked]
    by_cases bar : CodePoint.char '|' ∈ text
    · have read := several_pieces true (bar_iff.2 bar)
      refine ⟨?_, fun absent => absurd written absent, fun _ => ?_⟩
      · rw [read.1]
        exact iff_of_false Bool.false_ne_true fun all => all.2.1 bar
      · rw [read.2]
        simp [bar]
    · have read := one_piece true (mt bar_iff.1 bar)
      rw [ampersand_iff] at read
      refine ⟨?_, fun absent => absurd written absent, fun _ => ?_⟩
      · rw [read.1]
        simp [marked, bar]
      · rw [read.2]
        simp [bar]
  · have none : (ofText text).hasMark = false := by
      rw [read_unmarked marked]
      by_cases bar : CodePoint.char '|' ∈ Text.strip text
      · exact (several_pieces false bar).1
      · have read := (one_piece false bar).1
        simpa using read
    refine ⟨?_, fun _ => none, fun front => absurd front marked⟩
    rw [none]
    exact iff_of_false Bool.false_ne_true fun all => marked all.1

/-- A single name behind white space, a union that names null, and a mark that stands elsewhere. -/
theorem null_mark_kept_alone :
    (Text.strip " ?\\A ").head? = some (.char '?') ∧ (ofText " ?\\A ").AdmitsNull ∧
      (Text.strip "? A | NULL").head? = some (.char '?') ∧ (ofText "? A | NULL").AdmitsNull ∧
      CodePoint.char '?' ∉ (Text.ofString "A|B") ∧ (ofText "A|B").hasMark = false := by
  have alone : (Text.strip " ?\\A ").head? = some (.char '?') := by decide
  have named : (Text.strip "? A | NULL").head? = some (.char '?') := by decide
  have absent : CodePoint.char '?' ∉ (Text.ofString "A|B") := by decide
  refine ⟨alone, ?_, named, ?_, absent, (null_mark_kept "A|B").2.1 absent⟩
  · exact ((null_mark_kept " ?\\A ").2.2 alone).2 (.inl (by decide))
  · refine ((null_mark_kept "? A | NULL").2.2 named).2 (.inr ⟨by decide, " NULL", ?_, ?_⟩)
    · decide
    · decide

/-- The mark in front of a union is read over: none of its members is null, and no mark is set. -/
theorem mark_before_union_is_lost :
    (Text.strip "?A|B").head? = some (.char '?') ∧
      ofText "?A|B" = .union [.single (.named "A" false), .single (.named "B" false)] ∧
      ¬(ofText "?A|B").AdmitsNull := by
  have read : ofText "?A|B" =
      .union [.single (.named "A" false), .single (.named "B" false)] := rfl
  refine ⟨by decide, read, ?_⟩
  rw [read]
  rintro ⟨member, among, null⟩
  rcases List.mem_pair.1 among with rfl | rfl
  · cases null
  · cases null

end TypeRef

end Stubwright
