import Stubwright.Proofs.Name.Division
import Stubwright.Proofs.Text.Margin
import Stubwright.Proofs.TypeRef.WellFormed

/-!
The spellings of a type. White space may stand around every name and every mark, built-in names are
written in any letter case, and class names carry any number of marks of the root. All spellings of
a type are read as that type: the reader never looks at white space until a piece is cut out, and
then trims it away.
-/

namespace Stubwright

inductive Padded (core : Text) : Text → Prop
  | mk (before after : Text) (before_blank : ∀ point ∈ before, point.isIn Text.isBlank = true)
      (after_blank : ∀ point ∈ after, point.isIn Text.isBlank = true) :
      Padded core (before ++ (core ++ after))

/-- The letters of a name in lower case, each written in either case. -/
inductive SameLetters (name : Text) : Text → Prop
  | mk (chars : List Char) (lower : Text.ofChars (chars.map Char.toLower) = name) :
      SameLetters name (Text.ofChars chars)

/-- What a name of the notation may not hold. It may be empty, since the reader takes nothing for a
name as well. -/
structure IsClassLabel (name : Text) : Prop where
  unrooted : name.head? ≠ some separator
  unmarked : ∀ point ∈ name, isTypeMark point = false

instance (name : Text) : Decidable (IsClassLabel name) :=
  decidable_of_iff (name.head? ≠ some separator ∧ ∀ point ∈ name, isTypeMark point = false)
    ⟨fun ⟨unrooted, unmarked⟩ => ⟨unrooted, unmarked⟩,
      fun ⟨unrooted, unmarked⟩ => ⟨unrooted, unmarked⟩⟩

/-- The spellings of a single name. A class that is called like a built-in type has to be told from
it by a mark of the root. -/
inductive SingleType.Spells : SingleType → Text → Prop
  | builtin {name text : Text} {nullable : Bool} (letters : SameLetters name text) :
      Spells (.builtin name nullable) text
  | named {name : Text} {nullable : Bool} (roots : Nat)
      (rooted : Text.lowercase name ∈ builtinNames → 0 < roots) :
      Spells (.named name nullable) (withRoots roots name)

/-- Only classes stand in an intersection, so no mark of the root is needed there. -/
inductive Conjunct.Spells : Conjunct → Text → Prop
  | named {name text : Text} {nullable : Bool} (roots : Nat)
      (padded : Padded (withRoots roots name) text) : Spells (.named name nullable) text

/-- An intersection with or without parentheses around it. -/
inductive SpellsIntersection (members : List Conjunct) : Text → Prop
  | bare {pieces : List Text} (each : List.Forall₂ Conjunct.Spells members pieces) :
      SpellsIntersection members (Text.joinWith "&" pieces)
  | enclosed {pieces : List Text} {text : Text}
      (each : List.Forall₂ Conjunct.Spells members pieces)
      (padded : Padded ("(" ++ Text.joinWith "&" pieces ++ ")") text) :
      SpellsIntersection members text

inductive Alternative.Spells : Alternative → Text → Prop
  | single {type : SingleType} {name text : Text} (spelled : type.Spells name)
      (padded : Padded name text) : Spells (.single type) text
  | intersection {members : List Conjunct} {text : Text}
      (spelled : SpellsIntersection members text) : Spells (.intersection members) text

inductive TypeRef.Spells : TypeRef → Text → Prop
  | plain {type : SingleType} {name text : Text} (plain : type.nullable = false)
      (spelled : type.Spells name) (padded : Padded name text) : Spells (.single type) text
  | nullable {type : SingleType} {name rest text : Text} (marked : type.nullable = true)
      (spelled : type.Spells name) (inner : Padded name rest) (padded : Padded ("?" ++ rest) text) :
      Spells (.single type) text
  | intersection {members : List Conjunct} {text : Text}
      (spelled : SpellsIntersection members text) : Spells (.intersection members) text
  | union {members : List Alternative} {pieces : List Text}
      (each : List.Forall₂ Alternative.Spells members pieces) :
      Spells (.union members) (Text.joinWith "|" pieces)

theorem builtin_name_unmarked (name : Text) (builtin : name ∈ builtinNames) :
    ∀ point ∈ name, isTypeMark point = false := by
  revert name
  decide

/-- The mark of the root namespace keeps a class apart from a built-in type of the same name. -/
theorem rooted_name_not_builtin (name : Text) :
    Text.lowercase (separator :: name) ∉ builtinNames := by
  have rooted : ∀ rest : Text, separator :: rest ∉ builtinNames := by
    intro rest
    simp [builtinNames, separator, Text.ofString, Text.ofChars]
  exact rooted _

theorem unblank_of_unmarked {point : CodePoint} (unmarked : isTypeMark point = false) :
    point.isIn Text.isBlank = false := by
  cases point with
  | half offset => rfl
  | char c =>
      simp only [isTypeMark, CodePoint.isIn, Bool.or_eq_false_iff] at unmarked
      exact unmarked.1.1.1.1.1

theorem IsClassName.label {name : Text} (isName : IsClassName name) : IsClassLabel name :=
  ⟨isName.unrooted, isName.unmarked⟩

/-- Marks have no case. -/
theorem mark_to_lower {c : Char} (isMark : isTypeMark (.char c) = true) : c.toLower = c := by
  unfold Char.toLower
  split
  · rename_i capital
    have bounds : 65 ≤ c.toNat ∧ c.toNat ≤ 90 := ⟨capital.1, capital.2⟩
    simp only [isTypeMark, CodePoint.isIn, Text.isBlank, Bool.or_eq_true, Bool.and_eq_true,
      decide_eq_true_eq] at isMark
    rcases isMark with ((((blank | rfl) | rfl) | rfl) | rfl) | rfl
    · omega
    all_goals exact absurd capital (by decide)
  · rfl

theorem small_of_to_lower {c : Char} (small : c.toLower.toNat < 0x80) : c.toNat < 0x80 := by
  unfold Char.toLower at small
  split at small
  · rename_i capital
    have bound : c.toNat ≤ 90 := capital.2
    omega
  · exact small

namespace SameLetters

variable {name text : Text}

theorem unmarked (letters : SameLetters name text)
    (clean : ∀ point ∈ name, isTypeMark point = false) :
    ∀ point ∈ text, isTypeMark point = false := by
  obtain ⟨chars, rfl⟩ := letters
  intro point member
  obtain ⟨c, among, rfl⟩ := List.mem_map.1 member
  cases isMark : isTypeMark (.char c) with
  | false => rfl
  | true =>
      have itself : CodePoint.char c ∈ Text.ofChars (chars.map Char.toLower) := by
        refine List.mem_map_of_mem ?_
        rw [← mark_to_lower isMark]
        exact List.mem_map_of_mem among
      rw [clean _ itself] at isMark
      exact isMark.symm

theorem builtin_name_ascii : ∀ name ∈ builtinNames, ∀ point ∈ name, point.number < 0x80 := by
  decide

theorem lowercase_eq (letters : SameLetters name text) (builtin : name ∈ builtinNames) :
    Text.lowercase text = name := by
  obtain ⟨chars, rfl⟩ := letters
  apply Text.lowercase_after_of_ascii
  intro c among
  apply small_of_to_lower
  exact builtin_name_ascii _ builtin (.char c.toLower)
    (List.mem_map_of_mem (List.mem_map_of_mem among))

end SameLetters

/-- The only marks in a text are white space and those of a list. -/
def SpacedMarks (marks text : Text) : Prop :=
  ∀ point ∈ text, isTypeMark point = true → point.isIn Text.isBlank = true ∨ point ∈ marks

instance (marks text : Text) : Decidable (SpacedMarks marks text) :=
  inferInstanceAs (Decidable (∀ point ∈ text, isTypeMark point = true →
    point.isIn Text.isBlank = true ∨ point ∈ marks))

namespace SpacedMarks

variable {marks text : Text}

theorem of_unmarked (unmarked : ∀ point ∈ text, isTypeMark point = false) :
    SpacedMarks [] text := by
  intro point member isMark
  rw [unmarked point member] at isMark
  cases isMark

theorem not_mem (spaced : SpacedMarks marks text) {mark : CodePoint}
    (isMark : isTypeMark mark = true) (visible : mark.isIn Text.isBlank = false) (other : mark ∉ marks) :
    mark ∉ text := by
  intro member
  rcases spaced mark member isMark with blank | among
  · rw [visible] at blank
    cases blank
  · exact other among

theorem mono (spaced : SpacedMarks marks text) {more : Text} (wider : ∀ mark ∈ marks, mark ∈ more) :
    SpacedMarks more text :=
  fun point member isMark => (spaced point member isMark).imp_right (wider point)

theorem append {rest : Text} (first : SpacedMarks marks text) (second : SpacedMarks marks rest) :
    SpacedMarks marks (text ++ rest) := by
  intro point member
  rcases List.mem_append.1 member with here | there
  · exact first point here
  · exact second point there

theorem of_blank (blank : ∀ point ∈ text, point.isIn Text.isBlank = true) :
    SpacedMarks marks text :=
  fun point member _ => .inl (blank point member)

theorem listed (among : ∀ point ∈ text, point ∈ marks) : SpacedMarks marks text :=
  fun point member _ => .inr (among point member)

theorem enclosed (inner : SpacedMarks marks text) :
    SpacedMarks ([.char '(', .char ')'] ++ marks) ("(" ++ text ++ ")") := by
  have opening : SpacedMarks [.char '(', .char ')'] "(" := .listed (by decide)
  have closing : SpacedMarks [.char '(', .char ')'] ")" := .listed (by decide)
  have wider : ∀ mark ∈ ([.char '(', .char ')'] : Text), mark ∈ [.char '(', .char ')'] ++ marks :=
    fun mark parenthesis => List.mem_append_left marks parenthesis
  have inside := inner.mono fun mark member =>
    List.mem_append_right [.char '(', .char ')'] member
  exact ((opening.mono wider).append inside).append (closing.mono wider)

theorem join_with (separator : Text) (pieces : List Text)
    (between : ∀ point ∈ separator, point ∈ marks)
    (within : ∀ piece ∈ pieces, SpacedMarks marks piece) :
    SpacedMarks marks (Text.joinWith separator pieces) :=
  Text.forall_mem_join_with separator pieces (fun point member _ => .inr (between point member))
    within

end SpacedMarks

namespace Padded

variable {core text : Text}

theorem strip_eq (padded : Padded core text) : Text.strip text = Text.strip core := by
  obtain ⟨_, _, before, after⟩ := padded
  rw [Text.strip, Text.trim_prepend before, Text.trim_append after, Text.strip]

theorem spaced {marks : Text} (padded : Padded core text) (inner : SpacedMarks marks core) :
    SpacedMarks marks text := by
  obtain ⟨_, _, before, after⟩ := padded
  exact (SpacedMarks.of_blank before).append (inner.append (.of_blank after))

theorem mem (padded : Padded core text) {point : CodePoint} (member : point ∈ core) :
    point ∈ text := by
  obtain ⟨_, _, _, _⟩ := padded
  simp [member]

end Padded

theorem roots_unmarked {name : Text} (label : IsClassLabel name) (roots : Nat) :
    ∀ point ∈ withRoots roots name, isTypeMark point = false := by
  intro point member
  rcases List.mem_append.1 member with root | inside
  · rw [List.eq_of_mem_replicate root]
    rfl
  · exact label.unmarked point inside

theorem bare_label {name : Text} (label : IsClassLabel name) (roots : Nat) :
    QualifiedName.bare (withRoots roots name) = name := by
  rw [QualifiedName.bare_with_roots, bare_of_unrooted name label.unrooted]

theorem strip_unmarked {text : Text} (unmarked : ∀ point ∈ text, isTypeMark point = false) :
    Text.strip text = text :=
  Text.strip_of_no_blank text fun point member => unblank_of_unmarked (unmarked point member)

def SingleType.withMark (nullable : Bool) : SingleType → SingleType
  | .builtin name _ => .builtin name nullable
  | .named name _ => .named name nullable

namespace SingleType.Spells

variable {type : SingleType} {text : Text}

theorem unmarked (spelled : type.Spells text) (wellFormed : type.IsWellFormed IsClassLabel) :
    ∀ point ∈ text, isTypeMark point = false := by
  cases spelled with
  | builtin letters => exact letters.unmarked (builtin_name_unmarked _ wellFormed)
  | named roots rooted => exact roots_unmarked wellFormed roots

theorem read (spelled : type.Spells text) (wellFormed : type.IsWellFormed IsClassLabel)
    (nullable : Bool) : ofText text nullable = type.withMark nullable := by
  cases spelled with
  | @builtin name _ _ letters =>
      have builtin : name ∈ builtinNames := wellFormed
      simp only [ofText, letters.lowercase_eq builtin, if_pos builtin, withMark]
  | @named name _ roots rooted =>
      have other : Text.lowercase (withRoots roots name) ∉ builtinNames := by
        cases roots with
        | zero => exact fun builtin => absurd (rooted builtin) (Nat.lt_irrefl 0)
        | succ roots =>
            rw [withRoots, List.replicate_succ, List.cons_append]
            exact rooted_name_not_builtin _
      simp only [ofText, if_neg other, bare_label wellFormed, withMark]

end SingleType.Spells

/-- White space around a text is no matter to the mark between the members of an intersection. -/
theorem contains_ampersand_iff {text : Text} :
    (Text.strip text).contains (.char '&') = true ↔ CodePoint.char '&' ∈ text := by
  rw [List.contains_iff_mem]
  constructor
  · exact Text.mem_of_mem_trim
  · exact fun ampersand => Text.mem_trim_of_kept ampersand (by decide)

theorem Conjunct.Spells.read {member : Conjunct} {text : Text} (spelled : member.Spells text)
    (wellFormed : member.IsWellFormed IsClassLabel) :
    SpacedMarks [] text ∧
      Conjunct.named (QualifiedName.bare (Text.strip text)) false = member := by
  obtain ⟨roots, padded⟩ := spelled
  obtain ⟨label, plain⟩ := wellFormed
  have clean := roots_unmarked label roots
  refine ⟨padded.spaced (.of_unmarked clean), ?_⟩
  rw [padded.strip_eq, strip_unmarked clean, bare_label label, plain]

/-- Where each piece spells its member and is read as it, so are all of them in order. -/
theorem forall_read {α : Type} {spells : α → Text → Prop} {holds : α → Prop} {clean : Text → Prop}
    (read : Text → α)
    (each : ∀ member text, spells member text → holds member → clean text ∧ read text = member)
    {members : List α} {pieces : List Text} (spelled : List.Forall₂ spells members pieces)
    (wellFormed : ∀ member ∈ members, holds member) :
    (∀ piece ∈ pieces, clean piece) ∧ pieces.map read = members := by
  induction spelled with
  | nil => exact ⟨by simp, rfl⟩
  | @cons member piece members pieces here later ih =>
      obtain ⟨first, back⟩ := each member piece here (wellFormed member (by simp))
      obtain ⟨others, backs⟩ := ih fun other more => wellFormed other (by simp [more])
      refine ⟨?_, by rw [List.map_cons, back, backs]⟩
      intro other found
      rcases List.mem_cons.1 found with rfl | more
      · exact first
      · exact others other more

theorem mem_join_with_mark {mark : CodePoint} {pieces : List Text} (several : 2 ≤ pieces.length) :
    mark ∈ Text.joinWith [mark] pieces := by
  match pieces, several with
  | first :: second :: rest, _ =>
      rw [Text.joinWith, List.intercalate_cons_cons]
      simp

def Conjunct.ofPiece (piece : Text) : Conjunct :=
  .named (QualifiedName.bare (Text.strip piece)) false

namespace TypeRef

theorem unenclosed_of_spaced {text : Text} (among : SpacedMarks [.char '&'] text) :
    ∀ point ∈ text, point.isIn (fun c => c = '(' || c = ')') = false := by
  have noOpening : CodePoint.char '(' ∉ text := among.not_mem rfl (by decide) (by decide)
  have noClosing : CodePoint.char ')' ∉ text := among.not_mem rfl (by decide) (by decide)
  intro point member
  cases point with
  | half offset => rfl
  | char c =>
      rw [CodePoint.isIn, Bool.or_eq_false_iff]
      constructor
      · exact decide_eq_false fun same => noOpening (same ▸ member)
      · exact decide_eq_false fun same => noClosing (same ▸ member)

/-- No piece is looked at before it is trimmed, so white space around the whole plays no part. -/
theorem conjuncts_strip (text : Text) : conjuncts (Text.strip text) = conjuncts text := by
  rw [conjuncts, conjuncts, Text.strip, Text.strip, Text.trim_trim]

section

variable {inner : Text}
  (unenclosed : ∀ point ∈ inner, point.isIn (fun c => c = '(' || c = ')') = false)
include unenclosed

theorem conjuncts_unenclosed :
    conjuncts inner = (Text.splitAt (CodePoint.char '&') inner).map Conjunct.ofPiece := by
  have stripped : ∀ point ∈ Text.strip inner, point.isIn (fun c => c = '(' || c = ')') = false :=
    fun point member => unenclosed point (Text.mem_of_mem_trim member)
  have visible : (CodePoint.char '&').isIn Text.isBlank = false := by decide
  have pieces := congrArg (List.map fun part => Conjunct.named (QualifiedName.bare part) false)
    (Text.trimmed_pieces visible inner)
  rw [List.map_map, List.map_map] at pieces
  rw [conjuncts, Text.trim_of_none _ _ stripped]
  exact pieces

theorem conjuncts_enclosed {text : Text} (padded : Padded ("(" ++ inner ++ ")") text) :
    conjuncts text = (Text.splitAt (CodePoint.char '&') inner).map Conjunct.ofPiece := by
  have held : Text.strip ("(" ++ inner ++ ")") = .char '(' :: inner ++ [.char ')'] :=
    Text.trim_held (by decide) (by decide) inner
  rw [conjuncts, padded.strip_eq, held, Text.trim_enclosed _ _ _ _ rfl rfl unenclosed]
  rfl

end

section

variable {members : List Conjunct} (several : 2 ≤ members.length)
  (wellFormed : ∀ member ∈ members, member.IsWellFormed IsClassLabel)
include several wellFormed

theorem conjunct_pieces_read {pieces : List Text}
    (each : List.Forall₂ Conjunct.Spells members pieces) :
    CodePoint.char '&' ∈ Text.joinWith "&" pieces ∧
      SpacedMarks [.char '&'] (Text.joinWith "&" pieces) ∧
      (Text.splitAt (CodePoint.char '&') (Text.joinWith "&" pieces)).map Conjunct.ofPiece =
        members := by
  obtain ⟨clean, back⟩ := forall_read Conjunct.ofPiece
    (fun member text => Conjunct.Spells.read) each wellFormed
  have count : 2 ≤ pieces.length := by
    rw [← back, List.length_map] at several
    exact several
  have among : SpacedMarks [.char '&'] (Text.joinWith "&" pieces) :=
    .join_with "&" pieces (by decide) fun piece found => (clean piece found).mono (by simp)
  have cut : Text.splitAt (CodePoint.char '&') (Text.joinWith "&" pieces) = pieces := by
    apply Text.split_at_intercalate
    · rintro rfl
      simp at count
    · intro piece found
      exact (clean piece found).not_mem rfl (by decide) (by simp)
  exact ⟨mem_join_with_mark count, among, by rw [cut, back]⟩

/-- Every spelling of an intersection shows an ampersand and is read as its members. -/
theorem intersection_read {text : Text} (spelled : SpellsIntersection members text) :
    CodePoint.char '&' ∈ text ∧ SpacedMarks [.char '&', .char '(', .char ')'] text ∧
      conjuncts text = members := by
  cases spelled with
  | bare each =>
      obtain ⟨joined, among, back⟩ := conjunct_pieces_read several wellFormed each
      refine ⟨joined, among.mono (by simp), ?_⟩
      rw [conjuncts_unenclosed (unenclosed_of_spaced among), back]
  | enclosed each padded =>
      obtain ⟨joined, among, back⟩ := conjunct_pieces_read several wellFormed each
      refine ⟨padded.mem (by simp [joined]), padded.spaced (among.enclosed.mono (by simp)), ?_⟩
      rw [conjuncts_enclosed (unenclosed_of_spaced among) padded, back]

end

theorem alternative_word {text : Text} (noAmpersand : CodePoint.char '&' ∉ text) :
    alternative (Text.strip text) = .single (SingleType.ofText (Text.strip text) false) := by
  rw [alternative, if_neg (mt contains_ampersand_iff.1 noAmpersand)]

theorem alternative_intersection {text : Text} (ampersand : CodePoint.char '&' ∈ text) :
    alternative (Text.strip text) = .intersection (conjuncts text) := by
  rw [alternative, if_pos (contains_ampersand_iff.2 ampersand), conjuncts_strip]

theorem alternative_read {member : Alternative} {text : Text} (spelled : member.Spells text)
    (wellFormed : member.IsWellFormed IsClassLabel) :
    SpacedMarks [.char '&', .char '(', .char ')'] text ∧
      alternative (Text.strip text) = member := by
  cases spelled with
  | @single type name text spelled padded =>
      obtain ⟨ofName, plain⟩ := wellFormed
      have unmarked := spelled.unmarked ofName
      have spaced := padded.spaced (.of_unmarked unmarked)
      refine ⟨spaced.mono (by simp), ?_⟩
      rw [alternative_word (spaced.not_mem rfl (by decide) (by simp)), padded.strip_eq,
        strip_unmarked unmarked, spelled.read ofName, ← plain]
      cases type <;> rfl
  | @intersection members text spelled =>
      obtain ⟨joined, among, back⟩ := intersection_read wellFormed.1 wellFormed.2 spelled
      refine ⟨among, ?_⟩
      rw [alternative_intersection joined, back]

def ofPieces (nullable : Bool) : List Text → TypeRef
  | [only] =>
      if only.contains '&' then .intersection (conjuncts only)
      else .single (SingleType.ofText only nullable)
  | members => .union (members.map alternative)

/-- Where no mark for null stands anywhere, only the pieces between the bars count. -/
theorem of_text_unmarked {text : Text} (unmarked : CodePoint.char '?' ∉ text) :
    ofText text = ofPieces false ((Text.splitAt (CodePoint.char '|') text).map Text.strip) := by
  have noMark : ¬(Text.strip text).head? = some '?' :=
    fun first => unmarked (Text.mem_of_mem_trim (List.mem_of_mem_head? first))
  have visible : (CodePoint.char '|').isIn Text.isBlank = false := by decide
  have pieces := Text.trimmed_pieces visible text
  simp only [ofText, noMark, decide_false, if_false]
  change ofPieces false ((Text.splitAt (CodePoint.char '|') (Text.strip text)).map Text.strip) = _
  exact congrArg (ofPieces false) pieces

theorem of_text_marked {rest text : Text} (padded : Padded ("?" ++ rest) text) :
    ofText text = ofPieces true ((Text.splitAt (CodePoint.char '|') rest).map Text.strip) := by
  have visible : (CodePoint.char '?').isIn Text.isBlank = false := by decide
  have bar : (CodePoint.char '|').isIn Text.isBlank = false := by decide
  obtain ⟨inner, tail, rfl, dropped, trimmed⟩ := Text.trim_cons_kept visible rest
  have pieces := Text.trimmed_pieces_append dropped bar inner
  have stripped : Text.strip text = .char '?' :: inner := padded.strip_eq.trans trimmed
  rw [ofText, stripped]
  change ofPieces true ((Text.splitAt (CodePoint.char '|') inner).map Text.strip) = _
  exact congrArg (ofPieces true) pieces.symm

section

variable (nullable : Bool)

theorem of_pieces_word {text : Text} (noBar : CodePoint.char '|' ∉ text)
    (noAmpersand : CodePoint.char '&' ∉ text) :
    ofPieces nullable ((Text.splitAt (CodePoint.char '|') text).map Text.strip) =
      .single (SingleType.ofText (Text.strip text) nullable) := by
  rw [Text.split_at_of_not_mem _ _ noBar, List.map_singleton, ofPieces,
    if_neg (mt contains_ampersand_iff.1 noAmpersand)]

/-- An intersection is read without regard to a mark for null in front of it. -/
theorem of_pieces_intersection {text : Text} (noBar : CodePoint.char '|' ∉ text)
    (ampersand : CodePoint.char '&' ∈ text) :
    ofPieces nullable ((Text.splitAt (CodePoint.char '|') text).map Text.strip) =
      .intersection (conjuncts text) := by
  rw [Text.split_at_of_not_mem _ _ noBar, List.map_singleton, ofPieces,
    if_pos (contains_ampersand_iff.2 ampersand), conjuncts_strip]

/-- And so is a union. -/
theorem of_pieces_union {pieces : List Text} (several : 2 ≤ pieces.length) :
    ofPieces nullable (pieces.map Text.strip) =
      .union (pieces.map fun piece => alternative (Text.strip piece)) := by
  match pieces, several with
  | first :: second :: others, _ => simp [ofPieces]

end

theorem of_pieces_name {name text : Text} (padded : Padded name text)
    (unmarked : ∀ point ∈ name, isTypeMark point = false) (nullable : Bool) :
    ofPieces nullable ((Text.splitAt (CodePoint.char '|') text).map Text.strip) =
      .single (SingleType.ofText name nullable) := by
  have spaced := padded.spaced (.of_unmarked unmarked)
  rw [of_pieces_word nullable (spaced.not_mem rfl (by decide) (by simp))
    (spaced.not_mem rfl (by decide) (by simp)), padded.strip_eq, strip_unmarked unmarked]

theorem Spells.read {type : TypeRef} {text : Text} (spelled : type.Spells text)
    (wellFormed : type.IsWellFormed IsClassLabel) : ofText text = type := by
  cases spelled with
  | @plain type name text plain spelled padded =>
      have unmarked := spelled.unmarked wellFormed
      have spaced := padded.spaced (.of_unmarked unmarked)
      rw [of_text_unmarked (spaced.not_mem rfl (by decide) (by simp)),
        of_pieces_name padded unmarked, spelled.read wellFormed, ← plain]
      cases type <;> rfl
  | @nullable type name rest text marked spelled inner padded =>
      have unmarked := spelled.unmarked wellFormed
      rw [of_text_marked padded, of_pieces_name inner unmarked, spelled.read wellFormed, ← marked]
      cases type <;> rfl
  | @intersection members text spelled =>
      obtain ⟨joined, among, back⟩ := intersection_read wellFormed.1 wellFormed.2 spelled
      rw [of_text_unmarked (among.not_mem rfl (by decide) (by decide)),
        of_pieces_intersection false (among.not_mem rfl (by decide) (by decide)) joined, back]
  | @union members pieces each =>
      obtain ⟨clean, back⟩ := forall_read (fun text => alternative (Text.strip text))
        (fun member text => alternative_read) each wellFormed.2
      have count : 2 ≤ pieces.length := by
        have several := wellFormed.1
        rw [← back, List.length_map] at several
        exact several
      have among : SpacedMarks [.char '|', .char '&', .char '(', .char ')']
          (Text.joinWith "|" pieces) :=
        .join_with "|" pieces (by decide) fun piece found => (clean piece found).mono (by simp)
      have cut : Text.splitAt (CodePoint.char '|') (Text.joinWith "|" pieces) = pieces := by
        apply Text.split_at_intercalate
        · rintro rfl
          simp at count
        · intro piece found
          exact (clean piece found).not_mem rfl (by decide) (by decide)
      rw [of_text_unmarked (among.not_mem rfl (by decide) (by decide)), cut,
        of_pieces_union false count, back]

end TypeRef

end Stubwright
