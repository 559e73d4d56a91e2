import Stubwright.Proofs.TypeRef.Grammar

/-!
Names that mean a class by the place they stand in. Reading a type and writing it again keeps every
member at its place. Outside of intersections such a name is written as the bare word; within one it
is taken for the name of a class like any other, and gets the mark of the root.
-/

namespace Stubwright

def relativeNames : List Text := ["parent", "self", "static"]

/-- What stands between the bars of a type. A word is a name and the white space around it. -/
inductive WrittenPiece where
  | single (word : Text)
  | group (before : Text) (words : List Text) (after : Text)

inductive WrittenType where
  | plain (word : Text)
  | nullable (before word : Text)
  | intersection (words : List Text)
  | union (pieces : List WrittenPiece)

/-- A name of the language in lower case, if it is one of those that are known, and else the name of
a class with one mark of the root. -/
def rootedUnless (known : List Text) (name : Text) : Text :=
  if Text.lowercase name ∈ known then Text.lowercase name else QualifiedName.rooted name

namespace WrittenPiece

def text : WrittenPiece → Text
  | .single word => word
  | .group before words after => before ++ ("(" ++ Text.joinWith "&" words ++ ")" ++ after)

/-- Whether the words hold no mark, two or more of them are joined, and there is only white space
around parentheses. -/
def IsWritten : WrittenPiece → Prop
  | .single word => SpacedMarks [] word
  | .group before words after =>
      (∀ point ∈ before, point.isIn Text.isBlank = true) ∧
        (∀ point ∈ after, point.isIn Text.isBlank = true) ∧ 2 ≤ words.length ∧
        ∀ word ∈ words, SpacedMarks [] word

instance : (piece : WrittenPiece) → Decidable piece.IsWritten
  | .single word => inferInstanceAs (Decidable (SpacedMarks [] word))
  | .group before words after =>
      inferInstanceAs
        (Decidable ((∀ point ∈ before, point.isIn Text.isBlank = true) ∧
          (∀ point ∈ after, point.isIn Text.isBlank = true) ∧ 2 ≤ words.length ∧
          ∀ word ∈ words, SpacedMarks [] word))

/-- The same piece without white space, its words replaced where they stand. -/
def rewrite (alone joined : Text → Text) : WrittenPiece → WrittenPiece
  | .single word => .single (alone (Text.strip word))
  | .group _ words _ => .group [] (words.map fun word => joined (Text.strip word)) []

def joinedWords : WrittenPiece → List Text
  | .single _ => []
  | .group _ words _ => words

end WrittenPiece

namespace WrittenType

def text : WrittenType → Text
  | .plain word => word
  | .nullable before word => before ++ ("?" ++ word)
  | .intersection words => Text.joinWith "&" words
  | .union pieces => Text.joinWith "|" (pieces.map WrittenPiece.text)

def IsWritten : WrittenType → Prop
  | .plain word => SpacedMarks [] word
  | .nullable before word =>
      (∀ point ∈ before, point.isIn Text.isBlank = true) ∧ SpacedMarks [] word
  | .intersection words => 2 ≤ words.length ∧ ∀ word ∈ words, SpacedMarks [] word
  | .union pieces => 2 ≤ pieces.length ∧ ∀ piece ∈ pieces, piece.IsWritten

instance : (type : WrittenType) → Decidable type.IsWritten
  | .plain word => inferInstanceAs (Decidable (SpacedMarks [] word))
  | .nullable before word =>
      inferInstanceAs
        (Decidable ((∀ point ∈ before, point.isIn Text.isBlank = true) ∧ SpacedMarks [] word))
  | .intersection words =>
      inferInstanceAs (Decidable (2 ≤ words.length ∧ ∀ word ∈ words, SpacedMarks [] word))
  | .union pieces =>
      inferInstanceAs (Decidable (2 ≤ pieces.length ∧ ∀ piece ∈ pieces, piece.IsWritten))

/-- The same type without white space, its words replaced where they stand. A mark for null that
says nothing is left out. -/
def rewrite (alone joined : Text → Text) : WrittenType → WrittenType
  | .plain word => .plain (alone (Text.strip word))
  | .nullable _ word =>
      if admitsNull (QualifiedName.bare (Text.strip word)) then .plain (alone (Text.strip word))
      else .nullable [] (alone (Text.strip word))
  | .intersection words => .intersection (words.map fun word => joined (Text.strip word))
  | .union pieces => .union (pieces.map (WrittenPiece.rewrite alone joined))

def joinedWords : WrittenType → List Text
  | .plain _ => []
  | .nullable _ _ => []
  | .intersection words => words
  | .union pieces => pieces.flatMap WrittenPiece.joinedWords

end WrittenType

theorem lowercase_builtin_name (name : Text) (builtin : name ∈ builtinNames) :
    Text.lowercase name = name :=
  (builtin_name_letters name builtin).lowercase_eq builtin

/-- Joined texts differ where two of their pieces do, if nothing but the mark divides them. -/
theorem joined_maps_eq {α : Type} {mark : CodePoint} {items : List α} {left right : α → Text}
    (several : 2 ≤ items.length) (leftClean : ∀ item ∈ items, mark ∉ left item)
    (rightClean : ∀ item ∈ items, mark ∉ right item) :
    Text.joinWith [mark] (items.map left) = Text.joinWith [mark] (items.map right) ↔
      ∀ item ∈ items, left item = right item := by
  have nonempty : ∀ write : α → Text, items.map write ≠ [] := by
    intro write none
    rw [List.map_eq_nil_iff.1 none] at several
    cases several
  constructor
  · intro same
    apply List.map_inj_left.1
    apply joined_injective (nonempty left) (nonempty right) _ _ same
    · simpa using leftClean
    · simpa using rightClean
  · intro same
    rw [List.map_congr_left same]

/-- A name with the mark of the root is no built-in name, so a built-in name has none. -/
theorem bare_of_builtin {name : Text} (builtin : Text.lowercase name ∈ builtinNames) :
    QualifiedName.bare name = name := by
  apply bare_of_unrooted
  intro rooted
  cases name with
  | nil => cases rooted
  | cons point rest =>
      obtain rfl : point = separator := Option.some.inj rooted
      exact rooted_name_not_builtin rest builtin

theorem SpacedMarks.strip {word : Text} (free : SpacedMarks [] word) :
    SpacedMarks [] (Text.strip word) :=
  fun point member => free point (Text.mem_of_mem_trim member)

/-- A rule for words that puts no mark into them. -/
def IsSafe (rule : Text → Text) : Prop := ∀ word, SpacedMarks [] word → SpacedMarks [] (rule word)

theorem rooted_safe : IsSafe QualifiedName.rooted := by
  intro word free
  have mark : SpacedMarks [] [separator] := .of_unmarked (by decide)
  apply mark.append
  intro point member
  exact free point ((List.dropWhile_sublist _).mem member)

theorem rooted_unless_safe {known : List Text} (builtin : ∀ name ∈ known, name ∈ builtinNames) :
    IsSafe (rootedUnless known) := by
  intro word free
  unfold rootedUnless
  split
  · rename_i among
    exact .of_unmarked (builtin_name_unmarked _ (builtin _ among))
  · exact rooted_safe word free

namespace SingleType

/-- A name is read as the built-in type or the class that it is written as again. -/
theorem of_text_written (name : Text) (nullable : Bool) :
    (ofText name nullable).written = rootedUnless builtinNames name := by
  unfold ofText rootedUnless
  dsimp only
  split <;> rfl

theorem of_text_marked (name : Text) (nullable : Bool) :
    (ofText name nullable).isMarked = (nullable && !admitsNull (QualifiedName.bare name)) := by
  unfold ofText
  dsimp only
  split
  · rename_i builtin
    have same : admitsNull (Text.lowercase name) = admitsNull name := by
      simp only [admitsNull, lowercase_builtin_name _ builtin]
    rw [bare_of_builtin builtin, ← same]
    rfl
  · rfl

end SingleType

namespace WrittenPiece

/-- Every word of an intersection is taken for a class. -/
theorem conjuncts_text (words : List Text) :
    (words.map Conjunct.ofPiece).map Conjunct.text =
      words.map fun word => QualifiedName.rooted (Text.strip word) := by
  rw [List.map_map]
  rfl

theorem words_unenclosed {words : List Text} (free : ∀ word ∈ words, SpacedMarks [] word) :
    SpacedMarks [.char '&'] (Text.joinWith "&" words) :=
  .join_with "&" words (by decide) fun word among => (free word among).mono (by simp)

theorem split_words {words : List Text} (several : 2 ≤ words.length)
    (free : ∀ word ∈ words, SpacedMarks [] word) :
    Text.splitAt (CodePoint.char '&') (Text.joinWith "&" words) = words := by
  apply Text.split_at_intercalate
  · rintro rfl
    cases several
  · exact fun word among => (free word among).not_mem rfl (by decide) (by simp)

theorem spaced {piece : WrittenPiece} (written : piece.IsWritten) :
    SpacedMarks [.char '(', .char ')', .char '&'] piece.text := by
  cases piece with
  | single word => exact SpacedMarks.mono written (by simp)
  | group before words after =>
      obtain ⟨beforeBlank, afterBlank, -, free⟩ := written
      have inner := (words_unenclosed free).enclosed
      exact (SpacedMarks.of_blank beforeBlank).append (inner.append (.of_blank afterBlank))

/-- A piece is read, and written again, with each of its words in its place. -/
theorem alternative_text {piece : WrittenPiece} (written : piece.IsWritten) :
    (TypeRef.alternative (Text.strip piece.text)).text =
      (piece.rewrite (rootedUnless builtinNames) QualifiedName.rooted).text := by
  cases piece with
  | single word =>
      have noAmpersand : CodePoint.char '&' ∉ word :=
        SpacedMarks.not_mem written rfl (by decide) (by simp)
      have plain : (SingleType.ofText (Text.strip word) false).isMarked = false :=
        SingleType.of_text_marked _ _
      rw [text, TypeRef.alternative_word noAmpersand, Alternative.text,
        SingleType.render_unmarked plain, SingleType.of_text_written]
      rfl
  | group before words after =>
      obtain ⟨beforeBlank, afterBlank, several, free⟩ := written
      have padded : Padded ("(" ++ Text.joinWith "&" words ++ ")")
          (group before words after).text :=
        .mk before after beforeBlank afterBlank
      have ampersand : CodePoint.char '&' ∈ (group before words after).text := by
        have inside : CodePoint.char '&' ∈ Text.joinWith "&" words := mem_join_with_mark several
        apply padded.mem
        simp [inside]
      have unenclosed := TypeRef.unenclosed_of_spaced (words_unenclosed free)
      rw [TypeRef.alternative_intersection ampersand, TypeRef.conjuncts_enclosed unenclosed padded,
        split_words several free, Alternative.text, conjuncts_text, rewrite, text, List.append_nil,
        List.nil_append]

section

variable {alone joined other : Text → Text} (joinedSafe : IsSafe joined) (otherSafe : IsSafe other)

include joinedSafe in
theorem rewrite_written {piece : WrittenPiece} (written : piece.IsWritten)
    (aloneSafe : IsSafe alone) : (piece.rewrite alone joined).IsWritten := by
  cases piece with
  | single word => exact aloneSafe _ (SpacedMarks.strip written)
  | group before words after =>
      obtain ⟨-, -, several, free⟩ := written
      refine ⟨by simp, by simp, by rwa [List.length_map], ?_⟩
      intro text among
      obtain ⟨word, found, rfl⟩ := List.mem_map.1 among
      exact joinedSafe _ (free word found).strip

include joinedSafe otherSafe

theorem joined_words_eq {words : List Text} (several : 2 ≤ words.length)
    (free : ∀ word ∈ words, SpacedMarks [] word) :
    Text.joinWith "&" (words.map fun word => joined (Text.strip word)) =
        Text.joinWith "&" (words.map fun word => other (Text.strip word)) ↔
      ∀ word ∈ words, joined (Text.strip word) = other (Text.strip word) := by
  apply joined_maps_eq several
  · intro word among
    exact (joinedSafe _ (free word among).strip).not_mem rfl (by decide) (by simp)
  · intro word among
    exact (otherSafe _ (free word among).strip).not_mem rfl (by decide) (by simp)

/-- Two rules for the words of intersections give the same text only if they agree on each word. -/
theorem rewrite_text_eq {piece : WrittenPiece} (written : piece.IsWritten) :
    (piece.rewrite alone joined).text = (piece.rewrite alone other).text ↔
      ∀ word ∈ piece.joinedWords, joined (Text.strip word) = other (Text.strip word) := by
  cases piece with
  | single word => exact iff_of_true rfl (by simp [joinedWords])
  | group before words after =>
      obtain ⟨-, -, several, free⟩ := written
      rw [joinedWords, ← joined_words_eq joinedSafe otherSafe several free]
      constructor
      · intro same
        have enclosed := List.append_cancel_right (List.append_cancel_left same)
        exact List.append_cancel_left (List.append_cancel_right enclosed)
      · intro same
        exact congrArg (fun inner : Text => ([] : Text) ++
          (Text.ofString "(" ++ inner ++ Text.ofString ")" ++ [])) same

end

end WrittenPiece

namespace WrittenType

theorem union_spaced {pieces : List WrittenPiece} (written : ∀ piece ∈ pieces, piece.IsWritten) :
    SpacedMarks [.char '|', .char '(', .char ')', .char '&']
      (Text.joinWith "|" (pieces.map WrittenPiece.text)) := by
  apply SpacedMarks.join_with "|" _ (by decide)
  intro text among
  obtain ⟨piece, found, rfl⟩ := List.mem_map.1 among
  exact (WrittenPiece.spaced (written piece found)).mono (by simp)

theorem split_pieces {pieces : List WrittenPiece} (several : 2 ≤ pieces.length)
    (written : ∀ piece ∈ pieces, piece.IsWritten) :
    Text.splitAt (CodePoint.char '|') (Text.joinWith "|" (pieces.map WrittenPiece.text)) =
      pieces.map WrittenPiece.text := by
  apply Text.split_at_intercalate
  · intro none
    rw [List.map_eq_nil_iff.1 none] at several
    cases several
  · intro text among
    obtain ⟨piece, found, rfl⟩ := List.mem_map.1 among
    exact (WrittenPiece.spaced (written piece found)).not_mem rfl (by decide) (by decide)

theorem read_word {word : Text} (free : SpacedMarks [] word) (nullable : Bool) :
    TypeRef.ofPieces nullable ((Text.splitAt (CodePoint.char '|') word).map Text.strip) =
      .single (SingleType.ofText (Text.strip word) nullable) :=
  TypeRef.of_pieces_word nullable (free.not_mem rfl (by decide) (by simp))
    (free.not_mem rfl (by decide) (by simp))

theorem read_intersection {words : List Text} (several : 2 ≤ words.length)
    (free : ∀ word ∈ words, SpacedMarks [] word) :
    TypeRef.ofText (Text.joinWith "&" words) = .intersection (words.map Conjunct.ofPiece) := by
  have among := WrittenPiece.words_unenclosed free
  have ampersand : CodePoint.char '&' ∈ Text.joinWith "&" words := mem_join_with_mark several
  rw [TypeRef.of_text_unmarked (among.not_mem rfl (by decide) (by decide)),
    TypeRef.of_pieces_intersection false (among.not_mem rfl (by decide) (by decide)) ampersand,
    TypeRef.conjuncts_unenclosed (TypeRef.unenclosed_of_spaced among),
    WrittenPiece.split_words several free]

theorem read_union {pieces : List WrittenPiece} (several : 2 ≤ pieces.length)
    (written : ∀ piece ∈ pieces, piece.IsWritten) :
    TypeRef.ofText (Text.joinWith "|" (pieces.map WrittenPiece.text)) =
      .union (pieces.map fun piece => TypeRef.alternative (Text.strip piece.text)) := by
  rw [TypeRef.of_text_unmarked ((union_spaced written).not_mem rfl (by decide) (by decide)),
    split_pieces several written, TypeRef.of_pieces_union false (by rwa [List.length_map]),
    List.map_map]
  rfl

/-- A type is read, and written again, with each of its words in its place: outside of intersections
a built-in name is the word in lower case, and every other word gets the mark of the root. -/
theorem read_rewritten {type : WrittenType} (written : type.IsWritten) :
    (TypeRef.ofText type.text).render =
      .ok (type.rewrite (rootedUnless builtinNames) QualifiedName.rooted).text := by
  cases type with
  | plain word =>
      have free : SpacedMarks [] word := written
      have plain : (SingleType.ofText (Text.strip word) false).isMarked = false :=
        SingleType.of_text_marked _ _
      rw [text, TypeRef.of_text_unmarked (free.not_mem rfl (by decide) (by simp)), read_word free,
        TypeRef.render, SingleType.render_unmarked plain, SingleType.of_text_written]
      rfl
  | nullable before word =>
      obtain ⟨blank, free⟩ := written
      have padded : Padded ("?" ++ word) (nullable before word).text := by
        have alone : Padded ("?" ++ word) (before ++ (Text.ofString "?" ++ word ++ [])) :=
          .mk before [] blank (by simp)
        rwa [List.append_nil] at alone
      have marked := SingleType.of_text_marked (Text.strip word) true
      rw [TypeRef.of_text_marked padded, read_word free, TypeRef.render, rewrite]
      cases null : admitsNull (QualifiedName.bare (Text.strip word)) with
      | true =>
          rw [null] at marked
          rw [SingleType.render_unmarked marked, SingleType.of_text_written]
          rfl
      | false =>
          rw [null] at marked
          rw [SingleType.render_marked marked, SingleType.of_text_written]
          rfl
  | intersection words =>
      obtain ⟨several, free⟩ := written
      have bare : ∀ member ∈ words.map Conjunct.ofPiece, member.IsBare := by
        intro member among
        obtain ⟨word, -, rfl⟩ := List.mem_map.1 among
        exact QualifiedName.bare_bare _
      rw [text, read_intersection several free, TypeRef.render, intersection_text bare,
        WrittenPiece.conjuncts_text]
      rfl
  | union pieces =>
      obtain ⟨several, each⟩ := written
      have bare : ∀ member ∈ pieces.map fun piece => TypeRef.alternative (Text.strip piece.text),
          member.render = .ok member.text := by
        intro member among
        obtain ⟨piece, -, rfl⟩ := List.mem_map.1 among
        exact Alternative.render_text (TypeRef.alternative_bare _)
      have texts := List.map_congr_left fun piece among =>
        WrittenPiece.alternative_text (each piece among)
      rw [text, read_union several each, TypeRef.render,
        map_m_written Alternative.render Alternative.text _ bare, List.map_map, rewrite, text,
        List.map_map]
      exact congrArg (fun texts => Except.ok (Text.joinWith "|" texts)) texts

/-- Where the words of intersections are rewritten differently, so is the type. -/
theorem rewrite_text_eq {alone joined other : Text → Text} (aloneSafe : IsSafe alone)
    (joinedSafe : IsSafe joined) (otherSafe : IsSafe other) {type : WrittenType}
    (written : type.IsWritten) :
    (type.rewrite alone joined).text = (type.rewrite alone other).text ↔
      ∀ word ∈ type.joinedWords, joined (Text.strip word) = other (Text.strip word) := by
  cases type with
  | plain word => exact iff_of_true rfl (by simp [joinedWords])
  | nullable before word => exact iff_of_true rfl (by simp [joinedWords])
  | intersection words =>
      exact WrittenPiece.joined_words_eq joinedSafe otherSafe written.1 written.2
  | union pieces =>
      obtain ⟨several, each⟩ := written
      have clean : ∀ rule, IsSafe rule →
          ∀ piece ∈ pieces, CodePoint.char '|' ∉ (piece.rewrite alone rule).text := by
        intro rule safe piece among
        have rewritten := WrittenPiece.rewrite_written safe (each piece among) aloneSafe
        exact (WrittenPiece.spaced rewritten).not_mem rfl (by decide) (by decide)
      have pieces_eq := joined_maps_eq several (clean joined joinedSafe) (clean other otherSafe)
      have piece_eq : ∀ piece ∈ pieces,
          (piece.rewrite alone joined).text = (piece.rewrite alone other).text ↔
            ∀ word ∈ piece.joinedWords, joined (Text.strip word) = other (Text.strip word) :=
        fun piece found => WrittenPiece.rewrite_text_eq joinedSafe otherSafe (each piece found)
      rw [rewrite, rewrite, text, text, List.map_map, List.map_map]
      apply Iff.trans pieces_eq
      constructor
      · intro same word among
        obtain ⟨piece, found, inside⟩ := List.mem_flatMap.1 among
        exact (piece_eq piece found).1 (same piece found) word inside
      · intro same piece found
        apply (piece_eq piece found).2
        intro word inside
        exact same word (List.mem_flatMap.2 ⟨piece, found, inside⟩)

theorem relative_names_builtin : ∀ name ∈ relativeNames, name ∈ builtinNames := by
  decide

/-- The mark of the root takes its meaning from a relative name, and from no other. -/
theorem rooted_eq_iff (name : Text) :
    QualifiedName.rooted name = rootedUnless relativeNames name ↔
      Text.lowercase name ∉ relativeNames := by
  unfold rootedUnless
  split
  · rename_i relative
    have unrooted : ∀ name ∈ relativeNames, name.head? ≠ some separator := by decide
    refine iff_of_false ?_ (not_not_intro relative)
    intro same
    apply unrooted _ relative
    rw [← same]
    rfl
  · rename_i other
    exact iff_of_true rfl other

/-- A type that is read and written again has its members where they were. Outside of intersections
a relative name is the bare word in lower case, whatever its letter case was; in an intersection it
gets the mark of the root like the name of a class. So all relative names keep their meaning exactly
if none of them stands in an intersection. -/
theorem relative_names_kept (type : WrittenType) (written : type.IsWritten) :
    ∃ text, (TypeRef.ofText type.text).render = .ok text ∧
      text = (type.rewrite (rootedUnless builtinNames) QualifiedName.rooted).text ∧
      (∀ name, Text.lowercase name ∈ relativeNames →
        rootedUnless builtinNames name = Text.lowercase name) ∧
      (text = (type.rewrite (rootedUnless builtinNames) (rootedUnless relativeNames)).text ↔
        ∀ word ∈ type.joinedWords, Text.lowercase (Text.strip word) ∉ relativeNames) := by
  refine ⟨_, read_rewritten written, rfl, ?_, ?_⟩
  · intro name relative
    exact if_pos (relative_names_builtin _ relative)
  · have agree := rewrite_text_eq (rooted_unless_safe fun _ builtin => builtin) rooted_safe
      (rooted_unless_safe relative_names_builtin) written
    rw [agree]
    apply forall₂_congr
    intro word _
    exact rooted_eq_iff (Text.strip word)

/-- Relative names on both sides of an intersection, in capitals and with white space around. -/
theorem relative_names_kept_around :
    let type : WrittenType :=
      .union [.single " SELF\n", .group " " ["A", "\\B\\C "] "\t", .single "Static"]
    type.IsWritten ∧ type.text = " SELF\n| (A&\\B\\C )\t|Static" ∧
      (∀ word ∈ type.joinedWords, Text.lowercase (Text.strip word) ∉ relativeNames) ∧
      (TypeRef.ofText " SELF\n| (A&\\B\\C )\t|Static").render = .ok "self|(\\A&\\B\\C)|static" := by
  intro type
  have given : type.text = " SELF\n| (A&\\B\\C )\t|Static" := by decide +kernel
  have written : type.IsWritten := by decide +kernel
  obtain ⟨text, rendered, same, -, -⟩ := relative_names_kept type written
  rw [← given, rendered, same]
  exact ⟨written, rfl, by decide +kernel, congrArg _ (by decide +kernel)⟩

/-- A relative name in an intersection is written as the name of a class, which it is not. -/
theorem relative_conjunct_is_rooted :
    let type : WrittenType := .intersection ["A", "self"]
    type.text = "A&self" ∧ (TypeRef.ofText "A&self").render = .ok "\\A&\\self" ∧
      (type.rewrite (rootedUnless builtinNames) (rootedUnless relativeNames)).text =
        "\\A&self" := by
  exact ⟨rfl, rfl, rfl⟩

end WrittenType

end Stubwright
