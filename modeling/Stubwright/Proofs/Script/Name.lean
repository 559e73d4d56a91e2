import Stubwright.Name
import Stubwright.Proofs.Script.Reader
import Stubwright.Proofs.Text.Pieces

/-!
Names of a script: single words that are not reserved, and words joined by separators. A reference
starts with a separator, so that it means the same in every namespace.
-/

namespace Stubwright

namespace Script

def IsWord : Text → Prop
  | [] => False
  | first :: rest => isWordStart first = true ∧ ∀ point ∈ rest, isWordPoint point = true

instance : (word : Text) → Decidable (IsWord word)
  | [] => inferInstanceAs (Decidable False)
  | first :: rest =>
      inferInstanceAs
        (Decidable (isWordStart first = true ∧ ∀ point ∈ rest, isWordPoint point = true))

def IsName (word : Text) : Prop := IsWord word ∧ isReserved word = false

instance (word : Text) : Decidable (IsName word) :=
  inferInstanceAs (Decidable (IsWord word ∧ isReserved word = false))

/-- A name that may be qualified, without the mark of the root namespace. -/
def IsQualified (name : Text) : Prop := ∀ piece ∈ Text.splitAt separator name, IsName piece

instance (name : Text) : Decidable (IsQualified name) :=
  inferInstanceAs (Decidable (∀ piece ∈ Text.splitAt separator name, IsName piece))

def qualified : Reader Text := do
  let first ← takeName
  let others ← many do
    take separator
    takeName
  return Text.joinWith [separator] (first :: others)

def reference : Reader Text := do
  trivia
  take separator
  qualified

theorem take_word_append {word suffix : Text} (isWord : IsWord word) (ends : EndsWord suffix) :
    takeWord (word ++ suffix) = some (word, suffix) := by
  cases word with
  | nil => exact isWord.elim
  | cons first rest =>
      rw [List.cons_append, takeWord, if_pos isWord.1, take_word_points isWord.2 ends,
        drop_word_points isWord.2 ends]

theorem take_name_append {word suffix : Text} (isName : IsName word) (ends : EndsWord suffix) :
    takeName (word ++ suffix) = some (word, suffix) := by
  rw [takeName, bind_of _ (take_word_append isName.1 ends), isName.2]
  rfl

theorem word_points {found : Text} (isWord : IsWord found) :
    ∀ point ∈ found, isWordPoint point = true := by
  cases found with
  | nil => exact isWord.elim
  | cons first rest =>
      exact List.forall_mem_cons.2 ⟨word_point_of_start isWord.1, isWord.2⟩

theorem word_starts {found : Text} (isWord : IsWord found) :
    StartsWith (fun first => isWordStart first = true) found := by
  cases found with
  | nil => exact isWord.elim
  | cons first rest =>
      exact ⟨first, rest, rfl, not_space_of_start isWord.1, word_start_ne isWord.1 rfl, isWord.1⟩

theorem word_append {found suffix : Text} (isWord : IsWord found) (ends : EndsWord suffix) :
    word (found ++ suffix) = some (found, suffix) := by
  rw [word, bind_of _ ((word_starts isWord).append suffix).trivia, take_word_append isWord ends]

theorem keyword_append {expected suffix : Text} (isWord : IsWord expected)
    (ends : EndsWord suffix) : keyword expected (expected ++ suffix) = some ((), suffix) := by
  rw [keyword, bind_of _ (word_append isWord ends), if_pos rfl]
  rfl

theorem keyword_other {found suffix : Text} (expected : Text) (isWord : IsWord found)
    (ends : EndsWord suffix) (other : found ≠ expected) :
    keyword expected (found ++ suffix) = none := by
  rw [keyword, bind_of _ (word_append isWord ends), if_neg other]
  rfl

theorem keyword_none {text : Text} (expected : Text)
    (starts : StartsWith (fun first => isWordStart first = false) text) :
    keyword expected text = none := by
  apply bind_none
  rw [word, bind_of _ starts.trivia]
  obtain ⟨first, rest, rfl, _, _, noWord⟩ := starts
  rw [takeWord, noWord]
  rfl

theorem name_append {found suffix : Text} (isName : IsName found) (ends : EndsWord suffix) :
    name (found ++ suffix) = some (found, suffix) := by
  rw [name, bind_of _ ((word_starts isName.1).append suffix).trivia, take_name_append isName ends]

theorem qualified_pieces {found : Text} (isQualified : IsQualified found) :
    ∃ first others, found = Text.joinWith [separator] (first :: others) ∧
      ∀ piece ∈ first :: others, IsName piece := by
  obtain ⟨first, others, pieces⟩ := List.exists_cons_of_ne_nil
    (Text.split_at_ne_nil separator found)
  rw [IsQualified, pieces] at isQualified
  refine ⟨first, others, ?_, isQualified⟩
  rw [← pieces]
  exact (Text.intercalate_split_at separator found).symm

theorem qualified_points {found : Text} (isQualified : IsQualified found) :
    ∀ point ∈ found, isWordPoint point = true ∨ point = separator := by
  obtain ⟨first, others, rfl, names⟩ := qualified_pieces isQualified
  have between : ∀ point ∈ [separator], isWordPoint point = true ∨ point = separator :=
    fun point among => .inr (List.mem_singleton.1 among)
  have within : ∀ piece ∈ first :: others, ∀ point ∈ piece,
      isWordPoint point = true ∨ point = separator :=
    fun piece among point inside => .inl (word_points (names piece among).1 point inside)
  exact Text.forall_mem_join_with [separator] _ between within

theorem qualified_starts {found : Text} (isQualified : IsQualified found) :
    StartsWith (fun first => isWordStart first = true) found := by
  obtain ⟨first, others, rfl, names⟩ := qualified_pieces isQualified
  rw [Text.join_with_cons]
  exact (word_starts (names first (by simp)).1).append _

def EndsName (suffix : Text) : Prop := EndsWord suffix ∧ suffix.head? ≠ some separator

theorem EndsName.of_cons {point : CodePoint} (rest : Text) (other : isWordPoint point = false)
    (noSeparator : point ≠ separator) : EndsName (point :: rest) :=
  ⟨.of_cons rest other, fun found => noSeparator (Option.some.inj found)⟩

theorem qualified_append {found suffix : Text} (isQualified : IsQualified found)
    (ends : EndsName suffix) : qualified (found ++ suffix) = some (found, suffix) := by
  obtain ⟨first, others, rfl, names⟩ := qualified_pieces isQualified
  have firstName := names first (by simp)
  have later := follows_pieces others ([separator] ++ ·) EndsWord
    (fun _ _ _ => .of_cons _ rfl) ends.1
  have rest : many (do take separator; takeName) (others.flatMap ([separator] ++ ·) ++ suffix) =
      some (others.map id, suffix) := by
    apply many_reads others _ id EndsWord _ _ ends.1
    · exact bind_none _ (take_none ends.2)
    · intro piece member following stops
      rw [List.append_assoc, List.singleton_append, bind_of _ (take_cons separator _)]
      exact take_name_append (names piece (by simp [member])) stops
    · intro piece _
      exact ⟨by simp, fun _ => .of_cons _ rfl⟩
  rw [Text.join_with_cons, List.append_assoc, qualified,
    bind_of _ (take_name_append firstName later), bind_of _ rest, List.map_id,
    ← Text.join_with_cons]
  rfl

theorem reference_none {text : Text} (starts : StartsWith (· ≠ separator) text) :
    reference text = none := by
  rw [reference, bind_of _ starts.trivia]
  apply bind_none
  obtain ⟨first, rest, rfl, _, _, other⟩ := starts
  exact if_neg other

theorem reference_skips {lead : Text} (isTrivia : IsTrivia lead) (text : Text) :
    reference (lead ++ text) = reference text :=
  bind_congr _ (trivia_skips isTrivia text)

theorem name_skips {lead : Text} (isTrivia : IsTrivia lead) (text : Text) :
    name (lead ++ text) = name text :=
  bind_congr _ (trivia_skips isTrivia text)

theorem reference_append {found suffix : Text} (isQualified : IsQualified found)
    (ends : EndsName suffix) :
    reference (separator :: found ++ suffix) = some (found, suffix) := by
  have nothing : trivia (separator :: (found ++ suffix)) =
      some ((), separator :: (found ++ suffix)) := by
    rw [trivia, skip_visible _ rfl (by decide)]
    rfl
  rw [List.cons_append, reference, bind_of _ nothing, bind_of _ (take_cons separator _),
    qualified_append isQualified ends]

end Script

namespace QualifiedName

open Script

theorem divide_of_not_mem (short : Text) (single : separator ∉ short) :
    divide short = (none, short) := by
  induction short with
  | nil => rfl
  | cons point short ih =>
      have later := ih fun member => single (List.mem_cons_of_mem _ member)
      have other : point ≠ separator := fun same => single (by simp [same])
      rw [divide, later]
      exact if_neg other

theorem divide_append (piece rest : Text) (single : separator ∉ piece) :
    divide (piece ++ separator :: rest) =
      (some (match (divide rest).1 with
        | none => piece
        | some scope => piece ++ separator :: scope), (divide rest).2) := by
  induction piece with
  | nil =>
      rw [List.nil_append, divide]
      rcases divide rest with ⟨scope | scope, short⟩
      · exact if_pos rfl
      · rfl
  | cons point piece ih =>
      have later := ih fun member => single (List.mem_cons_of_mem _ member)
      rw [List.cons_append, divide, later]
      rcases divide rest with ⟨scope | scope, short⟩
      · rfl
      · rfl

theorem separator_not_mem {word : Text} (isWord : IsWord word) : separator ∉ word := by
  intro member
  cases word with
  | nil => exact isWord.elim
  | cons first rest =>
      rcases List.mem_cons.1 member with rfl | later
      · exact absurd isWord.1 (by decide)
      · exact absurd (isWord.2 _ later) (by decide)

theorem is_qualified_of_name {name : Text} (isName : IsName name) : IsQualified name := by
  rw [IsQualified, Text.split_at_of_not_mem separator name (separator_not_mem isName.1)]
  intro piece member
  rw [List.mem_singleton.1 member]
  exact isName

theorem is_qualified_append {piece rest : Text} (isName : IsName piece)
    (isQualified : IsQualified rest) : IsQualified (piece ++ separator :: rest) := by
  rw [IsQualified, Text.split_at_append_separator separator piece rest (separator_not_mem isName.1)]
  intro other member
  rcases List.mem_cons.1 member with rfl | later
  · exact isName
  · exact isQualified other later

/-- The last of the pieces is the short name, and the others are the namespace. -/
theorem divide_joined (pieces : List Text) (nonempty : pieces ≠ [])
    (names : ∀ piece ∈ pieces, IsName piece) :
    IsName (divide ([separator].intercalate pieces)).2 ∧
      ∀ scope, (divide ([separator].intercalate pieces)).1 = some scope → IsQualified scope := by
  induction pieces with
  | nil => exact absurd rfl nonempty
  | cons piece pieces ih =>
      have isName := names piece (by simp)
      have single := separator_not_mem isName.1
      cases pieces with
      | nil =>
          rw [List.intercalate_singleton, divide_of_not_mem piece single]
          exact ⟨isName, fun _ none => absurd none (by simp)⟩
      | cons next others =>
          obtain ⟨short, inner⟩ :=
            ih (by simp) fun other member => names other (List.mem_cons_of_mem _ member)
          rw [List.intercalate_cons_cons, List.append_assoc, List.singleton_append,
            divide_append piece _ single]
          refine ⟨short, ?_⟩
          intro scope found
          rw [← Option.some.inj found]
          split
          · exact is_qualified_of_name isName
          · rename_i outer known
            exact is_qualified_append isName (inner outer known)

theorem of_text_names {name : Text} (isQualified : IsQualified (bare name)) :
    IsName (ofText name).short ∧ ∀ scope, (ofText name).scope = some scope → IsQualified scope := by
  have whole := Text.intercalate_split_at separator (bare name)
  have divided := divide_joined _ (Text.split_at_ne_nil separator (bare name)) isQualified
  rw [whole] at divided
  exact divided

end QualifiedName

end Stubwright
