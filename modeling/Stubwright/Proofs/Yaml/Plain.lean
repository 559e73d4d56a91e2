import Stubwright.Proofs.Json.Portable
import Stubwright.Proofs.Yaml.Cursor
import Stubwright.Yaml.Scalar

/-!
A word or a number inside a flow collection is a plain scalar. The scalar also takes the white space
after it, because more words might follow.
-/

namespace Stubwright.Yaml.Plain

open Json

variable {cursor : Cursor} {rest : List Char}

/-- Characters that go on with a plain scalar wherever they stand in it. -/
def IsSolid (c : Char) : Prop :=
  isBlankOrBreak c = false ∧ c ∉ [':', ',', '?', '[', ']', '\x7b', '\x7d']

instance (c : Char) : Decidable (IsSolid c) := inferInstanceAs (Decidable (_ ∧ _))

/-- What follows a value in a flow collection. -/
def IsDelimiter (c : Char) : Prop := c ∈ [',', ']', '\x7d']

instance (c : Char) : Decidable (IsDelimiter c) := inferInstanceAs (Decidable (c ∈ _))

structure IsTrail (gap : List Char) (c : Char) : Prop where
  blank : ∀ c ∈ gap, c = ' ' ∨ c = '\n'
  delimiter : IsDelimiter c

theorem stops_at_delimiter {c : Char} (delimiter : IsDelimiter c) :
    stopsAt true (c :: rest) = true := by
  simp only [IsDelimiter, List.mem_cons, List.not_mem_nil, or_false] at delimiter
  rcases delimiter with rfl | rfl | rfl <;> simp [stopsAt]

theorem stops_at_trail {gap : List Char} {c : Char} (trail : IsTrail gap c) :
    stopsAt true (gap ++ c :: rest) = true := by
  cases gap with
  | nil => exact stops_at_delimiter trail.delimiter
  | cons first gap =>
      rcases trail.blank first (by simp) with rfl | rfl
      · rfl
      · rfl

theorem reach_solid (word : List Char) (solid : ∀ c ∈ word, IsSolid c)
    (stops : stopsAt true rest = true) : reach true (word ++ rest) = word.length := by
  induction word with
  | nil =>
      cases rest with
      | nil => rfl
      | cons c rest => exact if_pos stops
  | cons c word ih =>
      obtain ⟨noBlank, unlike⟩ := solid c (by simp)
      have goesOn : stopsAt true (c :: (word ++ rest)) = false := by
        simp only [List.mem_cons, List.not_mem_nil, or_false, not_or] at unlike
        simp [stopsAt, noBlank, unlike]
      rw [List.cons_append, reach, goesOn, ih fun other among => solid other (by simp [among])]
      rfl

theorem no_document_mark {gap : List Char} {c : Char} (trail : IsTrail gap c)
    (here : cursor.rest = gap ++ c :: rest) : cursor.atDocumentMark = false := by
  have unmarked (mark : Char) (known : mark = '-' ∨ mark = '.') : cursor.atMarks mark = false := by
    cases gap with
    | nil =>
        refine Cursor.at_marks_false here ?_
        have delimiter := trail.delimiter
        simp only [IsDelimiter, List.mem_cons, List.not_mem_nil, or_false] at delimiter
        rcases known with rfl | rfl <;> rcases delimiter with rfl | rfl | rfl <;> decide
    | cons first gap =>
        refine Cursor.at_marks_false here ?_
        rcases known with rfl | rfl <;> rcases trail.blank first (by simp) with rfl | rfl <;> decide
  rw [Cursor.atDocumentMark, unmarked '-' (.inl rfl), unmarked '.' (.inr rfl)]
  rfl

theorem IsTrail.tail {first c : Char} {gap : List Char} (trail : IsTrail (first :: gap) c) :
    IsTrail gap c :=
  ⟨fun other among => trail.blank other (by simp [among]), trail.delimiter⟩

theorem IsDelimiter.visible {c : Char} (delimiter : IsDelimiter c) : isBlankOrBreak c = false := by
  simp only [IsDelimiter, List.mem_cons, List.not_mem_nil, or_false] at delimiter
  rcases delimiter with rfl | rfl | rfl <;> rfl

theorem not_break_of_visible {c : Char} (visible : isBlankOrBreak c = false) :
    c ≠ ' ' ∧ isBreak c = false := by
  simp only [isBlankOrBreak, Bool.or_eq_false_iff, decide_eq_false_iff_not] at visible
  exact ⟨visible.1.1, visible.2⟩

/-- The blank lines after a break go up to the delimiter. -/
theorem breaks_trail {gap : List Char} {c : Char} (trail : IsTrail gap c) (fuel : Nat)
    (enough : gap.length < fuel) (here : cursor.rest = gap ++ c :: rest) :
    ∃ found, breaks fuel cursor = (some found, cursor.past gap) := by
  induction gap generalizing cursor fuel with
  | nil =>
      cases fuel with
      | zero => cases enough
      | succ fuel =>
          obtain ⟨noSpace, noBreak⟩ := not_break_of_visible trail.delimiter.visible
          refine ⟨[], ?_⟩
          rw [breaks, Cursor.peek_eq here, if_neg (by simpa using noSpace),
            Cursor.line_break_none here noBreak]
          rfl
  | cons first gap ih =>
      cases fuel with
      | zero => cases enough
      | succ fuel =>
          rw [List.length_cons] at enough
          have after := (Cursor.next_at here).1
          obtain ⟨found, read⟩ := ih trail.tail fuel (by omega) after
          rcases trail.blank first (by simp) with rfl | rfl
          · refine ⟨found, ?_⟩
            rw [breaks, Cursor.peek_eq here, if_pos rfl, read]
            rfl
          · refine ⟨'\n' :: found, ?_⟩
            rw [breaks, Cursor.peek_eq here, if_neg (by decide), Cursor.line_break_feed here]
            simp only [no_document_mark trail.tail after, Bool.false_eq_true, if_false, read]
            rfl

/-- White space is spaces, and perhaps a break with more white space after it. -/
theorem exists_lines (gap : List Char) (blank : ∀ c ∈ gap, c = ' ' ∨ c = '\n') :
    ∃ blanks, (∀ c ∈ blanks, c = ' ') ∧
      (gap = blanks ∨ ∃ more, gap = blanks ++ '\n' :: more) := by
  induction gap with
  | nil => exact ⟨[], by simp, .inl rfl⟩
  | cons first gap ih =>
      rcases blank first (by simp) with rfl | rfl
      · obtain ⟨blanks, areSpaces, parts⟩ := ih fun c among => blank c (by simp [among])
        refine ⟨' ' :: blanks, List.forall_mem_cons.2 ⟨rfl, areSpaces⟩, ?_⟩
        rcases parts with rfl | ⟨more, rfl⟩
        · exact .inl rfl
        · exact .inr ⟨more, rfl⟩
      · exact ⟨[], by simp, .inr ⟨gap, rfl⟩⟩

theorem IsTrail.drop {first second : List Char} {c : Char} (trail : IsTrail (first ++ second) c) :
    IsTrail second c :=
  ⟨fun other among => trail.blank other (by simp [among]), trail.delimiter⟩

theorem spaces_trail {gap : List Char} {c : Char} (trail : IsTrail gap c)
    (here : cursor.rest = gap ++ c :: rest) (long : gap.length ≤ cursor.size) :
    ∃ between ended, spaces cursor = (between, cursor.past gap, ended) := by
  obtain ⟨blanks, areSpaces, parts⟩ := exists_lines gap trail.blank
  rcases parts with rfl | ⟨more, rfl⟩
  · obtain ⟨noSpace, noBreak⟩ := not_break_of_visible trail.delimiter.visible
    have taken : cursor.run (· = ' ') = (gap, cursor.past gap) :=
      Cursor.run_past here (fun c among => by simp [areSpaces c among]) (by
        rintro _ ⟨⟩
        simpa using noSpace)
    refine ⟨gap, false, ?_⟩
    simp only [spaces, taken, Cursor.line_break_none (Cursor.rest_past here) noBreak]
  · rw [List.append_assoc] at here
    have taken : cursor.run (· = ' ') = (blanks, cursor.past blanks) :=
      Cursor.run_past here (fun c among => by simp [areSpaces c among]) (by
        rintro _ ⟨⟩
        rfl)
    have after := Cursor.rest_past here
    have behind := (Cursor.next_at after).1
    have moreTrail : IsTrail more c := trail.drop.tail
    rw [List.length_append, List.length_cons] at long
    obtain ⟨found, read⟩ := breaks_trail moreTrail ((cursor.past blanks).next.size + 1)
      (by simp only [Cursor.size_next, Cursor.size_past]; omega) behind
    refine ⟨folded '\n' found, true, ?_⟩
    simp only [spaces, taken, Cursor.line_break_feed after, no_document_mark moreTrail behind,
      Bool.false_eq_true, if_false, read, Cursor.past_append]
    rfl

/-- At a delimiter a plain scalar has no further part. -/
theorem parts_delimiter {c : Char} (indent : Int) (between : List Char) (newLine : Bool)
    (fuel : Nat) (delimiter : IsDelimiter c) (here : cursor.rest = c :: rest) :
    parts true indent between newLine fuel cursor = ([], cursor, newLine) := by
  cases fuel with
  | zero => rfl
  | succ fuel =>
      have stops : reach true cursor.rest = 0 := by
        rw [here]
        exact if_pos (stops_at_delimiter delimiter)
      rw [parts]
      simp only [stops, ite_self, if_true]

/-- A solid word and the white space after it, and nothing more, is read as a plain scalar. -/
theorem scan_solid {word gap : List Char} {c : Char} (outer : Int) (solid : ∀ c ∈ word, IsSolid c)
    (starts : word.head? ≠ some '#') (someWord : word ≠ []) (trail : IsTrail gap c)
    (here : cursor.rest = word ++ (gap ++ c :: rest)) (long : cursor.rest.length ≤ cursor.size) :
    ∃ ended, scan true outer cursor = (word, cursor.past (word ++ gap), ended) := by
  have noComment : cursor.peek ≠ some '#' := by
    rw [Cursor.peek, here]
    cases word with
    | nil => exact absurd rfl someWord
    | cons first word => exact starts
  have reached : reach true cursor.rest = word.length := by
    rw [here]
    exact reach_solid word solid (stops_at_trail trail)
  have filled : word.length ≠ 0 := fun none => someWord (List.eq_nil_of_length_eq_zero none)
  have taken : cursor.rest.take word.length = word := by rw [here, List.take_left]
  have after := Cursor.rest_past here
  rw [here, List.length_append, List.length_append] at long
  obtain ⟨between, ended, skipped⟩ := spaces_trail trail after
    (by rw [Cursor.size_past]; omega)
  have last := Cursor.rest_past after
  refine ⟨ended, ?_⟩
  rw [scan, parts]
  simp only [if_neg noComment, reached, if_neg filled, List.nil_append, taken]
  change spaces (cursor.advance word.length) = _ at skipped
  simp only [skipped, parts_delimiter _ _ _ _ trail.delimiter last, List.append_nil, ite_self,
    Cursor.past_append]

end Stubwright.Yaml.Plain
