import Stubwright.Yaml.Cursor

/-!
How a cursor moves over a text that stands in front of it: it has the rest before it, counts the
characters, and stays on its line unless the text has a break.
-/

namespace Stubwright.Yaml.Cursor

variable {cursor : Cursor} {text rest : List Char} {c : Char}

def past (text : List Char) (cursor : Cursor) : Cursor := cursor.advance text.length

theorem past_cons (c : Char) (text : List Char) (cursor : Cursor) :
    cursor.past (c :: text) = cursor.next.past text := rfl

theorem past_append (first second : List Char) (cursor : Cursor) :
    cursor.past (first ++ second) = (cursor.past first).past second := by
  induction first generalizing cursor with
  | nil => rfl
  | cons c first ih => exact ih cursor.next

theorem next_eq (cursor : Cursor) : cursor.next = { cursor with
    rest := cursor.next.rest
    index := cursor.next.index
    line := cursor.next.line
    column := cursor.next.column } := by
  rw [next]
  split
  · rfl
  · dsimp only
    split
    · rfl
    · split <;> rfl

@[simp] theorem size_next (cursor : Cursor) : cursor.next.size = cursor.size := by
  rw [next_eq]

@[simp] theorem ending_next (cursor : Cursor) : cursor.next.ending = cursor.ending := by
  rw [next_eq]

@[simp] theorem size_past (text : List Char) (cursor : Cursor) :
    (cursor.past text).size = cursor.size := by
  induction text generalizing cursor with
  | nil => rfl
  | cons c text ih => rw [past_cons, ih, size_next]

@[simp] theorem ending_past (text : List Char) (cursor : Cursor) :
    (cursor.past text).ending = cursor.ending := by
  induction text generalizing cursor with
  | nil => rfl
  | cons c text ih => rw [past_cons, ih, ending_next]

theorem next_at (here : cursor.rest = c :: rest) :
    cursor.next.rest = rest ∧ cursor.next.index = cursor.index + 1 ∧
      (isBreak c = false → cursor.next.line = cursor.line) := by
  simp only [next, here]
  split
  · rename_i isBreak
    simp [isBreak]
  · split <;> simp

theorem rest_past (here : cursor.rest = text ++ rest) : (cursor.past text).rest = rest := by
  induction text generalizing cursor with
  | nil => exact here
  | cons c text ih => exact ih (next_at here).1

theorem index_past (here : cursor.rest = text ++ rest) :
    (cursor.past text).index = cursor.index + text.length := by
  induction text generalizing cursor with
  | nil => rfl
  | cons c text ih =>
      rw [past_cons, ih (next_at here).1, (next_at here).2.1, List.length_cons]
      omega

theorem line_past (here : cursor.rest = text ++ rest) (oneLine : ∀ c ∈ text, isBreak c = false) :
    (cursor.past text).line = cursor.line := by
  induction text generalizing cursor with
  | nil => rfl
  | cons c text ih =>
      rw [past_cons, ih (next_at here).1 fun other among => oneLine other (by simp [among]),
        (next_at here).2.2 (oneLine c (by simp))]

theorem peek_eq (here : cursor.rest = c :: rest) : cursor.peek = some c := by
  rw [peek, here]
  rfl

section

variable {holds : Char → Bool}

theorem run_past (here : cursor.rest = text ++ rest) (all : ∀ c ∈ text, holds c = true)
    (stops : ∀ c, rest.head? = some c → holds c = false) :
    cursor.run holds = (text, cursor.past text) := by
  have taken : cursor.rest.takeWhile holds = text := by
    rw [here, List.takeWhile_append_of_pos all]
    cases rest with
    | nil => simp
    | cons c rest => simp [stops c rfl]
  rw [run, taken, past]

theorem skip_past (here : cursor.rest = text ++ rest) (all : ∀ c ∈ text, holds c = true)
    (stops : ∀ c, rest.head? = some c → holds c = false) :
    cursor.skip holds = cursor.past text := by
  rw [skip, run_past here all stops]

theorem run_next (here : cursor.rest = c :: rest) (first : holds c = true) :
    cursor.run holds = (c :: (cursor.next.run holds).1, (cursor.next.run holds).2) := by
  have taken : cursor.rest.takeWhile holds = c :: cursor.next.rest.takeWhile holds := by
    rw [here, (next_at here).1, List.takeWhile_cons_of_pos first]
  rw [run, taken]
  rfl

theorem run_none (here : cursor.rest = c :: rest) (first : holds c = false) :
    cursor.run holds = ([], cursor) := by
  rw [run, here, List.takeWhile_cons_of_neg (by simp [first])]
  rfl

end

theorem line_break_none_of (noBreak : ∀ c, cursor.peek = some c → isBreak c = false) :
    cursor.lineBreak? = none := by
  rw [lineBreak?]
  split
  · rename_i c here
    rw [noBreak c here]
    rfl
  · rfl

theorem line_break_none (here : cursor.rest = c :: rest) (noBreak : isBreak c = false) :
    cursor.lineBreak? = none :=
  line_break_none_of fun other same => by
    rw [peek_eq here] at same
    rwa [← Option.some.inj same]

theorem line_break_feed (here : cursor.rest = '\n' :: rest) :
    cursor.lineBreak? = some ('\n', cursor.next) := by
  rw [lineBreak?, peek_eq here]
  rfl

/-- Where something else comes first there are no marks. -/
theorem at_marks_false {mark : Char} (here : cursor.rest = c :: rest) (other : c ≠ mark) :
    cursor.atMarks mark = false := by
  simp [atMarks, here, List.isPrefixOf, other.symm]

end Stubwright.Yaml.Cursor
