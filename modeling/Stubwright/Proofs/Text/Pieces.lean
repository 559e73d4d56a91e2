import Stubwright.Text.Blank
import Mathlib.Data.List.Forall2

/-!
Cutting texts apart undoes putting them together: a trim takes off exactly the points of its class
that stand around a text without any, and a split finds the pieces that were joined.
-/

namespace Stubwright.Text

variable {α : Type}

theorem drop_while_of_none (drop : α → Bool) (text : List α)
    (kept : ∀ point ∈ text, drop point = false) : text.dropWhile drop = text := by
  cases text with
  | nil => rfl
  | cons point rest => simp [kept point (by simp)]

theorem trim_of_none (drop : α → Bool) (text : List α)
    (kept : ∀ point ∈ text, drop point = false) : trim drop text = text := by
  have backwards : ∀ point ∈ text.reverse, drop point = false := by
    intro point member
    exact kept point (by simpa using member)
  rw [trim, drop_while_of_none drop text kept, drop_while_of_none drop _ backwards]
  exact text.reverse_reverse

/-- One point of the class on each side is all that a trim takes off. -/
theorem trim_enclosed (drop : α → Bool) (first last : α) (text : List α)
    (firstDropped : drop first = true) (lastDropped : drop last = true)
    (kept : ∀ point ∈ text, drop point = false) : trim drop (first :: text ++ [last]) = text := by
  have backwards : ∀ point ∈ text.reverse, drop point = false := by
    intro point member
    exact kept point (by simpa using member)
  cases text with
  | nil => simp [trim, firstDropped, lastDropped]
  | cons point rest =>
      have start :
          (first :: (point :: rest) ++ [last]).dropWhile drop = point :: rest ++ [last] := by
        simp [firstDropped, kept point (by simp)]
      rw [trim, start, List.reverse_append, List.reverse_singleton, List.singleton_append,
        List.dropWhile_cons, if_pos lastDropped, drop_while_of_none drop _ backwards]
      exact List.reverse_reverse _

theorem strip_of_no_blank (text : Text) (unblank : ∀ point ∈ text, point.isIn isBlank = false) :
    strip text = text :=
  trim_of_none _ text unblank

variable [DecidableEq α]

theorem split_at_of_not_mem (separator : α) (piece : List α) (clean : separator ∉ piece) :
    splitAt separator piece = [piece] := by
  induction piece with
  | nil => rfl
  | cons point rest ih =>
      have differs : point ≠ separator := by
        rintro rfl
        exact clean (by simp)
      have later : separator ∉ rest := fun member => clean (by simp [member])
      rw [splitAt, if_neg differs, ih later]

theorem split_at_append_separator (separator : α) (piece rest : List α)
    (clean : separator ∉ piece) :
    splitAt separator (piece ++ separator :: rest) = piece :: splitAt separator rest := by
  induction piece with
  | nil => simp [splitAt]
  | cons point piece ih =>
      have differs : point ≠ separator := by
        rintro rfl
        exact clean (by simp)
      have later : separator ∉ piece := fun member => clean (by simp [member])
      rw [List.cons_append, splitAt, if_neg differs, ih later]

theorem several_pieces {separator : α} {text : List α} (member : separator ∈ text) :
    2 ≤ (splitAt separator text).length := by
  induction text with
  | nil => cases member
  | cons point rest ih =>
      rw [splitAt]
      split
      · exact Nat.succ_le_succ (List.length_pos_iff.2 (split_at_ne_nil separator rest))
      · rename_i differs
        have later : separator ∈ rest := by
          rcases List.mem_cons.1 member with same | inside
          · exact absurd same.symm differs
          · exact inside
        have several := ih later
        cases cut : splitAt separator rest with
        | nil => exact absurd cut (split_at_ne_nil separator rest)
        | cons piece pieces =>
            rw [cut] at several
            exact several

/-- The pieces that were joined are found again if none of them holds the separator. -/
theorem split_at_intercalate (separator : α) (pieces : List (List α)) (some_piece : pieces ≠ [])
    (clean : ∀ piece ∈ pieces, separator ∉ piece) :
    splitAt separator ([separator].intercalate pieces) = pieces := by
  induction pieces with
  | nil => exact absurd rfl some_piece
  | cons piece pieces ih =>
      have first : separator ∉ piece := clean piece (by simp)
      cases pieces with
      | nil =>
          rw [List.intercalate_singleton]
          exact split_at_of_not_mem separator piece first
      | cons next others =>
          have later := ih (by simp) (by intro other member; exact clean other (by simp [member]))
          rw [List.intercalate_cons_cons, List.append_assoc, List.singleton_append,
            split_at_append_separator separator piece _ first, later]

/-- All pieces after the first one come with the separator in front. -/
theorem join_with_cons (separator first : Text) (others : List Text) :
    joinWith separator (first :: others) = first ++ others.flatMap (separator ++ ·) := by
  induction others generalizing first with
  | nil => rw [joinWith, List.intercalate_singleton, List.flatMap_nil, List.append_nil]
  | cons next others ih =>
      have later := ih next
      rw [joinWith] at later ⊢
      rw [List.intercalate_cons_cons, later, List.append_assoc, List.flatMap_cons,
        List.append_assoc]

/-- What holds of the separator and of the points of every piece holds throughout the whole. -/
theorem forall_mem_join_with {holds : CodePoint → Prop} (separator : Text) (pieces : List Text)
    (between : ∀ point ∈ separator, holds point)
    (within : ∀ piece ∈ pieces, ∀ point ∈ piece, holds point) :
    ∀ point ∈ joinWith separator pieces, holds point := by
  induction pieces with
  | nil => simp [joinWith, List.intercalate]
  | cons piece pieces ih =>
      have later := ih (by intro other member; exact within other (by simp [member]))
      cases pieces with
      | nil =>
          rw [joinWith, List.intercalate_singleton]
          exact within piece (by simp)
      | cons next others =>
          intro point member
          rw [joinWith, List.intercalate_cons_cons, List.append_assoc, List.mem_append,
            List.mem_append] at member
          rcases member with here | inSeparator | after
          · exact within piece (by simp) point here
          · exact between point inSeparator
          · exact later point after

end Stubwright.Text
