import Mathlib.Data.List.TakeWhile
import Stubwright.Proofs.Text.Pieces

/-!
What a trim leaves out of account. Points of its class around a text do not count, and where the
pieces of a text are trimmed each for itself, trimming the whole before changes nothing.
-/

namespace Stubwright.Text

variable {α : Type} {drop : α → Bool}

theorem trim_prepend {lead : List α} (dropped : ∀ point ∈ lead, drop point = true)
    (text : List α) : trim drop (lead ++ text) = trim drop text := by
  rw [trim, List.dropWhile_append_of_pos dropped, trim]

theorem trim_append {tail : List α} (dropped : ∀ point ∈ tail, drop point = true)
    (text : List α) : trim drop (text ++ tail) = trim drop text := by
  have backwards : ∀ point ∈ tail.reverse, drop point = true := by
    intro point member
    exact dropped point (List.mem_reverse.1 member)
  unfold trim
  rw [List.dropWhile_append]
  split
  · rename_i empty
    have nothing : tail.dropWhile drop = [] := List.dropWhile_eq_nil_iff.2 dropped
    rw [nothing, List.isEmpty_iff.1 empty]
  · rw [List.reverse_append, List.dropWhile_append_of_pos backwards]

/-- A point of another class at the front stays there, and only the tail is cut. -/
theorem trim_cons_kept {point : α} (kept : drop point = false) (rest : List α) :
    ∃ inner tail, rest = inner ++ tail ∧ (∀ other ∈ tail, drop other = true) ∧
      trim drop (point :: rest) = point :: inner := by
  have cut := rest.reverse.takeWhile_append_dropWhile (p := drop)
  refine ⟨(rest.reverse.dropWhile drop).reverse, (rest.reverse.takeWhile drop).reverse, ?_, ?_, ?_⟩
  · rw [← List.reverse_append, cut, List.reverse_reverse]
  · intro other member
    exact List.mem_takeWhile_imp (List.mem_reverse.1 member)
  · rw [trim, List.dropWhile_cons_of_neg (by simp [kept]), List.reverse_cons, List.dropWhile_append]
    split
    · rename_i empty
      rw [List.isEmpty_iff.1 empty, List.dropWhile_cons_of_neg (by simp [kept])]
      rfl
    · rw [List.reverse_append]
      rfl

/-- Points of another class on both sides keep all that stands between them. -/
theorem trim_held {first last : α} (firstKept : drop first = false) (lastKept : drop last = false)
    (text : List α) : trim drop (first :: text ++ [last]) = first :: text ++ [last] := by
  obtain ⟨inner, tail, parts, dropped, trimmed⟩ := trim_cons_kept firstKept (text ++ [last])
  rcases List.eq_nil_or_concat tail with rfl | ⟨others, point, rfl⟩
  · rw [List.cons_append, trimmed, parts, List.append_nil]
  · rw [List.concat_eq_append, ← List.append_assoc] at parts
    have same : last = point := List.singleton_inj.1 (List.append_inj' parts rfl).2
    rw [same, dropped point (by simp)] at lastKept
    cases lastKept

theorem exists_margins (drop : α → Bool) (text : List α) :
    ∃ lead tail, text = lead ++ (trim drop text ++ tail) ∧ (∀ point ∈ lead, drop point = true) ∧
      ∀ point ∈ tail, drop point = true := by
  have cut := text.takeWhile_append_dropWhile (p := drop)
  have lead : ∀ point ∈ text.takeWhile drop, drop point = true :=
    fun point member => List.mem_takeWhile_imp member
  have same := trim_prepend lead (text.dropWhile drop)
  rw [cut] at same
  cases rest : text.dropWhile drop with
  | nil =>
      rw [rest] at cut same
      refine ⟨text.takeWhile drop, [], ?_, lead, by simp⟩
      rw [same]
      exact cut.symm
  | cons point later =>
      have kept : drop point = false := by
        have first := List.head?_dropWhile_not drop text
        rw [rest] at first
        simpa using first
      obtain ⟨inner, tail, rfl, dropped, trimmed⟩ := trim_cons_kept kept later
      rw [rest, trimmed] at same
      refine ⟨text.takeWhile drop, tail, ?_, lead, dropped⟩
      rw [same, List.cons_append, ← rest, cut]

theorem trim_trim (drop : α → Bool) (text : List α) :
    trim drop (trim drop text) = trim drop text := by
  obtain ⟨lead, tail, parts, leadDropped, tailDropped⟩ := exists_margins drop text
  have whole := congrArg (trim drop) parts
  rw [trim_prepend leadDropped, trim_append tailDropped] at whole
  exact whole.symm

theorem mem_trim_of_kept {text : List α} {point : α} (member : point ∈ text)
    (kept : drop point = false) : point ∈ trim drop text := by
  obtain ⟨lead, tail, parts, leadDropped, tailDropped⟩ := exists_margins drop text
  rw [parts] at member
  have inLead : point ∉ lead := by
    intro inside
    rw [leadDropped point inside] at kept
    cases kept
  have inTail : point ∉ tail := by
    intro inside
    rw [tailDropped point inside] at kept
    cases kept
  simpa [inLead, inTail] using member

theorem mem_of_mem_trim {text : List α} {point : α} (member : point ∈ trim drop text) :
    point ∈ text := by
  obtain ⟨lead, tail, parts, -, -⟩ := exists_margins drop text
  rw [parts]
  simp [member]

section

variable [DecidableEq α] {separator : α}

theorem trimmed_pieces_prepend {lead : List α} (dropped : ∀ point ∈ lead, drop point = true)
    (kept : drop separator = false) (text : List α) :
    (splitAt separator (lead ++ text)).map (trim drop) =
      (splitAt separator text).map (trim drop) := by
  induction lead with
  | nil => rfl
  | cons point lead ih =>
      have here := dropped point (by simp)
      have later := ih fun other member => dropped other (by simp [member])
      have differs : point ≠ separator := by
        rintro rfl
        rw [here] at kept
        cases kept
      have alone : ∀ other ∈ [point], drop other = true := by simpa using here
      rw [← later, List.cons_append, splitAt, if_neg differs]
      cases cut : splitAt separator (lead ++ text) with
      | nil => exact absurd cut (split_at_ne_nil separator _)
      | cons piece pieces => exact congrArg (· :: _) (trim_prepend alone piece)

/-- What is put behind a text without the separator in it lengthens the last piece. -/
theorem exists_last_piece {tail : List α} (clean : separator ∉ tail) (text : List α) :
    ∃ pieces last, splitAt separator text = pieces ++ [last] ∧
      splitAt separator (text ++ tail) = pieces ++ [last ++ tail] := by
  induction text with
  | nil => exact ⟨[], [], rfl, split_at_of_not_mem separator tail clean⟩
  | cons point rest ih =>
      obtain ⟨pieces, last, before, after⟩ := ih
      rw [List.cons_append, splitAt, splitAt, before, after]
      split
      · exact ⟨[] :: pieces, last, rfl, rfl⟩
      · cases pieces with
        | nil => exact ⟨[], point :: last, rfl, rfl⟩
        | cons piece pieces => exact ⟨(point :: piece) :: pieces, last, rfl, rfl⟩

theorem trimmed_pieces_append {tail : List α} (dropped : ∀ point ∈ tail, drop point = true)
    (kept : drop separator = false) (text : List α) :
    (splitAt separator (text ++ tail)).map (trim drop) =
      (splitAt separator text).map (trim drop) := by
  have clean : separator ∉ tail := by
    intro member
    rw [dropped separator member] at kept
    cases kept
  obtain ⟨pieces, last, before, after⟩ := exists_last_piece clean text
  rw [before, after, List.map_append, List.map_append, List.map_singleton, List.map_singleton,
    trim_append dropped]

theorem trimmed_pieces (kept : drop separator = false) (text : List α) :
    (splitAt separator (trim drop text)).map (trim drop) =
      (splitAt separator text).map (trim drop) := by
  obtain ⟨lead, tail, parts, leadDropped, tailDropped⟩ := exists_margins drop text
  have whole : (splitAt separator text).map (trim drop) = _ :=
    congrArg (fun text => (splitAt separator text).map (trim drop)) parts
  rw [trimmed_pieces_prepend leadDropped kept, trimmed_pieces_append tailDropped kept] at whole
  exact whole.symm

end

end Stubwright.Text
