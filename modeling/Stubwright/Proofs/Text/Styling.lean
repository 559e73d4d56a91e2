import Stubwright.Text.Styling
import Stubwright.Text.Utf8

/-!
What is taken out with control sequences. A text comes through unchanged if none stands in it, and
otherwise gets shorter, so what is encoded of it is another text.
-/

namespace Stubwright.Text

def escape : CodePoint := .char '\x1b'

def HasSequence (text : Text) : Prop :=
  ∃ before rest after, text = before ++ escape :: .char '[' :: rest ∧
    afterSequence? rest = some after

theorem has_sequence_cons (point : CodePoint) (rest : Text) :
    HasSequence (point :: rest) ↔
      (∃ others after, point = escape ∧ rest = .char '[' :: others ∧
        afterSequence? others = some after) ∨ HasSequence rest := by
  constructor
  · rintro ⟨before, others, after, cut, ended⟩
    cases before with
    | nil =>
        obtain ⟨rfl, rfl⟩ := List.cons.inj cut
        exact .inl ⟨others, after, rfl, rfl, ended⟩
    | cons first before =>
        obtain ⟨rfl, rfl⟩ := List.cons.inj cut
        exact .inr ⟨before, others, after, rfl, ended⟩
  · rintro (⟨others, after, rfl, rfl, ended⟩ | ⟨before, others, after, rfl, ended⟩)
    · exact ⟨[], others, after, rfl, ended⟩
    · exact ⟨point :: before, others, after, rfl, ended⟩

theorem length_unstyled_le (text : Text) : (unstyled text).length ≤ text.length := by
  fun_induction unstyled text with
  | case1 => exact Nat.le_refl _
  | case2 rest after ended ih =>
      have shorter := length_lt_of_after_sequence? ended
      simp only [List.length_cons]
      omega
  | case3 rest ended ih => simpa using ih
  | case4 point rest _ ih => simpa using ih

theorem unstyled_or_shorter (text : Text) :
    (¬ HasSequence text ∧ unstyled text = text) ∨
      (HasSequence text ∧ (unstyled text).length < text.length) := by
  fun_induction unstyled text with
  | case1 => exact .inl ⟨by simp [HasSequence], rfl⟩
  | case2 rest after ended ih =>
      have shorter := length_lt_of_after_sequence? ended
      have bounded := length_unstyled_le after
      refine .inr ⟨⟨[], rest, after, rfl, ended⟩, ?_⟩
      simp only [List.length_cons]
      omega
  | case3 rest ended ih =>
      have apart : ¬ ∃ others after, CodePoint.char '\x1b' = escape ∧
          CodePoint.char '[' :: rest = .char '[' :: others ∧
          afterSequence? others = some after := by
        rintro ⟨others, after, -, same, sequence⟩
        cases same
        rw [ended] at sequence
        cases sequence
      rw [has_sequence_cons, or_iff_right apart, List.cons.injEq, and_iff_right rfl]
      rcases ih with kept | ⟨styled, shorter⟩
      · exact .inl kept
      · exact .inr ⟨styled, Nat.succ_lt_succ shorter⟩
  | case4 point rest plain ih =>
      have apart : ¬ ∃ others after, point = escape ∧ rest = .char '[' :: others ∧
          afterSequence? others = some after := by
        rintro ⟨others, after, first, second, -⟩
        exact plain others first second
      rw [has_sequence_cons, or_iff_right apart, List.cons.injEq, and_iff_right rfl]
      rcases ih with kept | ⟨styled, shorter⟩
      · exact .inl kept
      · exact .inr ⟨styled, Nat.succ_lt_succ shorter⟩

theorem lone_halves_none_iff (position : Nat) (text : Text) :
    loneHalvesFrom position text = none ↔ ∀ offset, CodePoint.half offset ∉ text := by
  induction text generalizing position with
  | nil => simp [loneHalvesFrom]
  | cons point rest ih =>
      cases point with
      | char c => simp [loneHalvesFrom, ih]
      | half offset =>
          refine iff_of_false nofun ?_
          intro none
          exact none offset List.mem_cons_self

theorem encodable_iff (text : Text) :
    (∃ chars, encodable text = .ok chars) ↔ ∀ offset, CodePoint.half offset ∉ text := by
  rw [← lone_halves_none_iff 0, encodable, loneHalves?]
  cases loneHalvesFrom 0 text <;> simp

theorem mem_of_mem_after_sequence {text after : Text} (ended : afterSequence? text = some after)
    {point : CodePoint} (member : point ∈ after) : point ∈ text := by
  have kept : ∀ point ∈ text.dropWhile isStyleParameter, point ∈ text :=
    fun _ among => (List.dropWhile_suffix isStyleParameter).subset among
  unfold afterSequence? at ended
  split at ended
  case h_1 c rest left =>
    split at ended
    · cases ended
      exact kept point (left ▸ List.mem_cons_of_mem _ member)
    · cases ended
  case h_2 => cases ended

theorem mem_of_mem_unstyled {text : Text} {point : CodePoint} (member : point ∈ unstyled text) :
    point ∈ text := by
  fun_induction unstyled text with
  | case1 => exact member
  | case2 rest after ended ih =>
      have among := mem_of_mem_after_sequence ended (ih member)
      exact List.mem_cons_of_mem _ (List.mem_cons_of_mem _ among)
  | case3 rest ended ih =>
      rcases List.mem_cons.1 member with rfl | among
      · exact List.mem_cons_self
      · exact List.mem_cons_of_mem _ (ih among)
  | case4 first rest _ ih =>
      rcases List.mem_cons.1 member with rfl | among
      · exact List.mem_cons_self
      · exact List.mem_cons_of_mem _ (ih among)

theorem encodable_unstyled {text : Text} (encoded : ∃ chars, encodable text = .ok chars) :
    ∃ chars, encodable (unstyled text) = .ok chars := by
  rw [encodable_iff] at encoded ⊢
  intro offset member
  exact encoded offset (mem_of_mem_unstyled member)

theorem length_encodable {text : Text} {chars : List Char} (encoded : encodable text = .ok chars) :
    chars.length = text.length := by
  unfold encodable at encoded
  split at encoded
  · cases encoded
  · cases encoded
    exact List.length_map _

/-- A text is put out as it is exactly if there is nothing to be taken out of it. -/
theorem encodable_unstyled_iff {text : Text} {chars : List Char}
    (encoded : encodable (unstyled text) = .ok chars) :
    encodable text = .ok chars ↔ ¬ HasSequence text := by
  rcases unstyled_or_shorter text with ⟨plain, same⟩ | ⟨styled, shorter⟩
  · rw [same] at encoded
    exact iff_of_true encoded plain
  · refine iff_of_false ?_ (fun plain => plain styled)
    intro whole
    have short := length_encodable encoded
    have long := length_encodable whole
    omega

end Stubwright.Text
