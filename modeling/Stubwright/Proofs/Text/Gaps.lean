import Stubwright.Proofs.Text.Pieces

/-!
Texts with gaps. What is written around a filler does not depend on it, so all the texts that come
of different fillers have the same segments, and the filler stands between them.
-/

namespace Stubwright.Text

/-- A text for every filler: fixed segments, with the filler as often as is counted. -/
inductive HasGaps : Nat → (Text → Text) → Prop
  | fixed (text : Text) : HasGaps 0 fun _ => text
  | before {count : Nat} {text : Text → Text} (segment : Text) (later : HasGaps count text) :
      HasGaps (count + 1) fun filler => segment ++ filler ++ text filler

inductive EachHasGaps : Nat → (Text → List Text) → Prop
  | nil : EachHasGaps 0 fun _ => []
  | cons {first others : Nat} {text : Text → Text} {texts : Text → List Text}
      (here : HasGaps first text) (later : EachHasGaps others texts) :
      EachHasGaps (first + others) fun filler => text filler :: texts filler

namespace HasGaps

variable {count more : Nat} {text next : Text → Text}

theorem congr (gaps : HasGaps count text) (same : ∀ filler, next filler = text filler) :
    HasGaps count next := by
  rw [funext same]
  exact gaps

theorem filler : HasGaps 1 fun filler => filler :=
  (before [] (fixed [])).congr fun filler => by rw [List.nil_append, List.append_nil]

theorem prepend (segment : Text) (gaps : HasGaps count text) :
    HasGaps count fun filler => segment ++ text filler := by
  cases gaps with
  | fixed text => exact fixed (segment ++ text)
  | before first later =>
      apply (before (segment ++ first) later).congr
      intro filler
      simp only [List.append_assoc]

theorem append (gaps : HasGaps count text) (others : HasGaps more next) :
    HasGaps (count + more) fun filler => text filler ++ next filler := by
  induction gaps with
  | fixed text =>
      rw [Nat.zero_add]
      exact others.prepend text
  | before segment later ih =>
      rw [Nat.add_right_comm]
      apply (before segment ih).congr
      intro filler
      simp only [List.append_assoc]

theorem extend (segment : Text) (gaps : HasGaps count text) :
    HasGaps count fun filler => text filler ++ segment :=
  gaps.append (fixed segment)

/-- The segments, one more than there are gaps. -/
theorem exists_segments (gaps : HasGaps count text) :
    ∃ segments : List Text, segments.length = count + 1 ∧
      ∀ filler, text filler = joinWith filler segments := by
  induction gaps with
  | fixed text =>
      refine ⟨[text], rfl, ?_⟩
      intro filler
      rw [joinWith, List.intercalate_singleton]
  | before segment later ih =>
      obtain ⟨segments, length, joined⟩ := ih
      refine ⟨segment :: segments, by rw [List.length_cons, length], ?_⟩
      intro filler
      dsimp only
      rw [joined filler]
      cases segments with
      | nil => simp at length
      | cons first others => rw [joinWith, joinWith, List.intercalate_cons_cons]

end HasGaps

namespace EachHasGaps

variable {count : Nat} {texts : Text → List Text}

theorem append {more : Nat} {others : Text → List Text} (gaps : EachHasGaps count texts)
    (later : EachHasGaps more others) :
    EachHasGaps (count + more) fun filler => texts filler ++ others filler := by
  induction gaps with
  | nil =>
      rw [Nat.zero_add]
      exact later
  | cons here _ ih =>
      rw [Nat.add_assoc]
      exact cons here ih

theorem single {text : Text → Text} (gaps : HasGaps count text) :
    EachHasGaps count fun filler => [text filler] :=
  cons gaps nil

/-- How many texts there are does not depend on the filler. -/
theorem exists_length (gaps : EachHasGaps count texts) :
    ∃ length, ∀ filler, (texts filler).length = length := by
  induction gaps with
  | nil => exact ⟨0, fun _ => rfl⟩
  | cons here later ih =>
      obtain ⟨length, same⟩ := ih
      exact ⟨length + 1, fun filler => by rw [List.length_cons, same filler]⟩

theorem join_with (separator : Text) (gaps : EachHasGaps count texts) :
    HasGaps count fun filler => Text.joinWith separator (texts filler) := by
  -- The separator stands in front of every text but the first.
  have behind : ∀ {count : Nat} {texts : Text → List Text}, EachHasGaps count texts →
      HasGaps count fun filler => (texts filler).flatMap (separator ++ ·) := by
    intro count texts gaps
    induction gaps with
    | nil => exact .fixed []
    | cons here _ ih => exact (here.prepend separator).append ih
  cases gaps with
  | nil => exact .fixed []
  | cons here later =>
      apply (here.append (behind later)).congr
      intro filler
      exact join_with_cons separator _ _

end EachHasGaps

end Stubwright.Text
