import Stubwright.Proofs.Stub.Isolation
import Stubwright.Proofs.Stub.Scopes

/-!
Sorting fragments by scope loses, repeats and reorders nothing, and a stub depends on nothing but
what the scopes hold. Fragments of different scopes may be interleaved in any way.
-/

namespace Stubwright

namespace Partition

def firstIndex (name : Text) (fragments : List Fragment) : Nat :=
  fragments.findIdx fun fragment => fragment.scope = some name

theorem mem_first_seen (name : Text) (fragments : List Fragment) :
    name ∈ firstSeen fragments ↔ ∃ fragment ∈ fragments, fragment.scope = some name := by
  rw [firstSeen, List.mem_eraseDups, List.mem_filterMap]

theorem first_index_eq (name : Text) (fragments : List Fragment) :
    firstIndex name fragments = (fragments.map Fragment.scope).idxOf (some name) := by
  rw [firstIndex, List.idxOf, List.findIdx_map]
  simp only [Function.comp_def, beq_eq_decide]

/-- The namespaces stand in the order in which their first fragments do. -/
theorem first_seen_ordered (fragments : List Fragment) :
    (firstSeen fragments).Pairwise fun earlier later =>
      firstIndex earlier fragments < firstIndex later fragments := by
  have seen : firstSeen fragments = (fragments.map Fragment.scope).eraseDups.filterMap id := by
    rw [← erase_dups_filter_map id _ fun left _ right _ found isLeft isRight =>
      isLeft.trans isRight.symm, List.filterMap_map]
    rfl
  rw [seen, List.pairwise_filterMap]
  refine (erase_dups_ordered (fragments.map Fragment.scope)).imp ?_
  rintro _ _ before earlier rfl later rfl
  rw [first_index_eq, first_index_eq]
  exact before

theorem texts_in_nonempty {name : Text} {fragments : List Fragment}
    (seen : name ∈ firstSeen fragments) : textsIn (some name) fragments ≠ [] := by
  obtain ⟨fragment, member, same⟩ := (mem_first_seen name fragments).1 seen
  have among : fragment.text ∈ textsIn (some name) fragments :=
    List.mem_map.2 ⟨fragment, List.mem_filter.2 ⟨member, decide_eq_true same⟩, rfl⟩
  exact List.ne_nil_of_mem among

/-- What a partition holds depends only on the order of the namespaces and the texts of
each scope. -/
theorem of_fragments_congr {left right : List Fragment}
    (sameOrder : firstSeen left = firstSeen right)
    (sameTexts : ∀ scope, textsIn scope left = textsIn scope right) :
    ofFragments left = ofFragments right := by
  rw [of_fragments_eq, of_fragments_eq, described, described, sameOrder, sameTexts none]
  simp only [sameTexts]

/-- Every fragment is in its scope once, in the order in which it came: the namespaces are those
of the fragments, in the order of their first fragments, each with its texts and never empty,
and the texts without a namespace are kept apart. Two sequences of fragments that agree on the
order of the namespaces and on the texts of each scope make the same stub, however their scopes
are interleaved. -/
theorem of_fragments_sorts (fragments : List Fragment) :
    (ofFragments fragments).namespaces = firstSeen fragments ∧
      (firstSeen fragments).Nodup ∧
      (∀ name, name ∈ firstSeen fragments ↔
        ∃ fragment ∈ fragments, fragment.scope = some name) ∧
      ((firstSeen fragments).Pairwise fun earlier later =>
        firstIndex earlier fragments < firstIndex later fragments) ∧
      (∀ name texts, (name, texts) ∈ (ofFragments fragments).scopes →
        texts = textsIn (some name) fragments ∧ texts ≠ []) ∧
      (ofFragments fragments).globals = textsIn none fragments ∧
      (ofFragments fragments).size = fragments.length ∧
      ∀ others : List Fragment, firstSeen others = firstSeen fragments →
        (∀ scope, textsIn scope others = textsIn scope fragments) →
        ∀ stub : Stub, { stub with partition := ofFragments others }.text =
          { stub with partition := ofFragments fragments }.text := by
  have sorted := of_fragments_eq fragments
  refine ⟨?_, nodup_erase_dups _, fun name => mem_first_seen name fragments,
    first_seen_ordered fragments, ?_, ?_, ?_, ?_⟩
  · rw [sorted, namespaces, described, List.map_map]
    exact List.map_id _
  · intro name texts member
    rw [sorted] at member
    obtain ⟨other, seen, same⟩ := List.mem_map.1 member
    obtain ⟨rfl, rfl⟩ := Prod.mk.inj same
    exact ⟨rfl, texts_in_nonempty seen⟩
  · rw [sorted]
    rfl
  · have counted := size_foldl_add fragments {}
    change (ofFragments fragments).size = 0 + _ at counted
    rw [counted, Nat.zero_add]
  · intro others sameOrder sameTexts stub
    rw [of_fragments_congr sameOrder sameTexts]

/-- Two namespaces and the global scope in two interleavings, with a repeated text and a namespace
that comes back late. -/
theorem of_fragments_sorts_interleaved :
    let left : List Fragment := [⟨some "A", "x"⟩, ⟨none, "g"⟩, ⟨some "B", "x"⟩, ⟨some "A", "x"⟩,
      ⟨none, "h"⟩]
    let right : List Fragment := [⟨none, "g"⟩, ⟨none, "h"⟩, ⟨some "A", "x"⟩, ⟨some "A", "x"⟩,
      ⟨some "B", "x"⟩]
    left ≠ right ∧ firstSeen right = firstSeen left ∧
      (∀ scope, textsIn scope right = textsIn scope left) ∧
      ∀ stub : Stub, { stub with partition := ofFragments right }.text =
        { stub with partition := ofFragments left }.text := by
  intro left right
  have sameOrder : firstSeen right = firstSeen left := by decide
  have sameTexts : ∀ scope, textsIn scope right = textsIn scope left := by
    intro scope
    by_cases isA : scope = some ("A" : Text)
    · subst isA; decide
    · by_cases isB : scope = some ("B" : Text)
      · subst isB; decide
      · rcases scope with _ | scope
        · decide
        · simp [textsIn, left, right, Ne.symm isA, Ne.symm isB]
  exact ⟨by decide, sameOrder, sameTexts,
    (of_fragments_sorts left).2.2.2.2.2.2.2 right sameOrder sameTexts⟩

end Partition

end Stubwright
