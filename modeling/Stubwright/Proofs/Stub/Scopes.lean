import Mathlib.Data.List.Basic
import Mathlib.Data.List.Induction
import Stubwright.Stub

/-!
Sorting fragments by scope keeps two orders: namespaces stand in the order in which they are first
seen, and the fragments of one scope in the order in which they were added.
-/

namespace Stubwright

namespace Partition

def firstSeen (fragments : List Fragment) : List Text :=
  (fragments.filterMap Fragment.scope).eraseDups

def textsIn (scope : Option Text) (fragments : List Fragment) : List Text :=
  (fragments.filter fun fragment => fragment.scope = scope).map Fragment.text

section

variable {α : Type} [BEq α] [LawfulBEq α]

theorem erase_dups_snoc (names : List α) (name : α) :
    (names ++ [name]).eraseDups =
      if name ∈ names then names.eraseDups else names.eraseDups ++ [name] := by
  rw [List.eraseDups_append]
  by_cases known : name ∈ names
  · simp [known, List.removeAll]
  · rw [if_neg known]
    have fresh : [name].removeAll names = [name] := by simp [List.removeAll, known]
    rw [fresh]
    rfl

theorem nodup_erase_dups (names : List α) : names.eraseDups.Nodup := by
  induction names using List.reverseRecOn with
  | nil => exact List.nodup_nil
  | append_singleton names name ih =>
      rw [erase_dups_snoc]
      split
      · exact ih
      · rename_i unknown
        refine List.nodup_append.2 ⟨ih, List.pairwise_singleton _ name, ?_⟩
        intro other member last among same
        rw [same, List.mem_singleton.1 among] at member
        exact unknown (List.mem_eraseDups.1 member)

/-- What is kept of each item stands where the item is first seen. -/
theorem erase_dups_ordered (items : List α) :
    items.eraseDups.Pairwise fun earlier later => items.idxOf earlier < items.idxOf later := by
  induction items using List.reverseRecOn with
  | nil => exact .nil
  | append_singleton items item ih =>
      have kept : items.eraseDups.Pairwise fun earlier later =>
          (items ++ [item]).idxOf earlier < (items ++ [item]).idxOf later := by
        apply ih.imp_of_mem
        intro earlier later first second before
        rw [List.idxOf_append_of_mem (List.mem_eraseDups.1 first),
          List.idxOf_append_of_mem (List.mem_eraseDups.1 second)]
        exact before
      rw [erase_dups_snoc]
      split
      · exact kept
      · rename_i unknown
        refine List.pairwise_append.2 ⟨kept, List.pairwise_singleton _ _, ?_⟩
        intro earlier seen last isLast
        have known := List.mem_eraseDups.1 seen
        rw [List.mem_singleton.1 isLast, List.idxOf_append_of_mem known,
          List.idxOf_append_of_notMem unknown]
        exact Nat.lt_of_lt_of_le (List.idxOf_lt_length_of_mem known) (Nat.le_add_right _ _)

/-- A selection that takes different items to different ones can be made before or after. -/
theorem erase_dups_filter_map {β : Type} [BEq β] [LawfulBEq β] (select : α → Option β)
    (items : List α)
    (distinct : ∀ left ∈ items, ∀ right ∈ items, ∀ found, select left = some found →
      select right = some found → left = right) :
    (items.filterMap select).eraseDups = items.eraseDups.filterMap select := by
  induction items using List.reverseRecOn with
  | nil => rfl
  | append_singleton items item ih =>
      have earlier := ih fun left first right second =>
        distinct left (List.mem_append_left _ first) right (List.mem_append_left _ second)
      rw [List.filterMap_append, erase_dups_snoc]
      cases selected : select item with
      | none =>
          have nothing : [item].filterMap select = [] := by simp [selected]
          rw [nothing, List.append_nil, earlier]
          split
          · rfl
          · rw [List.filterMap_append, nothing, List.append_nil]
      | some found =>
          have alone : [item].filterMap select = [found] := by simp [selected]
          have known : found ∈ items.filterMap select ↔ item ∈ items := by
            constructor
            · intro member
              obtain ⟨other, among, same⟩ := List.mem_filterMap.1 member
              rw [distinct item (by simp) other (by simp [among]) found selected same]
              exact among
            · intro member
              exact List.mem_filterMap.2 ⟨item, member, selected⟩
          rw [alone, erase_dups_snoc, earlier]
          simp only [known]
          split
          · rfl
          · rw [List.filterMap_append, alone]

end

theorem texts_in_snoc (scope : Option Text) (fragments : List Fragment) (fragment : Fragment) :
    textsIn scope (fragments ++ [fragment]) =
      if fragment.scope = scope then textsIn scope fragments ++ [fragment.text]
      else textsIn scope fragments := by
  unfold textsIn
  rw [List.filter_append, List.map_append]
  split
  · rename_i same
    simp [same]
  · rename_i other
    simp [other]

theorem texts_in_unseen (scope : Text) (fragments : List Fragment)
    (unseen : scope ∉ fragments.filterMap Fragment.scope) :
    textsIn (some scope) fragments = [] := by
  have none_there : fragments.filter (fun fragment => fragment.scope = some scope) = [] := by
    apply List.filter_eq_nil_iff.2
    intro fragment member same
    exact unseen (List.mem_filterMap.2 ⟨fragment, member, of_decide_eq_true same⟩)
  rw [textsIn, none_there]
  rfl

/-- A scope that is there already gets the text behind its others. -/
theorem add_to_present (scope text : Text) (names : List Text) (texts : Text → List Text)
    (distinct : names.Nodup) (known : scope ∈ names) :
    addTo scope text (names.map fun name => (name, texts name)) =
      names.map fun name => (name, if scope = name then texts name ++ [text] else texts name) := by
  induction names with
  | nil => exact absurd known (by simp)
  | cons name names ih =>
      obtain ⟨fresh, others⟩ := List.nodup_cons.1 distinct
      rw [List.map_cons, addTo, List.map_cons]
      by_cases same : name = scope
      · subst same
        have unlike : ∀ other ∈ names, (other, texts other) =
            (other, if name = other then texts other ++ [text] else texts other) := by
          intro other member
          rw [if_neg]
          rintro rfl
          exact fresh member
        rw [if_pos rfl, if_pos rfl, List.map_congr_left unlike]
      · have later : scope ∈ names := by
          rcases List.mem_cons.1 known with here | there
          · exact absurd here.symm same
          · exact there
        rw [if_neg same, if_neg fun other => same other.symm, ih others later]

theorem add_to_absent (scope text : Text) (names : List Text) (texts : Text → List Text)
    (unknown : scope ∉ names) :
    addTo scope text (names.map fun name => (name, texts name)) =
      (names.map fun name => (name, texts name)) ++ [(scope, [text])] := by
  induction names with
  | nil => rfl
  | cons name names ih =>
      have other : name ≠ scope := fun same => unknown (by simp [same])
      have later := ih fun member => unknown (List.mem_cons_of_mem _ member)
      rw [List.map_cons, addTo, if_neg other, later, List.cons_append]

def described (fragments : List Fragment) : Partition where
  scopes := (firstSeen fragments).map fun scope => (scope, textsIn (some scope) fragments)
  globals := textsIn none fragments

theorem described_snoc_global (fragments : List Fragment) (text : Text) :
    described (fragments ++ [⟨none, text⟩]) = (described fragments).add ⟨none, text⟩ := by
  have seen : firstSeen (fragments ++ [⟨none, text⟩]) = firstSeen fragments := by
    simp [firstSeen]
  rw [described, described, add, seen]
  simp only [texts_in_snoc, reduceCtorEq, if_false, if_true]

theorem described_snoc_scoped (fragments : List Fragment) (scope text : Text) :
    described (fragments ++ [⟨some scope, text⟩]) =
      (described fragments).add ⟨some scope, text⟩ := by
  have seen : firstSeen (fragments ++ [⟨some scope, text⟩]) =
      if scope ∈ fragments.filterMap Fragment.scope then firstSeen fragments
      else firstSeen fragments ++ [scope] := by
    rw [firstSeen, List.filterMap_append]
    exact erase_dups_snoc _ scope
  rw [described, described, add, seen]
  simp only [texts_in_snoc, reduceCtorEq, if_false, Option.some.injEq]
  by_cases known : scope ∈ fragments.filterMap Fragment.scope
  · have present : scope ∈ firstSeen fragments := List.mem_eraseDups.2 known
    have distinct : (firstSeen fragments).Nodup := nodup_erase_dups _
    rw [if_pos known, add_to_present scope text _ (fun name => textsIn (some name) fragments)
      distinct present]
  · have absent : scope ∉ firstSeen fragments :=
      fun member => known (List.mem_eraseDups.1 member)
    have unlike : ∀ name ∈ firstSeen fragments,
        (name, textsIn (some name) fragments) =
          (name, if scope = name then textsIn (some name) fragments ++ [text]
            else textsIn (some name) fragments) := by
      intro name member
      rw [if_neg]
      rintro rfl
      exact absent member
    rw [if_neg known, add_to_absent scope text _ (fun name => textsIn (some name) fragments) absent,
      List.map_append, List.map_singleton, if_pos rfl, texts_in_unseen scope fragments known,
      List.map_congr_left unlike]
    rfl

theorem of_fragments_eq (fragments : List Fragment) :
    ofFragments fragments = described fragments := by
  induction fragments using List.reverseRecOn with
  | nil => rfl
  | append_singleton fragments fragment ih =>
      have step : ofFragments (fragments ++ [fragment]) = (ofFragments fragments).add fragment := by
        rw [ofFragments, List.foldl_append]
        rfl
      obtain ⟨scope | scope, text⟩ := fragment
      · rw [step, ih, described_snoc_global]
      · rw [step, ih, described_snoc_scoped]

end Partition

end Stubwright
