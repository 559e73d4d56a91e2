import Stubwright.Proofs.Yaml.Ending

/-!
Why a document has no value. A node that is put together from the tokens has none for a shape that
has no meaning, or for a scalar in it that cannot be converted. Every scalar that is converted
stands in the node itself, also where a mapping merges others or a collection stands in itself;
only the key for a default does not, and it has become a plain text, which is never stuck.
-/

namespace Stubwright.Yaml

namespace Built

variable {α β γ : Type} {join : α → β → γ} {first : Built α} {second : Built β} {mishap : Mishap}

theorem both_fails (failed : both join first second = .error mishap) :
    first = .error mishap ∨ second = .error mishap := by
  cases first with
  | ok a =>
      cases second with
      | ok b => cases failed
      | error other =>
          cases failed
          exact .inr rfl
  | error one =>
      cases second with
      | ok b =>
          cases failed
          exact .inl rfl
      | error other =>
          cases failed
          split
          · exact .inl rfl
          · exact .inr rfl

end Built

namespace Node

inductive Within : Node → Node → Prop where
  | self (node : Node) : Within node node
  | item {inner item : Node} {tag : Tag} {items : List Node} (member : item ∈ items)
      (inside : Within inner item) : Within inner (.sequence tag items)
  | key {inner : Node} {entry : Node × Node} {label : Nat} {tag : Tag}
      {entries : List (Node × Node)} (member : entry ∈ entries) (inside : Within inner entry.1) :
      Within inner (.mapping label tag entries)
  | value {inner : Node} {entry : Node × Node} {label : Nat} {tag : Tag}
      {entries : List (Node × Node)} (member : entry ∈ entries) (inside : Within inner entry.2) :
      Within inner (.mapping label tag entries)
  | knot {inner node : Node} {label : Nat} (inside : Within inner node) :
      Within inner (.knot label node)
  | whole {inner whole node : Node} {label : Nat} (inside : Within inner whole) :
      Within inner (.bound label whole node)
  | bound {inner whole node : Node} {label : Nat} (inside : Within inner node) :
      Within inner (.bound label whole node)

theorem Within.trans {inner middle outer : Node} (first : Within inner middle)
    (second : Within middle outer) : Within inner outer := by
  induction second with
  | self => exact first
  | item member _ ih => exact .item member ih
  | key member _ ih => exact .key member ih
  | value member _ ih => exact .value member ih
  | knot _ ih => exact .knot ih
  | whole _ ih => exact .whole ih
  | bound _ ih => exact .bound ih

theorem with_tag_tag : ∀ key : Node, key.tag = .value → (key.withTag .str).tag = .str
  | .scalar _ _, _ => rfl
  | .sequence _ _, _ => rfl
  | .mapping _ _ _, _ => rfl
  | .knot _ node, isDefault => with_tag_tag node isDefault
  | .bound _ _ node, isDefault => with_tag_tag node isDefault

/-- A node is put together from parts of another one: a part as it is, a part that is bound to
another, or the key for a default as a plain text. -/
inductive Drawn (outer : Node) : Node → Prop where
  | part {node : Node} (within : Within node outer) : Drawn outer node
  | bound {label : Nat} {whole node : Node} (ofWhole : Drawn outer whole)
      (ofNode : Drawn outer node) : Drawn outer (.bound label whole node)
  | text {node : Node} (drawn : Drawn outer node) (isDefault : node.tag = .value) :
      Drawn outer (node.withTag .str)

variable {outer node : Node} {entries merged own : List (Node × Node)} {items : List Node}
  {tag : Tag} {label : Nat}

def DrawnEntry (outer : Node) (entry : Node × Node) : Prop :=
  Drawn outer entry.1 ∧ Drawn outer entry.2

namespace Drawn

theorem of_sequence (drawn : Drawn outer node) (same : node = .sequence tag items) :
    ∀ item ∈ items, Drawn outer item := by
  induction drawn generalizing tag with
  | part within =>
      subst same
      exact fun item member => .part ((Within.item member (.self _)).trans within)
  | bound => cases same
  | @text node _ _ ih =>
      cases node with
      | sequence =>
          cases same
          exact ih rfl
      | _ => cases same

theorem of_mapping (drawn : Drawn outer node) (same : node = .mapping label tag entries) :
    ∀ entry ∈ entries, DrawnEntry outer entry := by
  induction drawn generalizing tag with
  | part within =>
      subst same
      exact fun entry member => ⟨.part ((Within.key member (.self _)).trans within),
        .part ((Within.value member (.self _)).trans within)⟩
  | bound => cases same
  | @text node _ _ ih =>
      cases node with
      | mapping =>
          cases same
          exact ih rfl
      | _ => cases same

theorem of_knot {inner : Node} (drawn : Drawn outer node) (same : node = .knot label inner) :
    Drawn outer inner := by
  induction drawn generalizing inner with
  | part within =>
      subst same
      exact .part ((Within.knot (.self _)).trans within)
  | bound => cases same
  | @text node _ isDefault ih =>
      cases node with
      | knot =>
          cases same
          exact .text (ih rfl) isDefault
      | _ => cases same

theorem of_bound {whole inner : Node} (drawn : Drawn outer node)
    (same : node = .bound label whole inner) : Drawn outer whole ∧ Drawn outer inner := by
  induction drawn generalizing inner with
  | part within =>
      subst same
      exact ⟨.part ((Within.whole (.self _)).trans within),
        .part ((Within.bound (.self _)).trans within)⟩
  | bound ofWhole ofNode =>
      cases same
      exact ⟨ofWhole, ofNode⟩
  | @text node _ isDefault ih =>
      cases node with
      | bound =>
          cases same
          have parts := ih rfl
          exact ⟨parts.1, .text parts.2 isDefault⟩
      | _ => cases same

/-- A node that is converted as it is stands in the other one. -/
theorem within (drawn : Drawn outer node) (notText : node.tag ≠ .str)
    (notBound : ∀ label whole inner, node ≠ .bound label whole inner) : Within node outer := by
  cases drawn with
  | part within => exact within
  | bound => exact absurd rfl (notBound _ _ _)
  | text _ isDefault => exact absurd (with_tag_tag _ isDefault) notText

end Drawn

/-- Entries out of a collection are bound to it. -/
theorem bound_entries_drawn {whole : Node} (drawn : Drawn outer whole)
    (given : ∀ entry ∈ entries, DrawnEntry outer entry) :
    ∀ entry ∈ boundEntries label whole entries, DrawnEntry outer entry := by
  intro entry member
  obtain ⟨own, among, rfl⟩ := List.mem_map.1 member
  exact ⟨(given own among).1, .bound drawn (given own among).2⟩

mutual

/-- What a mapping merges is put together from its own parts, as its own entries are. -/
theorem flatten_drawn : ∀ (entries : List (Node × Node)) {merged own : List (Node × Node)},
    flatten entries = .ok (merged, own) → (∀ entry ∈ entries, DrawnEntry outer entry) →
      ∀ entry ∈ merged ++ own, DrawnEntry outer entry
  | [], _, _, flat, _ => by
      cases flat
      nofun
  | (key, value) :: entries, merged, own, flat, given => by
      obtain ⟨⟨ofKey, ofValue⟩, others⟩ := List.forall_mem_cons.1 given
      rw [flatten] at flat
      split at flat
      · obtain ⟨found, mergedRead, flat⟩ := bind_ok_iff.1 flat
        obtain ⟨⟨more, rest⟩, later, flat⟩ := bind_ok_iff.1 flat
        cases flat
        rw [List.append_assoc, List.forall_mem_append]
        exact ⟨merged_from_drawn value mergedRead ofValue, flatten_drawn entries later others⟩
      · obtain ⟨⟨more, rest⟩, later, flat⟩ := bind_ok_iff.1 flat
        cases flat
        have ofLater := List.forall_mem_append.1 (flatten_drawn entries later others)
        rw [List.forall_mem_append, List.forall_mem_cons]
        refine ⟨ofLater.1, ⟨?_, ofValue⟩, ofLater.2⟩
        dsimp only
        split
        next isDefault => exact .text ofKey isDefault
        next => exact ofKey

theorem merged_from_drawn : ∀ (node : Node) {found : List (Node × Node)},
    mergedFrom node = .ok found → Drawn outer node → ∀ entry ∈ found, DrawnEntry outer entry
  | .mapping label tag entries, found, merged, drawn => by
      rw [mergedFrom] at merged
      obtain ⟨⟨more, own⟩, flat, merged⟩ := bind_ok_iff.1 merged
      cases merged
      exact flatten_drawn entries flat (drawn.of_mapping rfl)
  | .sequence tag items, found, merged, drawn => by
      rw [mergedFrom] at merged
      exact merged_from_all_drawn items merged (drawn.of_sequence rfl)
  | .link label isMapping, found, merged, _ => by
      rw [mergedFrom] at merged
      cases merged
      nofun
  | .knot label node, found, merged, drawn => by
      rw [mergedFrom] at merged
      obtain ⟨inner, read, merged⟩ := bind_ok_iff.1 merged
      cases merged
      exact bound_entries_drawn drawn (merged_from_drawn node read (drawn.of_knot rfl))
  | .bound label whole node, found, merged, drawn => by
      rw [mergedFrom] at merged
      obtain ⟨inner, read, merged⟩ := bind_ok_iff.1 merged
      cases merged
      have parts := drawn.of_bound rfl
      exact bound_entries_drawn parts.1 (merged_from_drawn node read parts.2)
  | .scalar tag text, found, merged, _ => by
      rw [mergedFrom] at merged
      cases merged

theorem merged_from_all_drawn : ∀ (items : List Node) {found : List (Node × Node)},
    mergedFromAll items = .ok found → (∀ item ∈ items, Drawn outer item) →
      ∀ entry ∈ found, DrawnEntry outer entry
  | [], found, merged, _ => by
      cases merged
      nofun
  | item :: items, found, merged, given => by
      obtain ⟨here, others⟩ := List.forall_mem_cons.1 given
      rw [mergedFromAll] at merged
      split at merged
      · obtain ⟨own, ownMerged, merged⟩ := bind_ok_iff.1 merged
        obtain ⟨later, laterMerged, merged⟩ := bind_ok_iff.1 merged
        cases merged
        rw [List.forall_mem_append]
        exact ⟨merged_from_all_drawn items laterMerged others,
          merged_from_drawn item ownMerged here⟩
      · cases merged

end

mutual

theorem flatten_fails : ∀ (entries : List (Node × Node)) {failure : Failure},
    flatten entries = .error failure → failure = .malformed
  | [], _, failed => by cases failed
  | (key, value) :: entries, failure, failed => by
      rw [flatten] at failed
      split at failed
      · rcases bind_error_iff.1 failed with failed | ⟨found, _, failed⟩
        · exact merged_from_fails value failed
        · rcases bind_error_iff.1 failed with failed | ⟨_, _, failed⟩
          · exact flatten_fails entries failed
          · cases failed
      · rcases bind_error_iff.1 failed with failed | ⟨_, _, failed⟩
        · exact flatten_fails entries failed
        · cases failed

theorem merged_from_fails : ∀ (node : Node) {failure : Failure},
    mergedFrom node = .error failure → failure = .malformed
  | .mapping label tag entries, failure, failed => by
      rw [mergedFrom] at failed
      rcases bind_error_iff.1 failed with failed | ⟨_, _, failed⟩
      · exact flatten_fails entries failed
      · cases failed
  | .sequence tag items, failure, failed => by
      rw [mergedFrom] at failed
      exact merged_from_all_fails items failed
  | .link label isMapping, failure, failed => by
      rw [mergedFrom] at failed
      cases failed
  | .knot label node, failure, failed => by
      rw [mergedFrom] at failed
      rcases bind_error_iff.1 failed with failed | ⟨_, _, failed⟩
      · exact merged_from_fails node failed
      · cases failed
  | .bound label whole node, failure, failed => by
      rw [mergedFrom] at failed
      rcases bind_error_iff.1 failed with failed | ⟨_, _, failed⟩
      · exact merged_from_fails node failed
      · cases failed
  | .scalar tag text, failure, failed => by
      rw [mergedFrom] at failed
      cases failed
      rfl

theorem merged_from_all_fails : ∀ (items : List Node) {failure : Failure},
    mergedFromAll items = .error failure → failure = .malformed
  | [], failure, failed => by cases failed
  | item :: items, failure, failed => by
      rw [mergedFromAll] at failed
      split at failed
      · rcases bind_error_iff.1 failed with failed | ⟨_, _, failed⟩
        · exact merged_from_fails item failed
        · rcases bind_error_iff.1 failed with failed | ⟨_, _, failed⟩
          · exact merged_from_all_fails items failed
          · cases failed
      · cases failed
        rfl

end

theorem entries_drawn (read : node.entries? = .ok entries) (drawn : Drawn outer node) :
    ∀ entry ∈ entries, DrawnEntry outer entry := by
  cases node with
  | mapping label tag own =>
      obtain ⟨⟨merged, rest⟩, flat, read⟩ := bind_ok_iff.1 read
      cases read
      exact flatten_drawn own flat (drawn.of_mapping rfl)
  | _ => cases read

theorem items_drawn (read : node.items? = .ok items) (drawn : Drawn outer node) :
    ∀ item ∈ items, Drawn outer item := by
  cases node with
  | sequence tag own =>
      cases read
      exact drawn.of_sequence rfl
  | _ => cases read

theorem only_entry_drawn : ∀ {node : Node} {entry : Node × Node},
    node.onlyEntry? = .ok entry → Drawn outer node → DrawnEntry outer entry
  | .mapping label tag [only], entry, read, drawn => by
      have same : only = entry := Except.ok.inj read
      exact drawn.of_mapping rfl entry (by rw [same]; exact List.mem_singleton_self entry)
  | .knot label node, entry, read, drawn => by
      obtain ⟨inner, only, same⟩ := bind_ok_iff.1 read
      have parts := only_entry_drawn only (drawn.of_knot rfl)
      rw [← Except.ok.inj same]
      exact ⟨parts.1, .bound drawn parts.2⟩
  | .bound label whole node, entry, read, drawn => by
      obtain ⟨inner, only, same⟩ := bind_ok_iff.1 read
      have both := drawn.of_bound rfl
      have parts := only_entry_drawn only both.2
      rw [← Except.ok.inj same]
      exact ⟨parts.1, .bound both.1 parts.2⟩

variable {failure : Failure}

theorem entries_fail (failed : node.entries? = .error failure) : failure = .malformed := by
  cases node with
  | mapping label tag own =>
      rcases bind_error_iff.1 failed with failed | ⟨_, _, failed⟩
      · exact flatten_fails own failed
      · cases failed
  | _ =>
      cases failed
      rfl

theorem items_fail (failed : node.items? = .error failure) : failure = .malformed := by
  cases node with
  | sequence tag own => cases failed
  | _ =>
      cases failed
      rfl

theorem only_entry_fails : ∀ {node : Node} {failure : Failure},
    node.onlyEntry? = .error failure → failure = .malformed
  | .knot label node, failure, failed => by
      rcases bind_error_iff.1 failed with failed | ⟨_, _, failed⟩
      · exact only_entry_fails failed
      · cases failed
  | .bound label whole node, failure, failed => by
      rcases bind_error_iff.1 failed with failed | ⟨_, _, failed⟩
      · exact only_entry_fails failed
      · cases failed
  | .scalar _ _, _, rfl => rfl
  | .sequence _ _, _, rfl => rfl
  | .mapping _ _ [], _, rfl => rfl
  | .mapping _ _ (_ :: _ :: _), _, rfl => rfl
  | .link _ _, _, rfl => rfl

end Node

namespace Document

open Node

variable {fuel level : Nat} {node outer : Node} {mishap : Mishap} {failure : Failure}
  {name : Nat → Value → Value}

/-- A scalar in a node cannot be converted, or a mapping was marked as a date. -/
inductive IsStuck (outer : Node) : Failure → Prop where
  | scalar {inner : Node} {text : Text} {failure : Failure} (within : Within inner outer)
      (holds : inner.scalarText? = some text)
      (failed : Scalar.value inner.tag text = .error failure) : IsStuck outer failure
  | date {inner : Node} (within : Within inner outer) (marked : inner.tag = .timestamp)
      (mapping : inner.isScalar = false) : IsStuck outer .mappedDate

theorem lift_fails {α : Type} {outcome : Except Failure α}
    (failed : lift level outcome = .error mishap) : outcome = .error mishap.failure := by
  cases outcome with
  | ok value => cases failed
  | error failure =>
      cases failed
      rfl

theorem lift_ok_iff {α : Type} {outcome : Except Failure α} {value : α} :
    lift level outcome = .ok value ↔ outcome = .ok value := by
  cases outcome <;> simp [lift, fail]

theorem build_all_fails {α β : Type} {build : α → Built β} {items : List α}
    (failed : buildAll build items = .error mishap) :
    ∃ item ∈ items, build item = .error mishap := by
  induction items with
  | nil => cases failed
  | cons item items ih =>
      rcases Built.both_fails failed with failed | failed
      · exact ⟨item, List.mem_cons_self, failed⟩
      · obtain ⟨other, member, failed⟩ := ih failed
        exact ⟨other, List.mem_cons_of_mem _ member, failed⟩

/-- A collection fails where its parts cannot be told, or at one of them. -/
theorem gathered_fails {α β γ : Type} {parts : Except Failure (List α)} {build : α → Built β}
    {gather : List β → γ}
    (failed : (do
      let items ← lift level parts
      return gather (← buildAll build items)) = .error mishap) :
    parts = .error mishap.failure ∨
      ∃ items, parts = .ok items ∧ ∃ item ∈ items, build item = .error mishap := by
  rcases bind_error_iff.1 failed with failed | ⟨items, read, failed⟩
  · exact .inl (lift_fails failed)
  · rcases bind_error_iff.1 failed with failed | ⟨_, _, failed⟩
    · exact .inr ⟨items, lift_ok_iff.1 read, build_all_fails failed⟩
    · cases failed

/-- A node that is converted as it is: a text is never stuck. -/
theorem scalar_fails {text : Text} (drawn : Drawn outer node)
    (notBound : ∀ label whole inner, node ≠ .bound label whole inner)
    (holds : node.scalarText? = some text)
    (failed : (if node.tag = .timestamp ∧ !node.isScalar then fail level .mappedDate
      else lift level (Scalar.value node.tag text)) = .error mishap) :
    mishap.failure = .malformed ∨ IsStuck outer mishap.failure := by
  split at failed
  next marked =>
    cases failed
    have within := drawn.within (by rw [marked.1]; nofun) notBound
    exact .inr (.date within marked.1 (by simpa using marked.2))
  next =>
    have stuck := lift_fails failed
    have notText : node.tag ≠ .str := by
      intro isText
      rw [isText] at stuck
      cases stuck
    exact .inr (.scalar (drawn.within notText notBound) holds stuck)

section

/-- With some fuel, a node drawn from another one fails only for its shape or for a scalar in the
other one. -/
def FailsKnown (name : Nat → Value → Value) (fuel : Nat) (outer : Node) : Prop :=
  ∀ {level : Nat} {node : Node} {mishap : Mishap}, Drawn outer node →
    build name fuel level node = .error mishap →
      mishap.failure = .malformed ∨ IsStuck outer mishap.failure

variable (known : FailsKnown name fuel outer)

include known

theorem entry_fails {entry : Node × Node} (drawn : DrawnEntry outer entry)
    (failed : Built.both Prod.mk
      (if entry.1.isKey then build name fuel level entry.1 else fail level .malformed)
      (build name fuel level entry.2) = .error mishap) :
    mishap.failure = .malformed ∨ IsStuck outer mishap.failure := by
  rcases Built.both_fails failed with failed | failed
  · split at failed
    · exact known drawn.1 failed
    · cases failed
      exact .inl rfl
  · exact known drawn.2 failed

theorem pair_fails {item : Node} (drawn : Drawn outer item)
    (failed : build.single level (fun entry => Built.both Prod.mk (build name fuel level entry.1)
      (build name fuel level entry.2)) item = .error mishap) :
    mishap.failure = .malformed ∨ IsStuck outer mishap.failure := by
  rcases bind_error_iff.1 failed with failed | ⟨entry, read, failed⟩
  · exact .inl (only_entry_fails (lift_fails failed))
  · have parts := only_entry_drawn (lift_ok_iff.1 read) drawn
    rcases Built.both_fails failed with failed | failed
    · exact known parts.1 failed
    · exact known parts.2 failed

end

theorem build_fails (drawn : Drawn outer node)
    (failed : build name fuel level node = .error mishap) :
    mishap.failure = .malformed ∨ IsStuck outer mishap.failure := by
  induction fuel generalizing level node mishap with
  | zero =>
      cases failed
      exact .inl rfl
  | succ fuel ih =>
      have known : FailsKnown name fuel outer := ih
      rw [build.eq_def] at failed
      dsimp only at failed
      split at failed
      case h_1 => cases failed
      case h_2 label inner =>
        cases built : build name fuel level inner with
        | ok value => rw [built] at failed; cases failed
        | error other =>
            rw [built] at failed
            cases failed
            exact known (drawn.of_knot rfl) built
      case h_3 label whole inner =>
        have parts := drawn.of_bound rfl
        rcases Built.both_fails failed with failed | failed
        · exact known parts.1 failed
        · exact known parts.2 failed
      case h_4 notLink notKnot notBound =>
        split at failed
        case h_1 =>
          rcases gathered_fails failed with failed | ⟨items, read, item, member, failed⟩
          · exact .inl (items_fail failed)
          · exact known (items_drawn read drawn item member) failed
        case h_2 | h_3 =>
          rcases gathered_fails failed with failed | ⟨entries, read, entry, member, failed⟩
          · exact .inl (entries_fail failed)
          · exact entry_fails known (entries_drawn read drawn entry member) failed
        case h_4 | h_5 =>
          rcases gathered_fails failed with failed | ⟨items, read, item, member, failed⟩
          · exact .inl (items_fail failed)
          · exact pair_fails known (items_drawn read drawn item member) failed
        case h_6 =>
          split at failed
          next text holds => exact scalar_fails drawn notBound holds failed
          next =>
            cases failed
            exact .inl rfl

theorem of_node_fails (failed : ofNode name node = .error failure) :
    failure = .malformed ∨ IsStuck node failure := by
  rw [ofNode] at failed
  split at failed
  next => cases failed
  next mishap built =>
    cases failed
    exact build_fails (.part (.self node)) built

/-- A document has no value where its tokens cannot be put together, or its node has none. -/
theorem load_fails {room : Room} {stream : Stream}
    (failed : loadAs name room stream = .error failure) :
    Node.ofTokens? room (.ofStream stream) = .error failure ∨
      ∃ root, Node.ofTokens? room (.ofStream stream) = .ok (some root) ∧
        ofNode name root = .error failure := by
  rcases bind_error_iff.1 failed with failed | ⟨_ | root, composed, failed⟩
  · exact .inl failed
  · cases failed
  · exact .inr ⟨root, composed, failed⟩

end Document

end Stubwright.Yaml
