import Stubwright.Proofs.Yaml.Meaning
import Stubwright.Proofs.Yaml.Tokens

/-!
The tokens of a JSON value as a node. No token of such a text is an anchor, an alias or a tag, so
only the tokens, the nesting and the labels in use change while it is composed.
-/

namespace Stubwright.Yaml

open Json

namespace Compose

def Reads {α : Type} (action : Compose α) (before : Composer) (value : α) (after : Composer) :
    Prop :=
  action.run before = .ok (value, after)

section

variable {α β : Type} {action : Compose α} {next : α → Compose β} {before between after : Composer}
  {first : α} {second : β}

theorem Reads.pure (value : α) (composer : Composer) :
    Reads (Pure.pure value) composer value composer := rfl

theorem Reads.bind (read : Reads action before first between)
    (more : Reads (next first) between second after) :
    Reads (action >>= next) before second after := by
  rw [Reads, StateT.run_bind, read]
  exact more

end

end Compose

def Composer.standing (depth labels : Nat) (tokens : List Token) (composer : Composer) : Composer :=
  { composer with ending := none, depth := depth, labels := labels, tokens := tokens }

namespace Compose

variable {composer after : Composer} {depth labels more : Nat} {token : Token}
  {tokens rest ends : List Token} {fuel : Nat} {block indentless : Bool}

theorem reads_peek :
    Reads peek (composer.standing depth labels tokens) tokens.head?
      (composer.standing depth labels tokens) := by
  cases tokens <;> rfl

theorem reads_next_in :
    Reads (nextIn ends) (composer.standing depth labels (token :: rest)) (decide (token ∈ ends))
      (composer.standing depth labels (token :: rest)) := rfl

theorem reads_accept :
    Reads (accept token) (composer.standing depth labels (token :: rest)) true
      (composer.standing depth labels rest) := by
  refine .bind reads_next_in ?_
  rw [decide_eq_true (List.mem_singleton_self token)]
  rfl

theorem reads_refuse {other : Token} (differs : token ≠ other) :
    Reads (accept other) (composer.standing depth labels (token :: rest)) false
      (composer.standing depth labels (token :: rest)) := by
  refine .bind reads_next_in ?_
  rw [decide_eq_false (by simpa using differs)]
  rfl

theorem reads_inside {α : Type} {contents : Compose α} {value : α}
    (roomy : ∀ tokens, composer.room depth tokens = true)
    (read : Reads contents (composer.standing (depth + 1) labels tokens) value
      (composer.standing (depth + 1) more rest)) :
    Reads (inside contents) (composer.standing depth labels tokens) value
      (composer.standing depth more rest) := by
  let before := composer.standing depth labels tokens
  have notDeep : ¬(!before.room before.depth before.tokens) = true := by
    simp [before, Composer.standing, roomy tokens]
  rw [inside]
  refine .bind rfl ?_
  rw [if_neg notDeep]
  exact .bind rfl (.bind read (.bind rfl (.pure value _)))

inductive Starts : Token → Prop where
  | scalar (text : Text) (plain : Bool) : Starts (.scalar text plain)
  | sequence : Starts .flowSequenceStart
  | mapping : Starts .flowMappingStart

theorem reads_properties (starts : Starts token) :
    Reads properties (composer.standing depth labels (token :: tokens)) (none, none)
      (composer.standing depth labels (token :: tokens)) := by
  refine .bind reads_peek ?_
  cases starts <;> exact .pure _ _

theorem reads_node {node : Node} (starts : Starts token)
    (read : Reads (content block indentless none false fuel)
      (composer.standing depth labels (token :: tokens)) node after) :
    Reads (Compose.node block indentless (fuel + 1))
      (composer.standing depth labels (token :: tokens)) node after := by
  have bare : Reads properties (composer.standing depth labels (token :: tokens)) (none, none)
    (composer.standing depth labels (token :: tokens)) := reads_properties starts
  rw [Compose.node]
  refine .bind reads_peek ?_
  cases starts <;>
    exact .bind bare (.bind (.pure none _) (.bind reads_peek read))

theorem reads_scalar {text : Text} {plain : Bool} :
    Reads (content block indentless none false (fuel + 1))
      (composer.standing depth labels (.scalar text plain :: rest))
      (.scalar (scalarTag none text plain) text) (composer.standing depth labels rest) := by
  rw [content]
  exact .bind reads_peek (.bind rfl (.pure _ _))

theorem reads_sequence {items : List Node} (roomy : ∀ tokens, composer.room depth tokens = true)
    (read : Reads (flowItems true fuel) (composer.standing (depth + 1) labels tokens) items
      (composer.standing (depth + 1) more rest)) :
    Reads (content block indentless none false (fuel + 1))
      (composer.standing depth labels (.flowSequenceStart :: tokens)) (.sequence .seq items)
      (composer.standing depth more rest) := by
  rw [content]
  exact .bind reads_peek (.bind rfl (.bind (reads_inside roomy read) (.pure _ _)))

theorem reads_mapping {entries : List (Node × Node)}
    (roomy : ∀ tokens, composer.room depth tokens = true)
    (read : Reads (flowPairs true fuel) (composer.standing (depth + 1) (labels + 1) tokens) entries
      (composer.standing (depth + 1) more rest)) :
    Reads (content block indentless none false (fuel + 1))
      (composer.standing depth labels (.flowMappingStart :: tokens)) (.mapping labels .map entries)
      (composer.standing depth more rest) := by
  rw [content]
  exact .bind reads_peek (.bind rfl (.bind rfl (.bind (reads_inside roomy read) (.pure _ _))))

/-- What stands between two items or members, and nothing in front of the first. -/
def commaUnless (first : Bool) : List Token := if first then [] else [.flowEntry]

theorem reads_items_end {first : Bool} :
    Reads (flowItems first (fuel + 1))
      (composer.standing depth labels (.flowSequenceEnd :: rest)) []
      (composer.standing depth labels rest) := by
  rw [flowItems]
  exact .bind reads_accept (.pure _ _)

theorem reads_item {first : Bool} {item : Node} {items : List Node} (starts : Starts token)
    (read : Reads (Compose.node false false fuel)
      (composer.standing depth labels (token :: tokens)) item (composer.standing depth more rest))
    (others : Reads (flowItems false fuel) (composer.standing depth more rest) items after) :
    Reads (flowItems first (fuel + 1))
      (composer.standing depth labels (commaUnless first ++ token :: tokens)) (item :: items)
      after := by
  have notEnd : token ≠ .flowSequenceEnd := by rintro rfl; cases starts
  have notKey : token ≠ .key := by rintro rfl; cases starts
  rw [flowItems]
  cases first with
  | true =>
      exact .bind (reads_refuse notEnd) (.bind (reads_refuse notKey) (.bind (reads_refuse notEnd)
        (.bind read (.bind others (.pure _ _)))))
  | false =>
      exact .bind (reads_refuse (by decide)) (.bind reads_accept (.bind (reads_refuse notKey)
        (.bind (reads_refuse notEnd) (.bind read (.bind others (.pure _ _))))))

theorem reads_pairs_end {first : Bool} :
    Reads (flowPairs first (fuel + 1))
      (composer.standing depth labels (.flowMappingEnd :: rest)) []
      (composer.standing depth labels rest) := by
  rw [flowPairs]
  exact .bind reads_accept (.pure _ _)

theorem reads_node_unless {node : Node} (other : token ∉ ends)
    (read : Reads (Compose.node block indentless fuel)
      (composer.standing depth labels (token :: tokens)) node after) :
    Reads (nodeUnless ends block indentless (fuel + 1))
      (composer.standing depth labels (token :: tokens)) node after := by
  rw [nodeUnless]
  refine .bind reads_next_in ?_
  rw [decide_eq_false other]
  exact read

def announced (text : Text) (rest : List Token) : List Token :=
  .key :: .scalar text false :: .value :: rest

theorem reads_member {first : Bool} {text : Text} {node : Node} {members : List (Node × Node)}
    (starts : Starts token)
    (read : Reads (Compose.node false false (fuel + 1))
      (composer.standing depth labels (token :: tokens)) node (composer.standing depth more rest))
    (others : Reads (flowPairs false (fuel + 3)) (composer.standing depth more rest) members
      after) :
    Reads (flowPairs first (fuel + 4))
      (composer.standing depth labels (commaUnless first ++ announced text (token :: tokens)))
      ((.scalar .str text, node) :: members) after := by
  have key : Reads (nodeUnless [.value, .flowEntry, .flowMappingEnd] false false (fuel + 3))
      (composer.standing depth labels (.scalar text false :: .value :: token :: tokens))
      (.scalar .str text) (composer.standing depth labels (.value :: token :: tokens)) :=
    reads_node_unless (by simp) (reads_node (.scalar text false) reads_scalar)
  have other : token ∉ [.flowEntry, .flowMappingEnd] := by cases starts <;> simp
  have value : Reads (valueAfter [.flowEntry, .flowMappingEnd] false (fuel + 3))
      (composer.standing depth labels (.value :: token :: tokens)) node
      (composer.standing depth more rest) := by
    rw [valueAfter]
    exact .bind reads_accept (reads_node_unless other read)
  rw [flowPairs]
  cases first with
  | true =>
      exact .bind (reads_refuse (by decide)) (.bind reads_accept (.bind key (.bind value
        (.bind others (.pure _ _)))))
  | false =>
      exact .bind (reads_refuse (by decide)) (.bind reads_accept (.bind reads_accept (.bind key
        (.bind value (.bind others (.pure _ _))))))

end Compose

end Stubwright.Yaml

namespace Stubwright.Json

open Yaml Compose

/-- The tokens of a value begin with one that starts a node. -/
theorem Tree.exists_tokens (tree : Tree) :
    ∃ token others, tree.tokens = token :: others ∧ Starts token := by
  cases tree with
  | word chars value known => exact ⟨_, _, rfl, .scalar _ _⟩
  | number numeral => exact ⟨_, _, rfl, .scalar _ _⟩
  | string letters => exact ⟨_, _, rfl, .scalar _ _⟩
  | emptyArray gap => exact ⟨_, _, rfl, .sequence⟩
  | array gap items => exact ⟨_, _, rfl, .sequence⟩
  | emptyObject gap => exact ⟨_, _, rfl, .mapping⟩
  | object gap members => exact ⟨_, _, rfl, .mapping⟩

variable {composer : Composer} {deepest : Nat}

mutual

/-- The tokens of a value are put together to a node with its meaning. Two calls belong to each
token at most, so twice their number is enough fuel. -/
theorem Tree.composed (tree : Tree) {depth fuel : Nat} (block : Bool) (labels : Nat)
    (rest : List Token) (portable : tree.IsPortable)
    (admits : composer.room.Admits deepest) (shallow : depth + tree.depth ≤ deepest)
    (enough : 2 * tree.tokens.length ≤ fuel) :
    ∃ node more, Reads (Compose.node block false fuel)
        (composer.standing depth labels (tree.tokens ++ rest)) node
        (composer.standing depth more rest) ∧ node.Means tree.value :=
  match tree with
  | .word chars value known => by
      obtain ⟨fuel, rfl⟩ := Nat.exists_eq_add_of_le' enough
      exact ⟨_, labels, reads_node (.scalar _ _) reads_scalar, word_means known portable⟩
  | .number numeral => by
      obtain ⟨fuel, rfl⟩ := Nat.exists_eq_add_of_le' enough
      exact ⟨_, labels, reads_node (.scalar _ _) reads_scalar, numeral_means numeral portable⟩
  | .string letters => by
      obtain ⟨fuel, rfl⟩ := Nat.exists_eq_add_of_le' enough
      exact ⟨_, labels, reads_node (.scalar _ _) reads_scalar, Node.scalar_means rfl⟩
  | .emptyArray gap => by
      obtain ⟨fuel, rfl⟩ := Nat.exists_eq_add_of_le' enough
      refine ⟨_, labels, ?_, Node.sequence_means .nil⟩
      exact reads_node .sequence (reads_sequence (admits depth shallow) reads_items_end)
  | .array gap items => by
      simp only [Tree.tokens, List.length_cons, List.length_append, List.length_nil] at enough
      obtain ⟨fuel, rfl⟩ : ∃ left, fuel = left + 2 := Nat.exists_eq_add_of_le' (by omega)
      have inside : depth + 1 + items.depth ≤ deepest := by
        rw [Tree.depth] at shallow
        omega
      have left : 2 * items.tokens.length < fuel := by omega
      obtain ⟨nodes, more, read, means⟩ :=
        items.composed true labels rest portable.2 admits inside left
      refine ⟨_, more, ?_, Node.sequence_means means⟩
      rw [Tree.tokens, List.cons_append, List.append_assoc]
      exact reads_node .sequence (reads_sequence (admits depth (by omega)) read)
  | .emptyObject gap => by
      obtain ⟨fuel, rfl⟩ := Nat.exists_eq_add_of_le' enough
      refine ⟨_, labels + 1, ?_, Node.mapping_means labels .nil⟩
      exact reads_node .mapping (reads_mapping (admits depth shallow) reads_pairs_end)
  | .object gap members => by
      simp only [Tree.tokens, List.length_cons, List.length_append, List.length_nil] at enough
      obtain ⟨fuel, rfl⟩ : ∃ left, fuel = left + 2 := Nat.exists_eq_add_of_le' (by omega)
      have inside : depth + 1 + members.depth ≤ deepest := by
        rw [Tree.depth] at shallow
        omega
      have left : 2 * members.tokens.length < fuel := by omega
      obtain ⟨entries, more, read, means⟩ :=
        members.composed true (labels + 1) rest portable.2 admits inside left
      refine ⟨_, more, ?_, Node.mapping_means labels means⟩
      rw [Tree.tokens, List.cons_append, List.append_assoc]
      exact reads_node .mapping (reads_mapping (admits depth (by omega)) read)

theorem Items.composed (items : Items) {depth fuel : Nat} (first : Bool) (labels : Nat)
    (rest : List Token) (portable : items.IsPortable)
    (admits : composer.room.Admits deepest) (shallow : depth + items.depth ≤ deepest)
    (enough : 2 * items.tokens.length < fuel) :
    ∃ nodes more, Reads (flowItems first fuel)
        (composer.standing depth labels
          (commaUnless first ++ (items.tokens ++ .flowSequenceEnd :: rest))) nodes
        (composer.standing depth more rest) ∧ List.Forall₂ Node.Means nodes items.values :=
  match items with
  | .last item gap => by
      rw [Items.tokens] at enough
      obtain ⟨token, others, same, starts⟩ := item.exists_tokens
      have filled : 0 < item.tokens.length := by rw [same]; exact Nat.succ_pos _
      obtain ⟨fuel, rfl⟩ : ∃ left, fuel = left + 2 := Nat.exists_eq_add_of_le' (by omega)
      have left : 2 * item.tokens.length ≤ fuel + 1 := by omega
      obtain ⟨node, more, read, means⟩ :=
        item.composed false labels (.flowSequenceEnd :: rest) portable.1 admits shallow left
      refine ⟨[node], more, ?_, .cons means .nil⟩
      rw [Items.tokens]
      rw [same] at read ⊢
      exact reads_item starts read reads_items_end
  | .more item gap next others => by
      obtain ⟨portableItem, _, _, portableOthers⟩ := portable
      obtain ⟨shallowItem, shallowOthers⟩ : depth + item.depth ≤ deepest ∧
          depth + others.depth ≤ deepest := by
        rw [Items.depth] at shallow
        omega
      simp only [Items.tokens, List.length_cons, List.length_append] at enough
      obtain ⟨token, tail, same, starts⟩ := item.exists_tokens
      obtain ⟨fuel, rfl⟩ : ∃ left, fuel = left + 1 := Nat.exists_eq_add_of_le' (by omega)
      obtain ⟨left, leftOthers⟩ : 2 * item.tokens.length ≤ fuel ∧
        2 * others.tokens.length < fuel := by omega
      obtain ⟨node, between, read, means⟩ := item.composed false labels
        (.flowEntry :: (others.tokens ++ .flowSequenceEnd :: rest)) portableItem admits shallowItem
        left
      obtain ⟨nodes, more, readOthers, meanOthers⟩ :=
        others.composed false between rest portableOthers admits shallowOthers leftOthers
      refine ⟨node :: nodes, more, ?_, .cons means meanOthers⟩
      rw [Items.tokens, List.append_assoc]
      rw [same] at read ⊢
      exact reads_item starts read readOthers

theorem Members.composed (members : Members) {depth fuel : Nat} (first : Bool) (labels : Nat)
    (rest : List Token) (portable : members.IsPortable)
    (admits : composer.room.Admits deepest) (shallow : depth + members.depth ≤ deepest)
    (enough : 2 * members.tokens.length < fuel) :
    ∃ entries more, Reads (flowPairs first fuel)
        (composer.standing depth labels
          (commaUnless first ++ (members.tokens ++ .flowMappingEnd :: rest))) entries
        (composer.standing depth more rest) ∧
      List.Forall₂ Node.MeansEntry entries members.entries :=
  match members with
  | .last key value gap => by
      obtain ⟨_, portableValue, _⟩ := portable
      simp only [Members.tokens, List.length_cons] at enough
      obtain ⟨token, tail, same, starts⟩ := value.exists_tokens
      obtain ⟨fuel, rfl⟩ : ∃ left, fuel = left + 4 := Nat.exists_eq_add_of_le' (by omega)
      have left : 2 * value.tokens.length ≤ fuel + 1 := by omega
      obtain ⟨node, more, read, means⟩ :=
        value.composed false labels (.flowMappingEnd :: rest) portableValue admits shallow left
      refine ⟨[_], more, ?_, .cons (.mk key.letters.value means) .nil⟩
      rw [Members.tokens]
      rw [same] at read ⊢
      exact reads_member starts read reads_pairs_end
  | .more key value gap next others => by
      obtain ⟨_, portableValue, _, _, portableOthers⟩ := portable
      obtain ⟨shallowValue, shallowOthers⟩ : depth + value.depth ≤ deepest ∧
          depth + others.depth ≤ deepest := by
        rw [Members.depth] at shallow
        omega
      simp only [Members.tokens, List.length_cons, List.length_append] at enough
      obtain ⟨token, tail, same, starts⟩ := value.exists_tokens
      obtain ⟨fuel, rfl⟩ : ∃ left, fuel = left + 4 := Nat.exists_eq_add_of_le' (by omega)
      obtain ⟨left, leftOthers⟩ : 2 * value.tokens.length ≤ fuel + 1 ∧
        2 * others.tokens.length < fuel + 3 := by omega
      obtain ⟨node, between, read, means⟩ := value.composed false labels
        (.flowEntry :: (others.tokens ++ .flowMappingEnd :: rest)) portableValue admits shallowValue
        left
      obtain ⟨entries, more, readOthers, meanOthers⟩ :=
        others.composed false between rest portableOthers admits shallowOthers leftOthers
      refine ⟨_ :: entries, more, ?_, .cons (.mk key.letters.value means) meanOthers⟩
      simp only [Members.tokens, List.cons_append, List.append_assoc]
      rw [same] at read ⊢
      exact reads_member starts read readOthers

end

theorem reads_no_document_end {fuel depth labels : Nat} :
    Reads (skipDocumentEnds fuel) (composer.standing depth labels []) ()
      (composer.standing depth labels []) := by
  cases fuel <;> rfl

/-- The tokens of a value alone are a document of their own. -/
theorem Tree.composed_alone (tree : Tree) {room : Room} (portable : tree.IsPortable)
    (admits : room.Admits deepest) (shallow : tree.depth ≤ deepest) :
    ∃ node, Node.ofTokens? room ⟨tree.tokens, none⟩ = .ok (some node) ∧ node.Means tree.value := by
  let bare : Composer := { tokens := tree.tokens, ending := none, room }
  let ready : Composer := { bare with handles := standardHandles }
  let fuel := 4 * tree.tokens.length + 8
  obtain ⟨node, more, read, means⟩ : ∃ node more, Reads (Compose.node true false fuel)
      (ready.standing 0 0 (tree.tokens ++ [])) node (ready.standing 0 more []) ∧
        node.Means tree.value :=
    tree.composed true 0 [] portable admits (by omega) (by omega)
  obtain ⟨token, others, same, starts⟩ := tree.exists_tokens
  rw [same, List.append_nil] at read
  refine ⟨node, ?_, means⟩
  have composed : Reads (Compose.document fuel) (bare.standing 0 0 (token :: others)) (some node)
      (ready.standing 0 more []) := by
    rw [Compose.document]
    refine .bind reads_peek ?_
    cases starts <;>
      exact .bind (.pure false _) (.bind reads_peek (.bind rfl (.bind read
        (.bind reads_no_document_end (.bind reads_peek (.pure _ _))))))
  have run : (Compose.document fuel).run bare = .ok (some node, ready.standing 0 more []) := by
    rw [← same] at composed
    exact composed
  simp only [Node.ofTokens?]
  rw [run]

/-- A portable text that is a collection means the same as YAML. -/
theorem Document.loads (document : Document) {room : Room}
    (portable : document.IsPortable deepest) (admits : room.Admits deepest)
    (deep : 0 < document.root.depth) :
    Yaml.Document.load room ⟨document.text, none⟩ = .ok document.value := by
  obtain ⟨node, composed, means⟩ :=
    document.root.composed_alone portable.root admits portable.shallow
  rw [Yaml.Document.load, Yaml.Document.loadAs, document.tokens portable deep, composed]
  exact Document.of_node_means means

end Stubwright.Json
