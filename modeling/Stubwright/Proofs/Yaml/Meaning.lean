import Mathlib.Data.List.Forall2
import Stubwright.Proofs.Yaml.NumeralValue
import Stubwright.Proofs.Yaml.Stuck

/-!
What the nodes of JSON values mean: a collection of nodes that mean something means the collection
of their values, and a plain scalar that is a word or a numeral means what it stands for.
-/

namespace Stubwright.Yaml

open Json

/-- What a node means: the value that comes of building it at whatever level it stands, with enough
fuel for its depth. -/
def Node.Means (node : Node) (value : Value) : Prop :=
  ∀ fuel level, node.depth ≤ fuel →
    Document.build Document.unnamed fuel level node = .ok value

inductive Node.MeansEntry : Node × Node → Value × Value → Prop where
  | mk (text : Text) {node : Node} {value : Value} (means : node.Means value) :
      MeansEntry (.scalar .str text, node) (.str text, value)

namespace Document

variable {node : Node} {value : Value}

theorem build_all_ok {α β : Type} {build : α → Built β} {items : List α} {values : List β}
    (all : List.Forall₂ (fun item value => build item = .ok value) items values) :
    buildAll build items = .ok values := by
  induction all with
  | nil => rfl
  | cons built _ ih => rw [buildAll, built, ih, Built.both]

theorem of_node_means (means : node.Means value) : ofNode unnamed node = .ok value := by
  rw [ofNode, means node.depth 0 (Nat.le_refl _)]

end Document

namespace Node

variable {node item : Node} {entry : Node × Node} {value : Value} {tag : Tag} {text : Text}
  {items : List Node} {values : List Value} {entries : List (Node × Node)}
  {pairs : List (Value × Value)}

theorem depth_item (member : item ∈ items) : item.depth ≤ depthOfItems items := by
  induction items with
  | nil => cases member
  | cons first items ih =>
      rw [depthOfItems]
      rcases List.mem_cons.1 member with rfl | member
      · exact Nat.le_max_left ..
      · exact Nat.le_trans (ih member) (Nat.le_max_right ..)

theorem depth_entry (member : entry ∈ entries) :
    entry.1.depth ≤ depthOfEntries entries ∧ entry.2.depth ≤ depthOfEntries entries := by
  induction entries with
  | nil => cases member
  | cons first entries ih =>
      rw [depthOfEntries]
      rcases List.mem_cons.1 member with rfl | member
      · omega
      · have := ih member
        omega

theorem scalar_means (known : Scalar.value tag text = .ok value) :
    (scalar tag text).Means value := by
  intro fuel level enough
  obtain ⟨fuel, rfl⟩ : ∃ left, fuel = left + 1 := Nat.exists_eq_add_of_le' enough
  cases tag with
  | seq | map | set | omap | pairs | merge | value | unknown => cases known
  | _ => simp [Document.build, Node.tag, scalarText?, isScalar, known, Document.lift]

theorem sequence_means (all : List.Forall₂ Means items values) :
    (sequence .seq items).Means (.list values) := by
  intro fuel level enough
  obtain ⟨fuel, rfl⟩ : ∃ left, fuel = left + 1 :=
    Nat.exists_eq_add_of_le' (Nat.le_of_add_left_le enough)
  rw [depth] at enough
  have built : List.Forall₂ (fun item value =>
      Document.build Document.unnamed fuel (level + 1) item = .ok value) items values :=
    ((List.forall₂_and_left items values).2 ⟨fun _ => id, all⟩).imp fun item value both =>
      both.2 fuel _ (Nat.le_trans (depth_item both.1) (by omega))
  simp only [Document.build, Node.tag, items?, Document.lift, bind, Except.bind,
    Document.build_all_ok built]
  rfl

/-- No key that is a string merges another mapping. -/
theorem flatten_entries (all : List.Forall₂ MeansEntry entries pairs) :
    flatten entries = .ok ([], entries) := by
  induction all with
  | nil => rfl
  | cons means _ ih =>
      cases means
      simp [flatten, Node.tag, ih, bind, Except.bind, pure, Except.pure]

theorem MeansEntry.built {pair : Value × Value} (means : MeansEntry entry pair) (fuel level : Nat)
    (shallow : entry.1.depth ≤ fuel ∧ entry.2.depth ≤ fuel) :
    Built.both Prod.mk
      (if entry.1.isKey then Document.build Document.unnamed fuel level entry.1
        else Document.fail level .malformed)
      (Document.build Document.unnamed fuel level entry.2) = .ok pair := by
  cases means with
  | @mk text node value means =>
      have key : (scalar .str text).Means (.str text) := scalar_means rfl
      have isKey : (scalar .str text).isKey = true := rfl
      rw [if_pos isKey, key fuel level shallow.1, means fuel level shallow.2, Built.both]

theorem mapping_means (label : Nat) (all : List.Forall₂ MeansEntry entries pairs) :
    (mapping label .map entries).Means (Value.ofEntries pairs) := by
  intro fuel level enough
  obtain ⟨fuel, rfl⟩ : ∃ left, fuel = left + 1 :=
    Nat.exists_eq_add_of_le' (Nat.le_of_add_left_le enough)
  rw [depth] at enough
  have built := ((List.forall₂_and_left entries pairs).2 ⟨fun _ => id, all⟩).imp
    fun entry pair both => both.2.built fuel (level + 1)
      (And.imp (Nat.le_trans · (by omega)) (Nat.le_trans · (by omega)) (depth_entry both.1))
  simp only [Document.build, Node.tag, entries?, flatten_entries all, Document.lift, bind,
    Except.bind, pure, Except.pure, List.nil_append, Document.build_all_ok built]
  rfl

end Node

/-! ### Scalars -/

section

variable {chars : List Char} {value : Value}

theorem word_means (known : (chars, value) ∈ words)
    (portable : (Tree.word chars value known).IsPortable) :
    (Node.scalar (.ofText (.ofChars chars)) (.ofChars chars)).Means value := by
  refine Node.scalar_means ?_
  simp only [words, List.mem_cons, Prod.mk.injEq, List.not_mem_nil, or_false] at known
  rcases known with ⟨rfl, rfl⟩ | ⟨rfl, rfl⟩ | ⟨rfl, rfl⟩ | ⟨rfl, rfl⟩ | ⟨rfl, rfl⟩ | ⟨rfl, rfl⟩
  · rfl
  · rfl
  · rfl
  · rcases portable with same | ⟨_, same⟩ <;> cases same
  · rcases portable with same | ⟨_, same⟩ <;> cases same
  · rcases portable with same | ⟨_, same⟩ <;> cases same

theorem numeral_means (numeral : Numeral) (portable : numeral.IsPortable) :
    (Node.scalar (.ofText (.ofChars numeral.text)) (.ofChars numeral.text)).Means
      numeral.value := by
  refine Node.scalar_means ?_
  have numeric := numeral_text_chars numeral
  by_cases noFraction : numeral.fraction = []
  · have noExponent : numeral.exponent = none :=
      Option.eq_none_iff_forall_not_mem.2 fun exponent among =>
        (portable exponent among).1 noFraction
    rw [tag_int numeric (not_float_whole numeral noFraction noExponent)
      (is_int_whole numeral noFraction noExponent)]
    exact int_whole numeral noFraction noExponent
  · rw [tag_float numeric (is_float_pointed numeral portable noFraction)]
    exact float_pointed numeral noFraction

end

end Stubwright.Yaml
