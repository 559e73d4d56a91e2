import Stubwright.Proofs.File.Held
import Stubwright.Proofs.Yaml.Composing

/-!
A portable JSON text in a file. No character of it is kept out of YAML or changed on the way, so the
file has the value that the text has as JSON.
-/

namespace Stubwright

namespace Json

def IsReadable (c : Char) : Prop := Yaml.isAllowed c = true ∧ c ≠ '\r'

instance (c : Char) : Decidable (IsReadable c) := inferInstanceAs (Decidable (_ ∧ _))

theorem IsInline.readable {c : Char} (inline : IsInline c) : IsReadable c :=
  ⟨inline.allowed, inline.notReturn⟩

theorem Gap.readable {gap : Gap} (portable : gap.IsPortable) : ∀ c ∈ gap.chars, IsReadable c := by
  intro c among
  rcases portable c among with rfl | rfl <;> decide

theorem Letters.readable {letters : Letters} (portable : letters.IsPortable) :
    ∀ c ∈ letters.text, IsReadable c :=
  fun c among => (Letters.inline portable c among).readable

theorem Numeral.readable (numeral : Numeral) : ∀ c ∈ numeral.text, IsReadable c := by
  have known : ∀ c ∈ Yaml.numeralChars, IsReadable c := List.all_iff_forall_prop.1 (by decide)
  exact fun c among => known c (Yaml.numeral_text_chars numeral c among)

theorem word_readable {chars : List Char} {value : Value} (known : (chars, value) ∈ words) :
    ∀ c ∈ chars, IsReadable c := by
  have all : ∀ word ∈ words, (word.1.all fun c => decide (IsReadable c)) = true := by decide
  exact List.all_iff_forall_prop.1 (all _ known)

theorem Key.readable {key : Key} (portable : key.IsPortable) : ∀ c ∈ key.text, IsReadable c := by
  simp only [Key.text, List.forall_mem_append, List.forall_mem_cons]
  refine ⟨Letters.readable portable.letters, fun c blank => ?_, by decide,
    Gap.readable portable.after⟩
  rw [portable.before c blank]
  decide

mutual

theorem Tree.readable (tree : Tree) (portable : tree.IsPortable) :
    ∀ c ∈ tree.text, IsReadable c :=
  match tree with
  | .word chars value known => word_readable known
  | .number numeral => numeral.readable
  | .string letters => Letters.readable portable
  | .emptyArray gap => by
      simp only [Tree.text, List.forall_mem_append, List.forall_mem_cons, List.not_mem_nil,
        false_implies, implies_true, and_true]
      exact ⟨by decide, Gap.readable portable, by decide⟩
  | .array gap items => by
      simp only [Tree.text, List.forall_mem_append, List.forall_mem_cons, List.not_mem_nil,
        false_implies, implies_true, and_true]
      exact ⟨by decide, Gap.readable portable.1, items.readable portable.2, by decide⟩
  | .emptyObject gap => by
      simp only [Tree.text, List.forall_mem_append, List.forall_mem_cons, List.not_mem_nil,
        false_implies, implies_true, and_true]
      exact ⟨by decide, Gap.readable portable, by decide⟩
  | .object gap members => by
      simp only [Tree.text, List.forall_mem_append, List.forall_mem_cons, List.not_mem_nil,
        false_implies, implies_true, and_true]
      exact ⟨by decide, Gap.readable portable.1, members.readable portable.2, by decide⟩

theorem Items.readable (items : Items) (portable : items.IsPortable) :
    ∀ c ∈ items.text, IsReadable c :=
  match items with
  | .last item after => by
      simp only [Items.text, List.forall_mem_append]
      exact ⟨item.readable portable.1, Gap.readable portable.2⟩
  | .more item after next others => by
      obtain ⟨portableItem, portableAfter, portableNext, portableOthers⟩ := portable
      simp only [Items.text, List.forall_mem_append, List.forall_mem_cons]
      exact ⟨item.readable portableItem, Gap.readable portableAfter, by decide,
        Gap.readable portableNext, others.readable portableOthers⟩

theorem Members.readable (members : Members) (portable : members.IsPortable) :
    ∀ c ∈ members.text, IsReadable c :=
  match members with
  | .last key value after => by
      obtain ⟨portableKey, portableValue, portableAfter⟩ := portable
      simp only [Members.text, List.forall_mem_append]
      exact ⟨Key.readable portableKey, value.readable portableValue, Gap.readable portableAfter⟩
  | .more key value after next others => by
      obtain ⟨portableKey, portableValue, portableAfter, portableNext, portableOthers⟩ := portable
      simp only [Members.text, List.forall_mem_append, List.forall_mem_cons]
      exact ⟨Key.readable portableKey, value.readable portableValue, Gap.readable portableAfter,
        by decide, Gap.readable portableNext, others.readable portableOthers⟩

end

theorem Document.readable (document : Document) {deepest : Nat}
    (portable : document.IsPortable deepest) :
    ∀ c ∈ document.text, IsReadable c := by
  simp only [Document.text, List.forall_mem_append]
  exact ⟨Gap.readable portable.before, document.root.readable portable.root,
    Gap.readable portable.after⟩

end Json

/-- A text that YAML allows comes out of its file as it is. -/
theorem FileContent.stream_encoded (text : List Char) (readable : ∀ c ∈ text, Json.IsReadable c) :
    stream (Text.encodeChars text) = ⟨text, none⟩ := by
  have noReturn : '\r' ∉ text := fun among => (readable '\r' among).2 rfl
  rw [stream_text (Text.decode_encoded text), Pieces.unify_breaks_none noReturn]
  exact Yaml.Stream.of_chars_allowed fun c among => (readable c among).1

/-- A file with a portable text that is a collection has the value of the text as JSON. -/
theorem FileContent.yaml_portable (document : Json.Document) {deepest : Nat} {room : Yaml.Room}
    (portable : document.IsPortable deepest) (admits : room.Admits deepest)
    (deep : 0 < document.root.depth) :
    yaml room (.octets (Text.encodeChars document.text)) = .ok document.value := by
  rw [yaml_octets, stream_encoded document.text (document.readable portable),
    document.loads portable admits deep]
  rfl

end Stubwright
