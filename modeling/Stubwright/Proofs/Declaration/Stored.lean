import Mathlib.Data.List.DropRight
import Stubwright.Proofs.Declaration.ReadBack

/-!
Metadata that is spelled out in full and read again. Data can give types in their written form,
constants as a mapping and values bare; whatever was read from it, the tagged spelling of the result
is read as that result again. So reading leaves nothing in metadata that a second reading would take
for something else.
-/

namespace Stubwright

open Value

namespace Checked

variable {α β : Type}

theorem map_eq_valid {f : α → β} {x : Checked α} {result : β} :
    f <$> x = .valid result ↔ ∃ value, x = .valid value ∧ f value = result := by
  cases x with
  | valid value =>
      change Checked.valid (f value) = _ ↔ _
      simp
  | invalid issues =>
      change Checked.invalid issues = _ ↔ _
      simp

theorem seq_eq_valid {f : Checked (α → β)} {x : Checked α} {result : β} :
    f <*> x = .valid result ↔
      ∃ function, f = .valid function ∧ ∃ value, x = .valid value ∧ function value = result := by
  change apply f x = _ ↔ _
  cases f <;> cases x <;> simp [apply]

theorem within_eq_valid {step : Step} {x : Checked α} {result : α} :
    x.within step = .valid result ↔ x = .valid result := by
  cases x <;> simp [within]

end Checked

open Checked (map_eq_valid seq_eq_valid within_eq_valid)

namespace Value

variable {α : Type} {read : Value → Checked α} {entries : Entries} {name : Text}

theorem as_model_map {model : Text} {read : Entries → Checked α} :
    asModel model read (.map entries) = read entries := rfl

theorem as_model_valid {model : Text} {read : Entries → Checked α} {data : Value} {result : α}
    (valid : asModel model read data = .valid result) :
    ∃ entries, data.unfolded = .map entries ∧ read entries = .valid result := by
  rw [asModel] at valid
  split at valid
  case h_1 entries unfolded => exact ⟨entries, unfolded, valid⟩
  case h_2 => cases valid

theorem required_field_valid {result : α}
    (valid : requiredField entries name read = .valid result) :
    ∃ value, read value = .valid result := by
  rw [requiredField, within_eq_valid] at valid
  split at valid
  case h_1 value found => exact ⟨value, valid⟩
  case h_2 => cases valid

theorem field_or_valid {fallback result : α}
    (valid : fieldOr entries name fallback read = .valid result) :
    result = fallback ∨ ∃ value, read value = .valid result := by
  rw [fieldOr] at valid
  split at valid
  case h_1 value found => exact .inr ⟨value, within_eq_valid.1 valid⟩
  case h_2 =>
    cases valid
    exact .inl rfl

theorem read_items_valid {items : List Value} {position : Nat} {results : List α}
    (valid : readItems read position items = .valid results) :
    ∀ result ∈ results, ∃ value, read value = .valid result := by
  induction items generalizing position results with
  | nil =>
      cases valid
      simp
  | cons item items ih =>
      simp only [readItems, seq_eq_valid, map_eq_valid, within_eq_valid] at valid
      obtain ⟨_, ⟨first, read_first, rfl⟩, later, read_later, rfl⟩ := valid
      intro result member
      rcases List.mem_cons.1 member with rfl | member
      · exact ⟨item, read_first⟩
      · exact ih read_later result member

theorem as_list_valid {data : Value} {results : List α}
    (valid : asList read data = .valid results) :
    ∀ result ∈ results, ∃ value, read value = .valid result := by
  rw [asList] at valid
  split at valid
  case h_1 => exact read_items_valid valid
  case h_2 => exact read_items_valid valid
  case h_3 => exact read_items_valid valid
  case h_4 => cases valid

/-- What holds of everything that an item can be read as holds of the items of a field, which may
be left out. -/
theorem field_list_valid {holds : α → Prop}
    (each : ∀ data result, read data = .valid result → holds result) {results : List α}
    (valid : fieldOr entries name [] (asList read) = .valid results) :
    ∀ result ∈ results, holds result := by
  intro result among
  rcases field_or_valid valid with rfl | ⟨value, listed⟩
  · cases among
  · obtain ⟨data, given⟩ := as_list_valid listed result among
    exact each data result given

theorem as_optional_valid {data : Value} {result : Option α}
    (valid : asOptional read data = .valid result) :
    ∀ inner ∈ result, ∃ value, read value = .valid inner := by
  cases data with
  | null =>
      cases valid
      simp
  | _ =>
      obtain ⟨inner, given, rfl⟩ := map_eq_valid.1 valid
      rintro _ ⟨⟩
      exact ⟨_, given⟩

theorem as_tagged_valid {models : List (Text × (Value → Checked α))} {data : Value} {result : α}
    (valid : asTagged models data = .valid result) :
    ∃ model ∈ models, ∃ inner, model.2 inner = .valid result := by
  simp only [asTagged] at valid
  split at valid
  case h_1 entries unfolded =>
    split at valid
    case h_1 => cases valid
    case h_2 tag found =>
      split at valid
      case h_1 word =>
        split at valid
        case h_1 read known =>
          obtain ⟨before, after, rfl, -⟩ := List.lookup_eq_some_iff.1 known
          exact ⟨(word, read), by simp, .map entries, within_eq_valid.1 valid⟩
        case h_2 => cases valid
      case h_2 => cases valid
  case h_2 => cases valid

end Value

namespace SingleType

theorem read_builtin_valid {data : Value} {type : SingleType}
    (valid : readBuiltin data = .valid type) : ∃ name nullable, type = .builtin name nullable := by
  obtain ⟨entries, -, fields⟩ := as_model_valid valid
  simp only [seq_eq_valid, map_eq_valid] at fields
  obtain ⟨_, ⟨_, ⟨_, _, rfl⟩, name, _, rfl⟩, nullable, _, rfl⟩ := fields
  exact ⟨name, nullable, rfl⟩

theorem read_named_valid {data : Value} {type : SingleType}
    (valid : readNamed data = .valid type) :
    ∃ name nullable, type = .named name nullable ∧ QualifiedName.bare name = name := by
  obtain ⟨entries, -, fields⟩ := as_model_valid valid
  simp only [seq_eq_valid, map_eq_valid] at fields
  obtain ⟨_, ⟨_, ⟨_, _, rfl⟩, name, _, rfl⟩, nullable, _, rfl⟩ := fields
  exact ⟨QualifiedName.bare name, nullable, rfl, QualifiedName.bare_bare name⟩

end SingleType

namespace TypeRef

theorem read_intersection_valid {data : Value} {members : List Conjunct}
    (valid : readIntersection data = .valid members) : ∀ member ∈ members, member.IsBare := by
  obtain ⟨entries, -, fields⟩ := as_model_valid valid
  simp only [seq_eq_valid, map_eq_valid] at fields
  obtain ⟨_, ⟨_, _, rfl⟩, _, given, rfl⟩ := fields
  obtain ⟨value, given⟩ := required_field_valid given
  intro member among
  obtain ⟨value, given⟩ := as_list_valid given member among
  obtain ⟨type, named, rfl⟩ := map_eq_valid.1 given
  obtain ⟨name, nullable, rfl, bare⟩ := SingleType.read_named_valid named
  exact bare

theorem read_alternative_valid {data : Value} {member : Alternative}
    (valid : readAlternative data = .valid member) : member.IsBare := by
  obtain ⟨model, known, _, given⟩ := as_tagged_valid valid
  simp only [List.mem_cons, List.not_mem_nil, or_false] at known
  rcases known with rfl | rfl | rfl
  · obtain ⟨type, single, rfl⟩ := map_eq_valid.1 given
    obtain ⟨name, nullable, rfl⟩ := SingleType.read_builtin_valid single
    exact trivial
  · obtain ⟨type, single, rfl⟩ := map_eq_valid.1 given
    obtain ⟨name, nullable, rfl, bare⟩ := SingleType.read_named_valid single
    exact bare
  · obtain ⟨members, several, rfl⟩ := map_eq_valid.1 given
    exact read_intersection_valid several

theorem read_union_valid {data : Value} {members : List Alternative}
    (valid : readUnion data = .valid members) : ∀ member ∈ members, member.IsBare := by
  obtain ⟨entries, -, fields⟩ := as_model_valid valid
  simp only [seq_eq_valid, map_eq_valid] at fields
  obtain ⟨_, ⟨_, _, rfl⟩, _, given, rfl⟩ := fields
  obtain ⟨value, given⟩ := required_field_valid given
  intro member among
  obtain ⟨value, given⟩ := as_list_valid given member among
  exact read_alternative_valid given

theorem read_tagged_valid {data : Value} {type : TypeRef}
    (valid : readTagged data = .valid type) : type.IsBare := by
  obtain ⟨model, known, _, given⟩ := as_tagged_valid valid
  simp only [List.mem_cons, List.not_mem_nil, or_false] at known
  rcases known with rfl | rfl | rfl | rfl
  · obtain ⟨type, single, rfl⟩ := map_eq_valid.1 given
    obtain ⟨name, nullable, rfl⟩ := SingleType.read_builtin_valid single
    exact trivial
  · obtain ⟨type, single, rfl⟩ := map_eq_valid.1 given
    obtain ⟨name, nullable, rfl, bare⟩ := SingleType.read_named_valid single
    exact bare
  · obtain ⟨members, several, rfl⟩ := map_eq_valid.1 given
    exact read_intersection_valid several
  · obtain ⟨members, several, rfl⟩ := map_eq_valid.1 given
    exact read_union_valid several

theorem single_of_text_bare (name : Text) (nullable : Bool) :
    (SingleType.ofText name nullable).IsBare := by
  unfold SingleType.ofText
  dsimp only
  split
  · exact trivial
  · exact QualifiedName.bare_bare name

theorem conjuncts_bare (text : Text) : ∀ member ∈ conjuncts text, member.IsBare := by
  intro member among
  obtain ⟨part, -, rfl⟩ := List.mem_map.1 among
  exact QualifiedName.bare_bare _

theorem alternative_bare (text : Text) : (alternative text).IsBare := by
  unfold alternative
  split
  · exact conjuncts_bare text
  · exact single_of_text_bare text false

theorem of_text_bare (text : Text) : (ofText text).IsBare := by
  unfold ofText
  dsimp only
  split
  · split
    · exact conjuncts_bare _
    · exact single_of_text_bare _ _
  · intro member among
    obtain ⟨part, -, rfl⟩ := List.mem_map.1 among
    exact alternative_bare part

theorem read_field_valid {data : Value} {type : Option TypeRef}
    (valid : readField data = .valid type) : ∀ given ∈ type, given.IsBare := by
  unfold readField at valid
  split at valid
  · cases valid
    rintro _ ⟨⟩
    exact of_text_bare _
  · intro given among
    obtain ⟨value, tagged⟩ := as_optional_valid valid given among
    exact read_tagged_valid tagged

end TypeRef

namespace ValueRef

theorem read_literal_valid {data : Value} {value : ValueRef}
    (valid : readLiteral data = .valid value) : ∃ inner, value = .literal inner := by
  obtain ⟨entries, -, fields⟩ := as_model_valid valid
  simp only [seq_eq_valid, map_eq_valid] at fields
  obtain ⟨_, ⟨_, _, rfl⟩, inner, _, rfl⟩ := fields
  exact ⟨inner, rfl⟩

theorem read_unresolved_valid {data : Value} {value : ValueRef}
    (valid : readUnresolved data = .valid value) :
    ∃ expression, value = .unresolved expression := by
  obtain ⟨entries, -, fields⟩ := as_model_valid valid
  simp only [seq_eq_valid, map_eq_valid] at fields
  obtain ⟨_, ⟨_, _, rfl⟩, expression, _, rfl⟩ := fields
  exact ⟨expression, rfl⟩

theorem read_tagged_valid {data : Value} {value : ValueRef}
    (valid : readTagged data = .valid value) : value.IsChecked := by
  obtain ⟨model, known, _, given⟩ := as_tagged_valid valid
  simp only [List.mem_cons, List.not_mem_nil, or_false] at known
  rcases known with rfl | rfl
  · obtain ⟨inner, rfl⟩ := read_literal_valid given
    exact trivial
  · obtain ⟨expression, rfl⟩ := read_unresolved_valid given
    exact trivial

theorem read_valid {data : Value} {value : ValueRef} (valid : read data = .valid value) :
    value.IsChecked := by
  rw [read] at valid
  split at valid
  · exact read_tagged_valid valid
  · cases valid
    exact trivial

end ValueRef

theorem Constant.read_valid {data : Value} {constant : Constant}
    (valid : Constant.read data = .valid constant) : constant.value.IsChecked := by
  obtain ⟨entries, -, fields⟩ := as_model_valid valid
  simp only [seq_eq_valid, map_eq_valid] at fields
  obtain ⟨_, ⟨name, _, rfl⟩, value, given, rfl⟩ := fields
  obtain ⟨data, given⟩ := required_field_valid given
  exact ValueRef.read_valid given

theorem Constant.read_all_valid {data : Value} {constants : List Constant}
    (valid : Constant.readAll data = .valid constants) :
    ∀ constant ∈ constants, constant.value.IsChecked := by
  intro constant among
  obtain ⟨data, given⟩ := as_list_valid valid constant among
  exact Constant.read_valid given

def Restores {α : Type} (read : Value → Checked α) (spell : α → Value) : Prop :=
  ∀ data result, read data = .valid result → read (spell result) = .valid result

/-- A field that is left out takes a value that no reader has seen. -/
theorem Restores.field {α : Type} {read : Value → Checked α} {spell : α → Value}
    (restores : Restores read spell) {entries : Entries} {name : Text} {fallback result : α}
    (unseen : read (spell fallback) = .valid fallback)
    (valid : fieldOr entries name fallback read = .valid result) :
    read (spell result) = .valid result := by
  rcases field_or_valid valid with rfl | ⟨data, given⟩
  · exact unseen
  · exact restores data result given

namespace Spelling

theorem restores_types : Restores TypeRef.readField tagged.typeOrNull := by
  intro data type valid
  cases type with
  | none => rfl
  | some type => exact TypeRef.read_field_tagged type (TypeRef.read_field_valid valid type rfl)

theorem restores_defaults : Restores ValueRef.readDefault tagged.default := by
  intro data default valid
  apply ValueRef.read_default_tagged
  intro value given
  obtain ⟨data, read⟩ := as_optional_valid valid value given
  exact ValueRef.read_valid read

theorem restores_constants : Restores Constant.readAll tagged.constants := by
  intro data constants valid
  exact Constant.read_all_tagged constants (Constant.read_all_valid valid)

theorem restores_parameter {data : Value} {parameter : Parameter}
    (valid : Parameter.read data = .valid parameter) : tagged.RestoresParameter parameter := by
  obtain ⟨entries, -, fields⟩ := as_model_valid valid
  simp only [seq_eq_valid, map_eq_valid] at fields
  -- One part of the pattern for each field, in their order; only those that spellings give in
  -- different ways are looked at.
  obtain ⟨_, ⟨_, ⟨_, ⟨_, ⟨_, ⟨_, _, rfl⟩, _, typed, rfl⟩, _, _, rfl⟩, _, _, rfl⟩, _, _, rfl⟩,
    _, given, rfl⟩ := fields
  exact ⟨restores_types.field rfl typed, restores_defaults.field rfl given⟩

theorem restores_signature {entries : Entries} {function : Function}
    (valid : Function.readFields entries = .valid function) : tagged.RestoresFunction function := by
  simp only [Function.readFields, seq_eq_valid, map_eq_valid] at valid
  obtain ⟨_, ⟨_, ⟨_, ⟨_, _, rfl⟩, _, _, rfl⟩, _, passed, rfl⟩, _, typed, rfl⟩ := valid
  have parameters := field_list_valid (fun _ _ => restores_parameter) passed
  exact ⟨parameters, restores_types.field rfl typed⟩

theorem restores_function_read {data : Value} {function : Function}
    (valid : Function.read data = .valid function) : tagged.RestoresFunction function := by
  obtain ⟨entries, -, fields⟩ := as_model_valid valid
  exact restores_signature fields

theorem restores_method {data : Value} {method : Method}
    (valid : Method.read data = .valid method) : tagged.RestoresFunction method.toFunction := by
  obtain ⟨entries, -, fields⟩ := as_model_valid valid
  simp only [seq_eq_valid, map_eq_valid] at fields
  obtain ⟨_, ⟨_, ⟨_, ⟨_, ⟨_, ⟨function, signature, rfl⟩, _, _, rfl⟩, _, _, rfl⟩, _, _, rfl⟩, _, _,
    rfl⟩, _, _, rfl⟩ := fields
  exact restores_signature signature

theorem restores_property {data : Value} {property : Property}
    (valid : Property.read data = .valid property) : tagged.RestoresProperty property := by
  obtain ⟨entries, -, fields⟩ := as_model_valid valid
  simp only [seq_eq_valid, map_eq_valid] at fields
  obtain ⟨_, ⟨_, ⟨_, ⟨_, ⟨_, _, rfl⟩, _, _, rfl⟩, _, _, rfl⟩, _, _, rfl⟩, type, typed, rfl⟩ :=
    fields
  exact ⟨restores_types.field rfl typed⟩

theorem restores_class_read {data : Value} {declared : ClassLike}
    (valid : ClassLike.read data = .valid declared) : tagged.RestoresClass declared := by
  obtain ⟨entries, -, fields⟩ := as_model_valid valid
  simp only [seq_eq_valid, map_eq_valid] at fields
  obtain ⟨_, ⟨_, ⟨_, ⟨_, ⟨_, ⟨_, ⟨_, ⟨_, ⟨_, ⟨_, ⟨_, _, rfl⟩, _, _, rfl⟩, _, _, rfl⟩, _, _, rfl⟩,
    _, _, rfl⟩, _, _, rfl⟩, _, _, rfl⟩, _, _, rfl⟩, _, listed, rfl⟩, _, held, rfl⟩, _, had, rfl⟩ :=
    fields
  have properties := field_list_valid (fun _ _ => restores_property) held
  have methods := field_list_valid (fun _ _ => restores_method) had
  exact ⟨restores_constants.field rfl listed, properties, methods⟩

theorem restores_extension_read {data : Value} {extension : Extension}
    (valid : Extension.read data = .valid extension) : tagged.RestoresExtension extension := by
  obtain ⟨entries, -, fields⟩ := as_model_valid valid
  simp only [seq_eq_valid, map_eq_valid] at fields
  obtain ⟨_, ⟨_, ⟨_, ⟨_, ⟨_, _, rfl⟩, _, _, rfl⟩, _, listed, rfl⟩, _, held, rfl⟩, _, had, rfl⟩ :=
    fields
  have functions := field_list_valid (fun _ _ => restores_function_read) held
  have classes := field_list_valid (fun _ _ => restores_class_read) had
  exact ⟨restores_constants.field rfl listed, functions, classes⟩

end Spelling

def Constant.tagged (constant : Constant) : Value :=
  .map [(.str "name", .str constant.name), (.str "value", constant.value.tagged)]

/-- The models that metadata is made of, and the two references that are one of several models. -/
inductive Schema where
  | builtinType
  | namedType
  | intersectionType
  | unionType
  | typeReference
  | literal
  | unresolved
  | valueReference
  | constant
  | parameter
  | function
  | method
  | property
  | classLike
  | extension
  deriving DecidableEq

namespace Schema

def Carrier : Schema → Type
  | builtinType => SingleType
  | namedType => SingleType
  | intersectionType => List Conjunct
  | unionType => List Alternative
  | typeReference => TypeRef
  | literal => ValueRef
  | unresolved => ValueRef
  | valueReference => ValueRef
  | constant => Constant
  | parameter => Parameter
  | function => Function
  | method => Method
  | property => Property
  | classLike => ClassLike
  | extension => Extension

def read : (schema : Schema) → Value → Checked schema.Carrier
  | builtinType => SingleType.readBuiltin
  | namedType => SingleType.readNamed
  | intersectionType => TypeRef.readIntersection
  | unionType => TypeRef.readUnion
  | typeReference => TypeRef.readTagged
  | literal => ValueRef.readLiteral
  | unresolved => ValueRef.readUnresolved
  | valueReference => ValueRef.readTagged
  | constant => Constant.read
  | parameter => Parameter.read
  | function => Function.read
  | method => Method.read
  | property => Property.read
  | classLike => ClassLike.read
  | extension => Extension.read

/-- All fields of a model, with the tags of the types and values in it. A literal's value stands in
the dump as it is. -/
def dump : (schema : Schema) → schema.Carrier → Value
  | builtinType => SingleType.tagged
  | namedType => SingleType.tagged
  | intersectionType => taggedIntersection
  | unionType => fun members => (TypeRef.union members).tagged
  | typeReference => TypeRef.tagged
  | literal => ValueRef.tagged
  | unresolved => ValueRef.tagged
  | valueReference => ValueRef.tagged
  | constant => Constant.tagged
  | parameter => Spelling.tagged.parameter
  | function => Spelling.tagged.function
  | method => Spelling.tagged.method
  | property => Spelling.tagged.property
  | classLike => Spelling.tagged.classLike
  | extension => Spelling.tagged.extension

theorem restores (schema : Schema) : Restores schema.read schema.dump := by
  intro data model valid
  cases schema with
  | builtinType =>
      obtain ⟨name, nullable, rfl⟩ := SingleType.read_builtin_valid valid
      exact SingleType.read_builtin_back name nullable
  | namedType =>
      obtain ⟨name, nullable, rfl, bare⟩ := SingleType.read_named_valid valid
      exact SingleType.read_named_back name nullable bare
  | intersectionType =>
      exact TypeRef.read_intersection_back model (TypeRef.read_intersection_valid valid)
  | unionType => exact TypeRef.read_union_back model (TypeRef.read_union_valid valid)
  | typeReference => exact TypeRef.read_tagged_back model (TypeRef.read_tagged_valid valid)
  | literal =>
      obtain ⟨value, rfl⟩ := ValueRef.read_literal_valid valid
      rfl
  | unresolved =>
      obtain ⟨expression, rfl⟩ := ValueRef.read_unresolved_valid valid
      exact ValueRef.read_unresolved_back expression
  | valueReference => exact ValueRef.read_reference_back model (ValueRef.read_tagged_valid valid)
  | constant =>
      exact Constant.read_back model.name _ model.value
        (ValueRef.read_tagged_back model.value (Constant.read_valid valid))
  | parameter => exact Spelling.read_parameter_back model (Spelling.restores_parameter valid)
  | function => exact Spelling.read_function_back model (Spelling.restores_function_read valid)
  | method => exact Spelling.read_method_back model (Spelling.restores_method valid)
  | property => exact Spelling.read_property_back model (Spelling.restores_property valid)
  | classLike => exact Spelling.read_class_back model (Spelling.restores_class_read valid)
  | extension => exact Spelling.read_restored model (Spelling.restores_extension_read valid)

/-- Whatever data a model was read from, its dump is read as the same model again. -/
theorem read_dump (schema : Schema) (data : Value) (model : schema.Carrier)
    (accepted : schema.read data = .valid model) :
    schema.read (schema.dump model) = .valid model :=
  schema.restores data model accepted

/-- A module written by hand: a bare constant, one whose literal value would itself be taken for an
unresolved value, a written type and a default that is not known. -/
theorem read_dump_by_hand :
    let looksTagged : Value := .map [(.str "kind", .str "unresolved")]
    let data : Value := .map [(.str "name", .str "m"),
      (.str "constants", .map [(.str "A", .int 1),
        (.str "B", .map [(.str "kind", .str "literal"), (.str "value", looksTagged)])]),
      (.str "functions", .tuple [.map [(.str "name", .str "f"), (.str "parameters", .list [
        .map [(.str "name", .str "a"), (.str "type", .str "?\\A"), (.str "default", .null)]])]])]
    let model : Extension :=
      { name := "m", constants := [⟨"A", .literal (.int 1)⟩, ⟨"B", .literal looksTagged⟩]
        functions := [{
          name := "f"
          parameters := [{ name := "a", type := some (.single (.named "A" true)) }] }] }
    extension.read data = .valid model ∧
      extension.read (extension.dump model) = .valid model := by
  intro looksTagged data model
  have accepted : extension.read data = .valid model := rfl
  exact ⟨accepted, read_dump extension data model accepted⟩

end Schema

end Stubwright
