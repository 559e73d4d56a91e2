import Stubwright.Proofs.Declaration.Spelling
import Stubwright.Proofs.TypeRef.RoundTrip
import Stubwright.Stub

/-!
Both spellings of metadata are read back as the metadata itself. What a spelling does with types,
constants and defaults is all that has to be known of it; the other fields are read alike.
-/

namespace Stubwright

open Value

namespace Checked

variable {α β : Type}

theorem map_valid {x : Checked α} {value : α} (f : α → β) (valid : x = .valid value) :
    f <$> x = .valid (f value) := by
  rw [valid]
  rfl

/-- The parts of a model are valid one by one. -/
theorem seq_valid {f : Checked (α → β)} {x : Checked α} {function : α → β} {value : α}
    (before : f = .valid function) (valid : x = .valid value) :
    f <*> x = .valid (function value) := by
  rw [before, valid]
  rfl

end Checked

namespace Value

variable {α : Type}

theorem field_or_found {entries : Entries} {name : Text} {value : Value} {fallback result : α}
    {read : Value → Checked α} (found : lookup? name entries = some value)
    (good : read value = .valid result) : fieldOr entries name fallback read = .valid result := by
  rw [fieldOr, found]
  dsimp only
  rw [good, Checked.within]

theorem required_field_found {entries : Entries} {name : Text} {value : Value} {result : α}
    {read : Value → Checked α} (found : lookup? name entries = some value)
    (good : read value = .valid result) : requiredField entries name read = .valid result := by
  rw [requiredField, found]
  dsimp only
  rw [good, Checked.within]

/-- The tag says which model the value is read as. -/
theorem as_tagged_found {models : List (Text × (Value → Checked α))} {entries : Entries}
    {word : Text} {read : Value → Checked α} {result : α}
    (tag : lookup? "kind" entries = some (.str word)) (known : models.lookup word = some read)
    (good : read (.map entries) = .valid result) :
    asTagged models (.map entries) = .valid result := by
  rw [asTagged, unfolded_map]
  dsimp only
  rw [tag]
  dsimp only
  rw [known]
  dsimp only
  rw [good, Checked.within]

theorem as_optional_text (text : Option Text) :
    asOptional asText (textOrNull text) = .valid text := by
  cases text <;> rfl

theorem read_items_map {read : Value → Checked α} {spell : α → Value} (items : List α)
    (back : ∀ item ∈ items, read (spell item) = .valid item) (position : Nat) :
    readItems read position (items.map spell) = .valid items := by
  induction items generalizing position with
  | nil => rfl
  | cons item items ih =>
      have later := ih (fun other member => back other (by simp [member])) (position + 1)
      rw [List.map_cons, readItems, back item (by simp), later]
      rfl

theorem as_list_map {read : Value → Checked α} {spell : α → Value} (items : List α)
    (back : ∀ item ∈ items, read (spell item) = .valid item) :
    asList read (.list (items.map spell)) = .valid items :=
  read_items_map items back 0

end Value

open Checked (map_valid seq_valid)

/-- Whether types can be told from what they are spelled out as: nothing in them was put in
unchecked, and class names are kept without the mark of the root namespace. -/
def SingleType.IsBare : SingleType → Prop
  | .builtin _ _ => True
  | .named name _ => QualifiedName.bare name = name

def Conjunct.IsBare : Conjunct → Prop
  | .named name _ => QualifiedName.bare name = name
  | .foreign _ => False

def Alternative.IsBare : Alternative → Prop
  | .single type => type.IsBare
  | .intersection members => ∀ member ∈ members, member.IsBare
  | .foreign _ => False

def TypeRef.IsBare : TypeRef → Prop
  | .single type => type.IsBare
  | .intersection members => ∀ member ∈ members, member.IsBare
  | .union members => ∀ member ∈ members, member.IsBare
  | .foreign _ => False

theorem SingleType.IsWellFormed.bare {type : SingleType}
    (wellFormed : type.IsWellFormed IsClassName) : type.IsBare := by
  cases type with
  | builtin name nullable => exact trivial
  | named name nullable => exact bare_of_unrooted name wellFormed.unrooted

theorem Conjunct.IsWellFormed.bare {member : Conjunct}
    (wellFormed : member.IsWellFormed IsClassName) : member.IsBare := by
  cases member with
  | named name nullable => exact bare_of_unrooted name wellFormed.1.unrooted
  | foreign value => exact wellFormed

theorem Alternative.IsWellFormed.bare {member : Alternative}
    (wellFormed : member.IsWellFormed IsClassName) : member.IsBare := by
  cases member with
  | single type => exact wellFormed.1.bare
  | intersection members => exact fun member found => (wellFormed.2 member found).bare
  | foreign value => exact wellFormed

theorem TypeRef.IsWellFormed.bare {type : TypeRef} (wellFormed : type.IsWellFormed IsClassName) :
    type.IsBare := by
  cases type with
  | single type => exact SingleType.IsWellFormed.bare wellFormed
  | intersection members => exact fun member found => (wellFormed.2 member found).bare
  | union members => exact fun member found => (wellFormed.2 member found).bare
  | foreign value => exact wellFormed

namespace SingleType

theorem read_builtin_back (name : Text) (nullable : Bool) :
    readBuiltin (builtin name nullable).tagged = .valid (.builtin name nullable) := rfl

theorem read_named_back (name : Text) (nullable : Bool) (bare : QualifiedName.bare name = name) :
    readNamed (named name nullable).tagged = .valid (.named name nullable) := by
  have read : readNamed (named name nullable).tagged =
      .valid (.named (QualifiedName.bare name) nullable) := rfl
  rw [read, bare]

end SingleType

namespace TypeRef

theorem read_conjunct_back (member : Conjunct) (bare : member.IsBare) :
    readConjunct member.tagged = .valid member := by
  cases member with
  | named name nullable => exact map_valid _ (SingleType.read_named_back name nullable bare)
  | foreign value => exact absurd bare id

theorem read_intersection_back (members : List Conjunct)
    (bare : ∀ member ∈ members, member.IsBare) :
    readIntersection (taggedIntersection members) = .valid members :=
  seq_valid (map_valid _ rfl) (required_field_found rfl (as_list_map members fun member found =>
    read_conjunct_back member (bare member found)))

theorem read_alternative_back (member : Alternative) (bare : member.IsBare) :
    readAlternative member.tagged = .valid member := by
  cases member with
  | single type =>
      cases type with
      | builtin name nullable => rfl
      | named name nullable =>
          exact as_tagged_found rfl rfl
            (map_valid _ (SingleType.read_named_back name nullable bare))
  | intersection members =>
      exact as_tagged_found rfl rfl (map_valid _ (read_intersection_back members bare))
  | foreign value => exact absurd bare id

theorem read_union_back (members : List Alternative) (bare : ∀ member ∈ members, member.IsBare) :
    readUnion (TypeRef.union members).tagged = .valid members :=
  seq_valid (map_valid _ rfl) (required_field_found rfl (as_list_map members fun member found =>
    read_alternative_back member (bare member found)))

theorem read_tagged_back (type : TypeRef) (bare : type.IsBare) :
    readTagged type.tagged = .valid type := by
  cases type with
  | single type =>
      cases type with
      | builtin name nullable => rfl
      | named name nullable =>
          exact as_tagged_found rfl rfl
            (map_valid _ (SingleType.read_named_back name nullable bare))
  | intersection members =>
      exact as_tagged_found rfl rfl (map_valid _ (read_intersection_back members bare))
  | union members => exact as_tagged_found rfl rfl (map_valid _ (read_union_back members bare))
  | foreign value => exact absurd bare id

/-- A type spelled out is a mapping, and so neither a written form nor null. -/
theorem read_field_tagged (type : TypeRef) (bare : type.IsBare) :
    readField type.tagged = .valid (some type) := by
  have optional := map_valid some (read_tagged_back type bare)
  cases type with
  | single type => cases type <;> exact optional
  | intersection members => exact optional
  | union members => exact optional
  | foreign value => exact absurd bare id

theorem read_field_compact (type : TypeRef) (settled : type.IsSettled) :
    readField type.compact = .valid (some type) := by
  obtain ⟨text, written, back⟩ := read_back type settled.wellFormed
  rw [compact, written]
  change Checked.valid (some (ofText text)) = _
  rw [back, settled.settled]

end TypeRef

namespace ValueRef

theorem read_unresolved_back (expression : Option Text) :
    readUnresolved (unresolved expression).tagged = .valid (.unresolved expression) :=
  seq_valid (map_valid _ rfl) (field_or_found rfl (as_optional_text expression))

def IsChecked : ValueRef → Prop
  | .literal _ => True
  | .unresolved _ => True
  | .foreign _ => False

theorem IsPlain.checked {value : ValueRef} (plain : value.IsPlain) : value.IsChecked := by
  cases value with
  | literal value => exact trivial
  | unresolved expression => exact trivial
  | foreign value => exact plain

/-- A literal with its tag is read back whatever it looks like itself. -/
theorem read_reference_back (value : ValueRef) (checked : value.IsChecked) :
    readTagged value.tagged = .valid value := by
  cases value with
  | literal value => rfl
  | unresolved expression => exact as_tagged_found rfl rfl (read_unresolved_back expression)
  | foreign value => exact absurd checked id

/-- A tag keeps a value from being taken for a bare one. -/
theorem read_tagged_back (value : ValueRef) (checked : value.IsChecked) :
    read value.tagged = .valid value := by
  have reference := read_reference_back value checked
  cases value with
  | literal value => exact reference
  | unresolved expression => exact reference
  | foreign value => exact absurd checked id

theorem read_compact_back (value : ValueRef) (plain : value.IsPlain) :
    read value.compact = .valid value := by
  cases value with
  | literal value =>
      have untagged : isTagged value = false := plain
      rw [compact, read, untagged]
      rfl
  | unresolved expression => exact read_tagged_back (.unresolved expression) trivial
  | foreign value => exact absurd plain id

theorem read_default_tagged (default : Option ValueRef)
    (checked : ∀ value ∈ default, value.IsChecked) :
    readDefault (taggedDefault default) = .valid default := by
  rcases default with _ | value
  · rfl
  · have optional := map_valid some (read_tagged_back value (checked value rfl))
    cases value with
    | literal value => exact optional
    | unresolved expression => exact optional
    | foreign value => exact absurd (checked _ rfl) id

theorem read_default_compact (default : Option ValueRef)
    (plain : ∀ value ∈ default, value.IsPlain) :
    readDefault (compactDefault default) = .valid default := by
  rcases default with _ | value
  · rfl
  · have optional := map_valid some (read_compact_back value (plain value rfl))
    cases value with
    | literal value => cases value <;> first | rfl | exact optional
    | unresolved expression => exact optional
    | foreign value => exact absurd (plain _ rfl) id

end ValueRef

namespace Value

/-- An entry for a text that is no key yet comes last. -/
theorem put_entry_fresh (name : Text) (value : Value) (present : List (Text × Value))
    (fresh : name ∉ present.map Prod.fst) :
    putEntry (.str name) value (present.map fun entry => (.str entry.1, entry.2)) =
      (present ++ [(name, value)]).map fun entry => (.str entry.1, entry.2) := by
  induction present with
  | nil => rfl
  | cons entry present ih =>
      have differs : sameKey (.str entry.1) (.str name) = false := by
        rw [sameKey]
        exact decide_eq_false fun same => fresh (by simp [same])
      have later := ih fun member => fresh (by simp [member])
      rw [List.map_cons, putEntry, if_neg (by rw [differs]; exact Bool.false_ne_true), later]
      rfl

theorem of_entries_distinct (entries : List (Text × Value))
    (distinct : (entries.map Prod.fst).Nodup) :
    ofEntries (entries.map fun entry => (.str entry.1, entry.2)) =
      .map (entries.map fun entry => (.str entry.1, entry.2)) := by
  have added : ∀ (entries present : List (Text × Value)),
      ((present ++ entries).map Prod.fst).Nodup →
      (entries.map fun entry => ((.str entry.1, entry.2) : Value × Value)).foldl
          (fun built entry => putEntry entry.1 entry.2 built)
          (present.map fun entry => (.str entry.1, entry.2)) =
        (present ++ entries).map fun entry => (.str entry.1, entry.2) := by
    intro entries
    induction entries with
    | nil =>
        intro present _
        rw [List.append_nil]
        rfl
    | cons entry entries ih =>
        intro present distinct
        have fresh : entry.1 ∉ present.map Prod.fst := by
          rw [List.map_append, List.map_cons] at distinct
          intro member
          exact (List.nodup_append.1 distinct).2.2 entry.1 member entry.1 (by simp) rfl
        have step := ih (present ++ [entry]) (by simpa using distinct)
        rw [List.map_cons, List.foldl_cons, put_entry_fresh entry.1 entry.2 present fresh]
        rw [List.append_assoc, List.singleton_append] at step
        exact step
  exact congrArg Value.map (added entries [] distinct)

end Value

namespace Constant

theorem read_back (name : Text) (spelled : Value) (value : ValueRef)
    (back : ValueRef.read spelled = .valid value) :
    Constant.read (.map [(.str "name", .str name), (.str "value", spelled)]) =
      .valid ⟨name, value⟩ :=
  seq_valid (map_valid _ (required_field_found rfl rfl)) (required_field_found rfl back)

theorem read_all_tagged (constants : List Constant)
    (checked : ∀ constant ∈ constants, constant.value.IsChecked) :
    readAll (Spelling.tagged.constants constants) = .valid constants :=
  as_list_map constants fun constant member =>
    read_back constant.name _ constant.value
      (ValueRef.read_tagged_back constant.value (checked constant member))

theorem read_all_compact (constants : List Constant) (keyed : AreKeyed constants) :
    readAll (Spelling.compact.constants constants) = .valid constants := by
  have mapping : Spelling.compact.constants constants =
      .map (constants.map fun constant => (.str constant.name, constant.value.compact)) := by
    have distinct := of_entries_distinct
      (constants.map fun constant => (constant.name, constant.value.compact))
      (by rw [List.map_map]; exact keyed.distinct)
    rw [List.map_map] at distinct
    exact distinct
  have each := as_list_map constants fun constant member =>
    read_back constant.name _ constant.value
      (ValueRef.read_compact_back constant.value (keyed.plain constant member))
  rw [mapping, readAll, spellOut, unfolded_map]
  dsimp only
  rw [List.map_map]
  exact each

end Constant

theorem Visibility.read_back (visibility : Visibility) :
    asWord words (.str visibility.keyword) = .valid visibility := by
  cases visibility <;> rfl

theorem ClassKind.read_back (kind : ClassKind) :
    asWord words (.str kind.keyword) = .valid kind := by
  cases kind <;> rfl

namespace Spelling

/-- A spelling of types, constants and defaults from which they are read back. -/
structure IsLawful (spelling : Spelling) : Prop where
  type : ∀ type : TypeRef, type.IsSettled →
    TypeRef.readField (spelling.type type) = .valid (some type)
  constants : ∀ constants, AreKeyed constants →
    Constant.readAll (spelling.constants constants) = .valid constants
  default : ∀ default, (∀ value ∈ default, value.IsPlain) →
    ValueRef.readDefault (spelling.default default) = .valid default

theorem tagged_lawful : tagged.IsLawful where
  type type settled := TypeRef.read_field_tagged type settled.wellFormed.bare
  constants constants keyed := Constant.read_all_tagged constants fun constant member =>
    (keyed.plain constant member).checked
  default default plain := ValueRef.read_default_tagged default fun value given =>
    (plain value given).checked

theorem compact_lawful : compact.IsLawful where
  type := TypeRef.read_field_compact
  constants := Constant.read_all_compact
  default := ValueRef.read_default_compact

/-- What has to be known of a spelling for a part to be read back: that it gives back the types,
constants and defaults in it. -/
structure RestoresParameter (spelling : Spelling) (parameter : Parameter) : Prop where
  type : TypeRef.readField (spelling.typeOrNull parameter.type) = .valid parameter.type
  default : ValueRef.readDefault (spelling.default parameter.default) = .valid parameter.default

structure RestoresFunction (spelling : Spelling) (function : Function) : Prop where
  parameters : ∀ parameter ∈ function.parameters, spelling.RestoresParameter parameter
  returnType : TypeRef.readField (spelling.typeOrNull function.returnType) =
    .valid function.returnType

structure RestoresProperty (spelling : Spelling) (property : Property) : Prop where
  type : TypeRef.readField (spelling.typeOrNull property.type) = .valid property.type

structure RestoresClass (spelling : Spelling) (declared : ClassLike) : Prop where
  constants : Constant.readAll (spelling.constants declared.constants) = .valid declared.constants
  properties : ∀ property ∈ declared.properties, spelling.RestoresProperty property
  methods : ∀ method ∈ declared.methods, spelling.RestoresFunction method.toFunction

structure RestoresExtension (spelling : Spelling) (extension : Extension) : Prop where
  constants : Constant.readAll (spelling.constants extension.constants) = .valid extension.constants
  functions : ∀ function ∈ extension.functions, spelling.RestoresFunction function
  classes : ∀ declared ∈ extension.classes, spelling.RestoresClass declared

section

variable {spelling : Spelling}

theorem read_parameter_back (parameter : Parameter)
    (restored : spelling.RestoresParameter parameter) :
    Parameter.read (spelling.parameter parameter) = .valid parameter := by
  refine seq_valid (seq_valid (seq_valid (seq_valid (seq_valid (map_valid _ rfl) ?type) rfl) rfl)
    rfl) ?default
  case type => exact field_or_found rfl restored.type
  case default => exact field_or_found rfl restored.default

/-- Functions and methods start with the same fields; a method has more behind them. -/
theorem read_signature_back (function : Function) (restored : spelling.RestoresFunction function)
    (others : Entries) :
    Function.readFields (spelling.signature function ++ others) = .valid function := by
  have parameters := as_list_map function.parameters fun parameter member =>
    read_parameter_back parameter (restored.parameters parameter member)
  refine seq_valid (seq_valid (seq_valid (map_valid _ rfl) ?comment) ?parameters) ?returns
  case comment => exact field_or_found rfl (as_optional_text function.docComment)
  case parameters => exact field_or_found rfl parameters
  case returns => exact field_or_found rfl restored.returnType

theorem read_function_back (function : Function) (restored : spelling.RestoresFunction function) :
    Function.read (spelling.function function) = .valid function := by
  have fields := read_signature_back function restored []
  rw [List.append_nil] at fields
  exact fields

theorem read_method_back (method : Method)
    (restored : spelling.RestoresFunction method.toFunction) :
    Method.read (spelling.method method) = .valid method := by
  refine seq_valid (seq_valid (seq_valid (seq_valid (seq_valid (map_valid _ ?signature) ?visibility)
    rfl) rfl) rfl) ?declaring
  case signature => exact read_signature_back method.toFunction restored _
  case visibility => exact field_or_found rfl method.visibility.read_back
  case declaring => exact field_or_found rfl (as_optional_text method.declaringClass)

theorem read_property_back (property : Property) (restored : spelling.RestoresProperty property) :
    Property.read (spelling.property property) = .valid property := by
  refine seq_valid (seq_valid (seq_valid (seq_valid (map_valid _ rfl) ?comment) ?visibility) rfl)
    ?type
  case comment => exact field_or_found rfl (as_optional_text property.docComment)
  case visibility => exact field_or_found rfl property.visibility.read_back
  case type => exact field_or_found rfl restored.type

theorem read_class_back (declared : ClassLike) (restored : spelling.RestoresClass declared) :
    ClassLike.read (spelling.classLike declared) = .valid declared := by
  have names : ∀ names : List Text, asList asText (.list (names.map .str)) = .valid names :=
    fun names => as_list_map names fun _ _ => rfl
  have properties := as_list_map declared.properties fun property member =>
    read_property_back property (restored.properties property member)
  have methods := as_list_map declared.methods fun method member =>
    read_method_back method (restored.methods method member)
  refine seq_valid (seq_valid (seq_valid (seq_valid (seq_valid (seq_valid (seq_valid (seq_valid
    (seq_valid (seq_valid (map_valid _ rfl) ?kind) rfl) rfl) ?comment) ?parent) ?interfaces)
    ?traits) ?constants) ?properties) ?methods
  case kind => exact field_or_found rfl declared.kind.read_back
  case comment => exact field_or_found rfl (as_optional_text declared.docComment)
  case parent => exact field_or_found rfl (as_optional_text declared.parent)
  case interfaces => exact field_or_found rfl (names declared.interfaces)
  case traits => exact field_or_found rfl (names declared.traits)
  case constants => exact field_or_found rfl restored.constants
  case properties => exact field_or_found rfl properties
  case methods => exact field_or_found rfl methods

theorem read_restored (extension : Extension) (restored : spelling.RestoresExtension extension) :
    Extension.read (spelling.extension extension) = .valid extension := by
  have functions := as_list_map extension.functions fun function member =>
    read_function_back function (restored.functions function member)
  have classes := as_list_map extension.classes fun declared member =>
    read_class_back declared (restored.classes declared member)
  refine seq_valid (seq_valid (seq_valid (seq_valid (map_valid _ rfl) ?version) ?constants)
    ?functions) ?classes
  case version => exact field_or_found rfl (as_optional_text extension.version)
  case constants => exact field_or_found rfl restored.constants
  case functions => exact field_or_found rfl functions
  case classes => exact field_or_found rfl classes

end

section

variable {spelling : Spelling} (lawful : spelling.IsLawful)

include lawful

theorem read_type_back (written : Option TypeRef) (settled : ∀ type ∈ written, type.IsSettled) :
    TypeRef.readField (spelling.typeOrNull written) = .valid written := by
  cases written with
  | none => rfl
  | some type => exact lawful.type type (settled type rfl)

theorem restores_function (function : Function) (settled : function.IsSettled) :
    spelling.RestoresFunction function where
  parameters parameter member :=
    ⟨read_type_back lawful parameter.type (settled.parameters parameter member).type,
      lawful.default parameter.default (settled.parameters parameter member).default⟩
  returnType := read_type_back lawful function.returnType settled.returnType

theorem restores_class (declared : ClassLike) (settled : declared.IsSettled) :
    spelling.RestoresClass declared where
  constants := lawful.constants declared.constants settled.constants
  properties property member :=
    ⟨read_type_back lawful property.type (settled.properties property member)⟩
  methods method member :=
    restores_function lawful method.toFunction (settled.methods method member)

theorem read_extension_back (extension : Extension) (settled : extension.IsSettled) :
    Extension.read (spelling.extension extension) = .valid extension :=
  read_restored extension {
    constants := lawful.constants extension.constants settled.constants
    functions := fun function member =>
      restores_function lawful function (settled.functions function member)
    classes := fun declared member =>
      restores_class lawful declared (settled.classes declared member) }

end

end Spelling

/-- The compact and the tagged spelling of metadata are both read as that metadata, so the stubs
made from them are the same. -/
theorem Extension.read_spelled (extension : Extension) (settled : extension.IsSettled) :
    Extension.read (Spelling.compact.extension extension) = .valid extension ∧
      Extension.read (Spelling.tagged.extension extension) = .valid extension ∧
      ∀ settings earlier,
        Stub.ofExtension settings earlier <$>
            Extension.read (Spelling.compact.extension extension) =
          Stub.ofExtension settings earlier <$>
            Extension.read (Spelling.tagged.extension extension) := by
  have compact := Spelling.read_extension_back Spelling.compact_lawful extension settled
  have tagged := Spelling.read_extension_back Spelling.tagged_lawful extension settled
  refine ⟨compact, tagged, ?_⟩
  intro settings earlier
  rw [compact, tagged]

/-- Metadata with a literal null default, a mapping as a default, unresolved values and types of all
forms. -/
theorem Extension.read_spelled_mixed :
    let method : Method :=
      { name := "run"
        parameters := [
          { name := "a", optional := true, default := some (.literal .null),
            type := some (.union [.intersection [.named "A\\B" false, .named "int" false],
              .single (.builtin "null" false)]) },
          { name := "b", optional := true,
            default := some (.literal (.map [(.str "kind", .str "other")])),
            type := some (.single (.named "A" true)) },
          { name := "c", optional := true, default := some (.unresolved (some "X::Y")) }]
        returnType := some (.single (.builtin "mixed" false)), visibility := .family }
    let extension : Extension :=
      { name := "sample", constants := [⟨"A", .literal .null⟩, ⟨"B", .unresolved none⟩],
        classes := [{ name := "C", constants := [⟨"A", .literal (.int 1)⟩], methods := [method] }] }
    extension.IsSettled ∧
      Extension.read (Spelling.compact.extension extension) = .valid extension ∧
      Extension.read (Spelling.tagged.extension extension) = .valid extension := by
  intro method extension
  have types : ∀ parameter ∈ method.parameters, ∀ type ∈ parameter.type, type.IsSettled := by
    intro parameter member type given
    simp only [method, List.mem_cons, List.not_mem_nil, or_false] at member
    rcases member with rfl | rfl | rfl
    · cases given; exact ⟨by decide, rfl⟩
    · cases given; exact ⟨by decide, rfl⟩
    · cases given
  have defaults : ∀ parameter ∈ method.parameters, ∀ value ∈ parameter.default, value.IsPlain := by
    intro parameter member value given
    simp only [method, List.mem_cons, List.not_mem_nil, or_false] at member
    rcases member with rfl | rfl | rfl <;> cases given
    · exact rfl
    · exact rfl
    · exact trivial
  have signature : method.toFunction.IsSettled :=
    ⟨fun parameter member => ⟨types parameter member, defaults parameter member⟩,
      fun type given => by cases given; exact ⟨by decide, rfl⟩⟩
  have settled : extension.IsSettled := by
    refine ⟨⟨by decide, ?_⟩, by simp [extension], ?_⟩
    · simp [extension, ValueRef.IsPlain, ValueRef.isTagged, unfolded]
    · intro declared member
      rw [List.mem_singleton.1 member]
      refine ⟨⟨by decide, ?_⟩, by simp, ?_⟩
      · simp [ValueRef.IsPlain, ValueRef.isTagged, unfolded]
      · intro other among
        rw [List.mem_singleton.1 among]
        exact signature
  have spelled := Extension.read_spelled extension settled
  exact ⟨settled, spelled.1, spelled.2.1⟩

end Stubwright
