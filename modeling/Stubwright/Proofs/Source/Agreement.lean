import Stubwright.Proofs.File.Portable
import Stubwright.Stub.Reflected

/-!
A JSON text as a dump and as the output of a reflection run. A dump is read as YAML, which takes
some numbers of JSON for text; where a text means the same as YAML, both give one stub.
-/

namespace Stubwright

/-- A dump whose file holds a text. -/
def Dump.holding (path : Text) (room : Yaml.Room) (text : List Char) : Dump where
  path := path
  room := room
  file := .octets (Text.encodeChars text)

/-- Values other than collections are no mappings. -/
theorem Json.Tree.depth_of_map {tree : Json.Tree} {entries : List (Value × Value)}
    (map : tree.value = .map entries) : 0 < tree.depth := by
  cases tree with
  | word chars value known =>
      have noMap : ∀ word ∈ Json.words, ∀ entries, word.2 ≠ .map entries := by
        simp [Json.words]
      exact absurd map (noMap _ known entries)
  | number numeral =>
      rw [value, Numeral.value] at map
      split at map <;> cases map
  | string letters => cases map
  | emptyArray gap => exact Nat.succ_pos _
  | array gap items => exact Nat.succ_pos _
  | emptyObject gap => exact Nat.succ_pos _
  | object gap members => exact Nat.succ_pos _

def Json.sampleDocument : Json.Document :=
  let none : Gap := ⟨[], by simp⟩
  let blank : Gap := ⟨[' '], by simp [isSpace]⟩
  let number : Numeral :=
    ⟨true, ['1'], ['5'], some ⟨'e', some '+', ['3'], by simp, by simp, by simp, by simp⟩, by simp,
      by simp, by simp, by simp, by simp⟩
  let name : Key := ⟨.spelled "name".toList (List.all_iff_forall_prop.1 (by decide)), none, blank⟩
  let constants : Key :=
    ⟨.spelled "constants".toList (List.all_iff_forall_prop.1 (by decide)), none, blank⟩
  let constant : Key := ⟨.spelled ['A'] (List.all_iff_forall_prop.1 (by decide)), none, blank⟩
  let value : Letters := .spelled ['m'] (List.all_iff_forall_prop.1 (by decide))
  ⟨none, .object none (.more name (.string value) none blank
    (.last constants (.object none (.last constant (.number number) none)) none)), none⟩

theorem Json.sample_document_portable : sampleDocument.IsPortable 2 := by
  have blank : Gap.IsPortable ⟨[' '], by simp [isSpace]⟩ := by simp [Gap.IsPortable]
  have none : Gap.IsPortable ⟨[], by simp⟩ := by simp [Gap.IsPortable]
  refine ⟨none, ⟨none, Key.spelled_portable _ rfl blank (by decide), Letters.spelled_portable _,
    none, blank, Key.spelled_portable _ rfl blank (by decide),
    ⟨none, Key.spelled_portable _ rfl blank (by decide), ?_, none⟩, none⟩, none, by decide⟩
  rintro exponent ⟨⟩
  decide

section

variable {text : List Char} {entries : List (Value × Value)} {metadata : Extension}
  {reflector : Reflector} (object : Json.ofChars reflector.room text = .ok (.map entries))
  (valid : Extension.read (.map entries) = .valid metadata)

include object valid

theorem reflect_output (started : reflector.unfit? metadata.name = none) (errors : List Char) :
    reflector.reflect metadata.name (.finished 0 text errors) = .ok metadata := by
  rw [Reflector.reflect, started]
  simp only [Reflector.readRun]
  rw [if_neg (by decide), if_neg (by decide), Reflector.readOutput, object]
  simp only [valid]

theorem reflect_holding {deepest : Nat} {room : Yaml.Room}
    (portable : Json.IsPortable deepest text) (admits : room.Admits deepest)
    (alone : Value.lookup? "extensions" entries = none) (path : Text) :
    ((Dump.holding path room text).reflect metadata.name).1 = .ok metadata := by
  obtain ⟨document, rfl, portable⟩ := portable
  have map : document.root.value = .map entries := (document.value_of_read object).symm
  have loaded : FileContent.yaml room (Dump.holding path room document.text).file =
      .ok (.map entries) := by
    rw [← map]
    exact FileContent.yaml_portable document portable admits (Json.Tree.depth_of_map map)
  have contents : (Dump.holding path room document.text).extensions.1 = .ok [metadata] := by
    have fresh : (Dump.holding path room document.text).loaded = none := rfl
    have inRoom : (Dump.holding path room document.text).room = room := rfl
    simp only [Dump.extensions, fresh, Dump.readFile, inRoom, loaded, bind, Except.bind,
      Dump.extensionValues, Value.unfolded_map, alone, Option.map_none, Dump.readExtensions, valid,
      pure, Except.pure]
  have found : Dump.find path metadata.name [metadata] = .ok metadata := by
    simp [Dump.find, Dump.sameExtensionName]
  rw [Dump.reflect]
  simp only [contents, Except.bind]
  exact found

/-- A portable text is the same metadata from a dump and from a reflection run that prints it, when
it is asked for by its own name, and so the two stubs are the same. -/
theorem portable_text_agrees {deepest : Nat} {room : Yaml.Room}
    (portable : Json.IsPortable deepest text) (admits : room.Admits deepest)
    (alone : Value.lookup? "extensions" entries = none)
    (started : reflector.unfit? metadata.name = none) (path : Text) (errors : List Char)
    (renderer : Renderer) :
    let dump := Source.stored (.holding path room text)
    let live := Source.live reflector (.finished 0 text errors)
    (dump.reflect metadata.name).1 = .ok metadata ∧ (live.reflect metadata.name).1 = .ok metadata ∧
      (Stub.ofSource renderer metadata.name dump).1 =
        (Stub.ofSource renderer metadata.name live).1 := by
  intro dump live
  have stored : (dump.reflect metadata.name).1 = .ok metadata :=
    reflect_holding object valid portable admits alone path
  have printed : (live.reflect metadata.name).1 = .ok metadata :=
    reflect_output object valid started errors
  refine ⟨stored, printed, ?_⟩
  simp only [Stub.ofSource, stored, printed]

end

theorem portable_text_agrees_sample :
    let text := "\x7b\"name\": \"m\", \"constants\": \x7b\"A\": -1.5e+3\x7d\x7d".toList
    let metadata : Extension :=
      { name := "m", constants := [⟨"A", .literal (.float (.ofDecimal true 15 2))⟩] }
    let dump := Source.stored (.holding "dump.json" (.ofDepth 2) text)
    let reflector : Reflector := { binary := "php", room := 2 }
    let live := Source.live reflector (.finished 0 text [])
    let renderer : Renderer := { Settings.defaults none with room := fun _ => .ofFrames 900 }
    (dump.reflect "m").1 = .ok metadata ∧ (live.reflect "m").1 = .ok metadata ∧
      (Stub.ofSource renderer "m" dump).1 = (Stub.ofSource renderer "m" live).1 := by
  intro text metadata dump reflector live renderer
  have same : Json.sampleDocument.text = text := by decide
  have read : Json.ofChars reflector.room text = .ok Json.sampleDocument.value :=
    same ▸ Json.sampleDocument.read (by decide)
  have valid : Extension.read Json.sampleDocument.value = .valid metadata := rfl
  exact portable_text_agrees read valid ⟨_, same, Json.sample_document_portable⟩
    (Yaml.Room.of_depth_admits 2) rfl (by decide) _ _ _

def constantTexts (outcome : Except SourceFailure Extension) : Option (List (Option Text)) :=
  outcome.toOption.map fun extension => extension.constants.map fun constant =>
    match constant.value with
    | .literal (.str text) => some text
    | _ => none

/-- A number with an exponent and no point is a number in JSON and a text in YAML, so a constant
with such a value is another one in the dump. -/
theorem exponent_without_point_differs :
    let text := "\x7b\"name\":\"m\",\"constants\":\x7b\"A\":1e5\x7d\x7d".toList
    let reflector : Reflector := { binary := "php", room := 100 }
    ∃ metadata, reflector.reflect "m" (.finished 0 text []) = .ok metadata ∧
      (Dump.reflect "m" (.holding "dump.json" (.ofDepth 100) text)).1 ≠ .ok metadata := by
  intro text reflector
  have live : constantTexts (reflector.reflect "m" (.finished 0 text [])) = some [none] := by
    decide +kernel
  have stored : constantTexts (Dump.reflect "m" (.holding "dump.json" (.ofDepth 100) text)).1 =
      some [some ("1e5" : Text)] := by decide +kernel
  cases outcome : reflector.reflect "m" (.finished 0 text []) with
  | error failure =>
      rw [outcome] at live
      cases live
  | ok metadata =>
      refine ⟨metadata, rfl, ?_⟩
      intro same
      rw [outcome] at live
      rw [same, live] at stored
      exact absurd stored (by decide)

end Stubwright
