import Stubwright.Proofs.File.Held
import Stubwright.Settings.File

/-!
Settings from a file. A file gives settings if and only if it is a text as a whole whose document
either counts as nothing, which leaves all settings at their defaults, or is a mapping that is
accepted as properties. Any other file is refused, and the error says why; only where the reader
itself breaks is it not an error of the settings.
-/

namespace Stubwright.Settings

open Value

variable {environmentBinary : Option Text} {room : Yaml.Room} {path : Text} {file : FileContent}
  {settings : Settings}

inductive Gives (environmentBinary : Option Text) (room : Yaml.Room) :
    FileContent → Settings → Prop where
  | nothing {file : FileContent} {value : Value} (holds : file.Holds room value)
      (nothing : value.isNothing = true) :
      Gives environmentBinary room file (defaults environmentBinary)
  | mapping {file : FileContent} {value : Value} {entries : List (Value × Value)}
      {settings : Settings} (holds : file.Holds room value) (opened : value.unfolded = .map entries)
      (accepted : ofProperties environmentBinary (.map entries) = .ok settings) :
      Gives environmentBinary room file settings

/-- Why a file gives no settings, with the error that says so. -/
inductive Refuses (environmentBinary : Option Text) (room : Yaml.Room) (path : Text) :
    FileContent → SettingsError → Prop where
  | unreadable {file : FileContent} (hidden : ∀ bytes, file ≠ .octets bytes) :
      Refuses environmentBinary room path file (.unreadable path)
  | malformed {file : FileContent} (fails : file.Fails room .malformed) :
      Refuses environmentBinary room path file (.malformed path)
  | notMapping {file : FileContent} {value : Value} (holds : file.Holds room value)
      (something : value.isNothing = false) (other : ∀ entries, value.unfolded ≠ .map entries) :
      Refuses environmentBinary room path file (.notMapping path)
  | invalid {file : FileContent} {value : Value} {entries : List (Value × Value)}
      {issues : List Issue} (holds : file.Holds room value) (opened : value.unfolded = .map entries)
      (refused : read environmentBinary (.map entries) = .invalid issues) :
      Refuses environmentBinary room path file (.invalid issues)
  | broken {file : FileContent} {failure : Yaml.Failure} (fails : file.Fails room failure)
      (other : failure ≠ .malformed) :
      Refuses environmentBinary room path file (.broken (.ofFailure failure))

/-- Without any property every setting is at its default. -/
theorem of_properties_none :
    ofProperties environmentBinary (.map []) = .ok (defaults environmentBinary) :=
  rfl

section

variable {value : Value} {entries : List (Value × Value)}

theorem of_file_nothing (holds : file.Holds room value) (nothing : value.isNothing = true) :
    ofFile environmentBinary room path file = .ok (defaults environmentBinary) := by
  rw [ofFile, FileContent.yaml_ok_iff.2 holds]
  exact (if_pos nothing).trans of_properties_none

theorem entries_of_nothing (nothing : value.isNothing = true)
    (opened : value.unfolded = .map entries) : entries = [] := by
  cases value with
  | map own =>
      cases opened
      exact List.isEmpty_iff.1 nothing
  | knot label body =>
      cases body with
      | map own =>
          cases List.isEmpty_iff.1 nothing
          cases opened
          rfl
      | link => cases nothing
      | _ => cases opened
  | _ => cases opened

theorem of_file_mapping (holds : file.Holds room value) (opened : value.unfolded = .map entries) :
    ofFile environmentBinary room path file = ofProperties environmentBinary (.map entries) := by
  rw [ofFile, FileContent.yaml_ok_iff.2 holds]
  dsimp only
  split
  next nothing => rw [entries_of_nothing nothing opened]
  next => rw [opened]

theorem of_file_other (holds : file.Holds room value) (something : value.isNothing = false)
    (other : ∀ entries, value.unfolded ≠ .map entries) :
    ofFile environmentBinary room path file = .error (.notMapping path) := by
  rw [ofFile, FileContent.yaml_ok_iff.2 holds]
  dsimp only
  rw [something, if_neg Bool.false_ne_true]
  split
  next opened => exact absurd opened (other _)
  next => rfl

end

theorem of_file_failing {failure : Yaml.Failure} (fails : file.Fails room failure) :
    ofFile environmentBinary room path file =
      .error (if failure = .malformed then .malformed path else .broken (.ofFailure failure)) := by
  rw [ofFile, FileContent.yaml_error_iff.2 (.inr ⟨failure, fails, rfl⟩)]
  cases failure <;> rfl

theorem Gives.ok (gives : Gives environmentBinary room file settings) :
    ofFile environmentBinary room path file = .ok settings := by
  cases gives with
  | nothing holds nothing => exact of_file_nothing holds nothing
  | mapping holds opened accepted => rw [of_file_mapping holds opened, accepted]

theorem Refuses.error {error : SettingsError}
    (refuses : Refuses environmentBinary room path file error) :
    ofFile environmentBinary room path file = .error error := by
  cases refuses with
  | unreadable hidden => rw [ofFile, FileContent.yaml_error_iff.2 (.inl ⟨rfl, hidden⟩)]
  | malformed fails => exact of_file_failing fails
  | notMapping holds something other => exact of_file_other holds something other
  | invalid holds opened refused => rw [of_file_mapping holds opened, ofProperties, refused]
  | broken fails other => rw [of_file_failing fails, if_neg other]

/-- Every file gives settings or is refused. -/
theorem gives_or_refuses (environmentBinary : Option Text) (room : Yaml.Room) (path : Text)
    (file : FileContent) :
    (∃ settings, Gives environmentBinary room file settings) ∨
      ∃ error, Refuses environmentBinary room path file error := by
  cases found : file.yaml room with
  | error cause =>
      rcases FileContent.yaml_error_iff.1 found with ⟨_, hidden⟩ | ⟨failure, fails, _⟩
      · exact .inr ⟨_, .unreadable hidden⟩
      · by_cases malformed : failure = .malformed
        · exact .inr ⟨_, .malformed (malformed ▸ fails)⟩
        · exact .inr ⟨_, .broken fails malformed⟩
  | ok value =>
      have holds := FileContent.yaml_ok_iff.1 found
      cases something : value.isNothing with
      | true => exact .inl ⟨_, .nothing holds something⟩
      | false =>
          by_cases mapping : ∃ entries, value.unfolded = .map entries
          · obtain ⟨entries, opened⟩ := mapping
            cases checked : read environmentBinary (.map entries) with
            | valid settings =>
                exact .inl ⟨settings, .mapping holds opened (by rw [ofProperties, checked])⟩
            | invalid issues => exact .inr ⟨_, .invalid holds opened checked⟩
          · exact .inr ⟨_, .notMapping holds something fun entries opened =>
              mapping ⟨entries, opened⟩⟩

theorem of_file_ok_iff :
    ofFile environmentBinary room path file = .ok settings ↔
      Gives environmentBinary room file settings := by
  refine ⟨fun accepted => ?_, Gives.ok⟩
  rcases gives_or_refuses environmentBinary room path file with
    ⟨given, gives⟩ | ⟨error, refuses⟩
  · cases gives.ok.symm.trans accepted
    exact gives
  · cases refuses.error.symm.trans accepted

theorem of_file_error_iff {error : SettingsError} :
    ofFile environmentBinary room path file = .error error ↔
      Refuses environmentBinary room path file error := by
  refine ⟨fun refused => ?_, Refuses.error⟩
  rcases gives_or_refuses environmentBinary room path file with
    ⟨given, gives⟩ | ⟨other, refuses⟩
  · cases gives.ok.symm.trans refused
  · cases refuses.error.symm.trans refused
    exact refuses

/-- What is not an error of the settings comes from bytes, tokens or scalars that cannot be read. -/
theorem of_file_broken {cause : FileError}
    (refused : ofFile environmentBinary room path file = .error (.broken cause)) :
    ∃ failure, cause = .ofFailure failure ∧ file.Breaks room failure := by
  cases of_file_error_iff.1 refused with
  | broken fails other => exact ⟨_, rfl, fails.breaks other⟩

/-- Settings come from a file exactly where it gives them, and any other file is refused for what
is wrong with it: with an error of the settings, or where the reader breaks on the file. -/
theorem of_file_settles (environmentBinary : Option Text) (room : Yaml.Room) (path : Text)
    (file : FileContent) :
    (∀ settings, ofFile environmentBinary room path file = .ok settings ↔
      Gives environmentBinary room file settings) ∧
    (∀ error, ofFile environmentBinary room path file = .error error ↔
      Refuses environmentBinary room path file error) ∧
    ∀ cause, ofFile environmentBinary room path file = .error (.broken cause) →
      ∃ failure, cause = .ofFailure failure ∧ file.Breaks room failure :=
  ⟨fun _ => of_file_ok_iff, fun _ => of_file_error_iff, fun _ => of_file_broken⟩

/-- A byte that starts no text breaks the reader, and a list without items counts as nothing. -/
theorem undecodable_file_breaks :
    (match ofFile none (.ofDepth 100) "config.yaml" (.octets [0xff]) with
      | .error (.broken (.undecodable _)) => true
      | _ => false) = true ∧
    (match ofFile none (.ofDepth 100) "config.yaml" (.octets "[]\n".toUTF8.toList) with
      | .ok settings => decide (settings = defaults none)
      | _ => false) = true := by
  decide +kernel

end Stubwright.Settings
