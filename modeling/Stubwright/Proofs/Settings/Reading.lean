import Stubwright.Proofs.Declaration.Stored
import Stubwright.Settings

/-!
What reading settings checks. An indent can be set, whatever else is, if and only if it consists of
white space, and a notice if and only if it does not close a comment. Nothing else changes with
either of them.
-/

namespace Stubwright

open Value
open Checked (map_eq_valid seq_eq_valid)

namespace Settings

def withIndent (settings : Settings) (indent : Text) : Settings := { settings with indent }

def withNotice (settings : Settings) (notice : Text) : Settings := { settings with notice }

theorem require_valid {holds : Text → Bool} {fault : Fault} {x : Checked Text} {text : Text}
    (valid : x.require holds fault = .valid text) : holds text = true := by
  cases x with
  | invalid issues => cases valid
  | valid value =>
      change (if holds value then Checked.valid value else .refuse fault) = _ at valid
      split at valid
      · rename_i accepted
        cases valid
        exact accepted
      · cases valid

section

variable {environmentBinary : Option Text} {entries : List (Value × Value)} {settings : Settings}

/-- What accepted entries lead to, setting by setting. -/
structure ReadFrom (environmentBinary : Option Text) (entries : List (Value × Value))
    (settings : Settings) : Prop where
  decodable : (entries.any fun entry => isUndecodable entry.1) = false
  indent : fieldOr entries "indent" (defaults environmentBinary).indent
    (fun value => (asText value).require isIndent
      (.rejected "indent must contain only whitespace")) = .valid settings.indent
  placeholder : fieldOr entries "unresolved_placeholder" (defaults environmentBinary).placeholder
    asNonempty = .valid settings.placeholder
  notice : fieldOr entries "file_notice" (defaults environmentBinary).notice
    (fun value => (asText value).require isNotice
      (.rejected "file_notice must not contain '*/'")) = .valid settings.notice
  phpBinary : fieldOr entries "php_binary" (defaults environmentBinary).phpBinary
    asNonempty = .valid settings.phpBinary
  known : refuseOthers entries = .valid ()

theorem read_valid_iff : read environmentBinary (.map entries) = .valid settings ↔
    ReadFrom environmentBinary entries settings := by
  rw [read, as_model_map]
  constructor
  · intro accepted
    split at accepted
    · cases accepted
    · rename_i decodable
      simp only [seq_eq_valid, map_eq_valid] at accepted
      obtain ⟨_, ⟨_, ⟨_, ⟨_, ⟨_, indent, rfl⟩, _, placeholder, rfl⟩, _, notice, rfl⟩, _, phpBinary,
        rfl⟩, _, known, rfl⟩ := accepted
      exact ⟨Bool.eq_false_iff.2 decodable, indent, placeholder, notice, phpBinary, known⟩
  · rintro ⟨decodable, indent, placeholder, notice, phpBinary, known⟩
    rw [decodable, indent, placeholder, notice, phpBinary, known]
    rfl

/-- Accepted settings have passed both checks, the default ones included. -/
theorem read_checked {properties : Value}
    (accepted : read environmentBinary properties = .valid settings) :
    isIndent settings.indent = true ∧ isNotice settings.notice = true := by
  obtain ⟨entries, unfolded, -⟩ := as_model_valid accepted
  have same : read environmentBinary properties = read environmentBinary (.map entries) := by
    simp only [read, asModel, unfolded, unfolded_map]
  have fields := read_valid_iff.1 (same.symm.trans accepted)
  constructor
  · rcases field_or_valid fields.indent with same | ⟨value, checked⟩
    · rw [same]
      exact (by decide : isIndent "    " = true)
    · exact require_valid checked
  · rcases field_or_valid fields.notice with same | ⟨value, checked⟩
    · rw [same]
      exact (by decide : isNotice defaultNotice = true)
    · exact require_valid checked

theorem field_or_other {α : Type} {key name : Text} (other : key ≠ name) (value : Value)
    (entries : List (Value × Value)) (fallback : α) (read : Value → Checked α) :
    fieldOr ((.str key, value) :: entries) name fallback read =
      fieldOr entries name fallback read := by
  rw [fieldOr, fieldOr, lookup?, if_neg other]

/-- A text that is set is read as what it is, if it passes its check. -/
theorem field_or_here (name text : Text) (entries : List (Value × Value)) (fallback : Text)
    (holds : Text → Bool) (fault : Fault) :
    fieldOr ((.str name, .str text) :: entries) name fallback
      (fun value => (asText value).require holds fault) =
        if holds text then .valid text else .invalid [⟨fault, [.field name]⟩] := by
  have checked : (Checked.valid text).require holds fault =
      if holds text then .valid text else .refuse fault := rfl
  rw [fieldOr, lookup?, if_pos rfl]
  dsimp only [asText]
  rw [checked]
  cases holds text <;> rfl

theorem refuse_others_known {key : Text} (isKnown : key ∈ known) (value : Value)
    (others : refuseOthers entries = .valid ()) :
    refuseOthers ((.str key, value) :: entries) = .valid () := by
  rw [refuseOthers, others, if_pos isKnown]
  rfl

/-- An indent that is set besides other settings is accepted if and only if it is white space, and
then nothing else changes. -/
theorem read_indent (accepted : read environmentBinary (.map entries) = .valid settings)
    (text : Text) :
    read environmentBinary (.map ((.str "indent", .str text) :: entries)) =
      if isIndent text then .valid (settings.withIndent text)
      else .invalid [⟨.rejected "indent must contain only whitespace", [.field "indent"]⟩] := by
  have fields := read_valid_iff.1 accepted
  have decodable : (((Value.str "indent", Value.str text) :: entries).any fun entry =>
      isUndecodable entry.1) = false := fields.decodable
  rw [read, as_model_map, decodable, field_or_here, field_or_other (by decide),
    field_or_other (by decide), field_or_other (by decide), fields.placeholder, fields.notice,
    fields.phpBinary, refuse_others_known (by decide) _ fields.known]
  cases isIndent text <;> rfl

/-- A notice that is set besides other settings is accepted if and only if it does not close a
comment, and then nothing else changes. -/
theorem read_notice (accepted : read environmentBinary (.map entries) = .valid settings)
    (text : Text) :
    read environmentBinary (.map ((.str "file_notice", .str text) :: entries)) =
      if isNotice text then .valid (settings.withNotice text)
      else .invalid [⟨.rejected "file_notice must not contain '*/'", [.field "file_notice"]⟩] := by
  have fields := read_valid_iff.1 accepted
  have decodable : (((Value.str "file_notice", Value.str text) :: entries).any fun entry =>
      isUndecodable entry.1) = false := fields.decodable
  rw [read, as_model_map, decodable, field_or_here, field_or_other (by decide),
    field_or_other (by decide), field_or_other (by decide), fields.indent, fields.placeholder,
    fields.phpBinary, refuse_others_known (by decide) _ fields.known]
  cases isNotice text <;> rfl

end

end Settings

end Stubwright
