import Stubwright.Checked

/-!
The settings of the stub maker: how a stub is laid out, and how live reflection is run. Settings
are read from properties; a property that is not known is refused.
-/

namespace Stubwright

open Value

structure Settings where
  indent : Text
  placeholder : Text
  notice : Text
  phpBinary : Text
  deriving DecidableEq

namespace Settings

def defaultNotice : Text := "Generated stub file for code completion purposes"

/-- Settings without any properties. The environment may name the reflection binary, and what it
names is taken as it is. -/
def defaults (environmentBinary : Option Text) : Settings where
  indent := "    "
  placeholder := "'<?>'"
  notice := defaultNotice
  phpBinary := environmentBinary.getD "php"

/-- An indent must not become part of what it sets in. -/
def isIndent (text : Text) : Bool := text.all (·.isIn Text.isBlank)

/-- A notice must not close the comment that it stands in. -/
def isNotice (text : Text) : Bool := !Text.occursIn "*/" text

def asNonempty (value : Value) : Checked Text :=
  Text.ofChars <$> (asChars value).require (fun chars => !chars.isEmpty) .tooShort

def known : List Text := ["indent", "unresolved_placeholder", "file_notice", "php_binary"]

/-- The step to an entry: a text key or a small whole number as such, any other key as shown. -/
def keyStep (key : Value) : Step :=
  match key with
  | .str name => .field name
  | .bool truth => .index (if truth then 1 else 0)
  | .int number =>
      if -(2 ^ (63 : Nat)) ≤ number ∧ number < 2 ^ (63 : Nat) then .index number
      else .field (key.writtenOr shown)
  | _ => .field (key.writtenOr shown)

/-- Whether a key is a text with halves in it. Such a key cannot be compared with the known ones,
and nothing else is said of the settings then. -/
def isUndecodable (key : Value) : Bool :=
  match key with
  | .str name => name.chars?.isNone
  | _ => false

def refuseOthers : List (Value × Value) → Checked Unit
  | [] => .valid ()
  | (key, _) :: rest =>
      let here : Checked Unit := match key with
        | .str name => if name ∈ known then .valid () else .refuse .unknownField
        | _ => .refuse .keyNotText
      (fun _ _ => ()) <$> here.within (keyStep key) <*> refuseOthers rest

def read (environmentBinary : Option Text) : Value → Checked Settings :=
  let fallback := defaults environmentBinary
  asModel "StubGeneratorConfig" fun entries =>
    if entries.any fun entry => isUndecodable entry.1 then .refuse .undecodableText
    else (fun indent placeholder notice phpBinary (_ : Unit) =>
        Settings.mk indent placeholder notice phpBinary) <$>
      fieldOr entries "indent" fallback.indent
        (fun value => (asText value).require isIndent
          (.rejected "indent must contain only whitespace")) <*>
      fieldOr entries "unresolved_placeholder" fallback.placeholder asNonempty <*>
      fieldOr entries "file_notice" fallback.notice
        (fun value => (asText value).require isNotice
          (.rejected "file_notice must not contain '*/'")) <*>
      fieldOr entries "php_binary" fallback.phpBinary asNonempty <*>
      refuseOthers entries

end Settings

end Stubwright
