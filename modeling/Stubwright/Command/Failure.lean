import Stubwright.Display
import Stubwright.Dump
import Stubwright.Settings.File

/-!
Failures of commands, and how they are reported: one record, and a panel that says what went wrong
and, where it is known, what can be done about it. A failed command exits with code one.
-/

namespace Stubwright.Command

inductive Area where
  | general
  | settings
  | source
  | rendering
  deriving DecidableEq

def Area.hint : Area → Option Text
  | .general => none
  | .settings => some "Check the file passed with --config."
  | .source => some "Pass --dump with a metadata dump, or --php with a PHP CLI."
  | .rendering => some "The metadata holds a value or type with no PHP form."

inductive Failure where
  /-- A command gives up although nothing broke. -/
  | incomplete (command message : Text)
  | known (area : Area) (message : Text)
  | badSyntax (findings : Findings) (message : Text)
  | unexpected (message : Text)
  deriving DecidableEq

namespace Failure

def ofSettings (error : SettingsError) : Failure :=
  match error with
  | .broken cause => .unexpected cause.message
  | error => .known .settings error.message

def ofSource : SourceFailure → Failure
  | .known error => .known .source error.message
  | .broken cause => .unexpected cause.message

def hint : Failure → Option Text
  | .known area _ => area.hint
  | .badSyntax _ _ => some "The generated stub does not parse as PHP."
  | _ => none

def record (command : Text) (failure : Failure) : Record :=
  ⟨.failures, .error, match failure with
    | .incomplete command message => command ++ " failed: " ++ message
    | .known _ message => command ++ " failed: " ++ message
    | .badSyntax _ message => command ++ " failed: " ++ message
    | .unexpected _ => command ++ " failed unexpectedly"⟩

def description : Failure → Text
  | .incomplete _ message => message
  | .known _ message => message
  | .badSyntax _ message => message
  | .unexpected message => "Unexpected error: " ++ message

def panel (title : Text) (failure : Failure) : Display :=
  let body := Markup.styled "red" (Markup.escape failure.description)
  let hint := failure.hint.map fun hint => "\n" ++ Markup.styled "dim" hint
  .panel ("❌ " ++ title) (body ++ hint.getD [])

/-- What is shown for a failure: the issues of bad syntax first, if there are any, then
the panel. -/
def displays (title : Text) (failure : Failure) : List Display :=
  match failure with
  | .badSyntax findings _ =>
      if findings.isClean then [failure.panel title]
      else [.ofFindings "generated stub" findings, failure.panel title]
  | _ => [failure.panel title]

end Failure

end Stubwright.Command
