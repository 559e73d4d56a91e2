import Stubwright.Declaration.Reading
import Stubwright.Source

/-!
Metadata of an extension that is loaded into an interpreter. The interpreter runs a script that
prints the metadata as JSON; here its run is a value, what came of it.
-/

namespace Stubwright

inductive Run where
  | finished (code : Int) (output errors : List Char)
  /-- What the interpreter wrote is no text, whatever its exit code. -/
  | undecodable (flaw : Text.Flaw)
  | notFound
  | timedOut
  | failed (reason : Text)
  /-- The time that the run may take is more than the system can wait, or is no number. -/
  | unwaited (reason : Text)

structure Reflector where
  binary : Text
  /-- How deep arrays and objects may stand in each other in the output. -/
  room : Nat
  timeout : Seconds := .exact (.ofInt 60)

namespace Reflector

def script : Text := "reflection_dump.php"

/-- The exit code by which the script says that the extension is not loaded. -/
def notLoadedCode : Int := 2

def command (reflector : Reflector) (extension : Text) : List Text :=
  [reflector.binary, script, extension]

def announcement (reflector : Reflector) (extension : Text) : Record :=
  ⟨.reflection, .debug, "Reflecting '" ++ extension ++ "' with " ++ reflector.binary⟩

def readOutput (room : Nat) (extension : Text) (output : List Char) :
    Except SourceFailure Extension :=
  match Json.ofChars room output with
  | .error .malformed => .error (.known (.badOutput extension))
  | .error fault => .error (.broken (.output fault))
  | .ok value =>
      match Extension.read value with
      | .valid metadata => .ok metadata
      | .invalid issues => .error (.known (.badReflection extension issues))

def stripped (errors : List Char) : Text := Text.strip (.ofChars errors)

/-- What keeps a run from being started at all. The name of the interpreter comes first. -/
def unfit? (reflector : Reflector) (extension : Text) : Option Text.Unfit :=
  (Text.unfit? reflector.binary).or (Text.unfit? extension)

def readRun (reflector : Reflector) (extension : Text) (run : Run) :
    Except SourceFailure Extension :=
  match run with
  | .notFound => .error (.known (.noBinary reflector.binary))
  | .timedOut => .error (.known (.timedOut reflector.timeout extension))
  | .failed reason => .error (.known (.cannotRun reflector.binary reason))
  | .unwaited reason => .error (.broken (.waiting reason))
  | .undecodable flaw => .error (.broken (.file (.undecodable flaw)))
  | .finished code output errors =>
      if code = notLoadedCode then .error (.known (.notLoaded extension (stripped errors)))
      else if code ≠ 0 then .error (.known (.runFailed code (stripped errors)))
      else readOutput reflector.room extension output

def reflect (reflector : Reflector) (extension : Text) (run : Run) :
    Except SourceFailure Extension :=
  match reflector.unfit? extension with
  | some unfit => .error (.broken (.argument unfit))
  | none => reflector.readRun extension run

end Reflector

end Stubwright
