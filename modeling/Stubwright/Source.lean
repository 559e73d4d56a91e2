import Stubwright.Checked
import Stubwright.Declaration
import Stubwright.Diagnostic
import Stubwright.File
import Stubwright.Json

/-!
Sources of metadata, and why they cannot give the metadata of an extension.
-/

namespace Stubwright

/-- Causes that are explained outside this library. A message names only their kind. -/
inductive Cause where
  | validation
  | yaml
  | json
  | system
  deriving DecidableEq

def Cause.mark : Cause → Text
  | .validation => "<validation>"
  | .yaml => "<yaml>"
  | .json => "<json>"
  | .system => "<os>"

/-- How long a reflection run may take, in seconds. -/
inductive Seconds where
  | whole (count : Int)
  | exact (count : Decimal.Double)

def Seconds.text : Seconds → Text
  | .whole count => .ofInt count ++ "s"
  | .exact count => count.toText ++ "s"

inductive SourceError where
  /-- The reflection binary does not exist. -/
  | noBinary (binary : Text)
  | cannotRun (binary reason : Text)
  | timedOut (limit : Seconds) (extension : Text)
  | notLoaded (extension detail : Text)
  | runFailed (code : Int) (detail : Text)
  | badOutput (extension : Text)
  | badReflection (extension : Text) (issues : List Issue)
  | malformedDump (path : Text)
  | unreadableDump (path : Text)
  | dumpNotMapping (path : Text)
  | extensionsNotList (path : Text)
  | badDump (path : Text) (issues : List Issue)
  | notInDump (extension path : Text) (available : List Text)

namespace SourceError

def message : SourceError → Text
  | .noBinary binary => "PHP binary not found: " ++ binary
  | .cannotRun binary reason => "Cannot run PHP binary " ++ binary ++ ": " ++ reason
  | .timedOut limit extension =>
      "PHP timed out after " ++ limit.text ++ " reflecting '" ++ extension ++ "'"
  | .notLoaded extension detail => "Extension '" ++ extension ++ "' is not loaded: " ++ detail
  | .runFailed code detail => "PHP exited with code " ++ Text.ofInt code ++ ": " ++ detail
  | .badOutput extension =>
      "PHP printed invalid JSON for extension '" ++ extension ++ "': " ++ Cause.json.mark
  | .badReflection extension _ =>
      "Invalid metadata for extension '" ++ extension ++ "': " ++ Cause.validation.mark
  | .malformedDump path => "Failed to parse metadata dump " ++ path ++ ": " ++ Cause.yaml.mark
  | .unreadableDump path => "Failed to read metadata dump " ++ path ++ ": " ++ Cause.system.mark
  | .dumpNotMapping path => "Invalid metadata dump format in " ++ path
  | .extensionsNotList path => "'extensions' must be a list in " ++ path
  | .badDump path _ => "Invalid metadata in " ++ path ++ ": " ++ Cause.validation.mark
  | .notInDump extension path available =>
      "Extension '" ++ extension ++ "' not found in " ++ path ++ ". Available: " ++
        (Value.list (available.map .str)).shown

def issues : SourceError → List Issue
  | .badReflection _ issues => issues
  | .badDump _ issues => issues
  | _ => []

/-- Whether the extension is missing, rather than its metadata unusable. -/
def isMissing : SourceError → Bool
  | .noBinary _ => true
  | .cannotRun _ _ => true
  | .notLoaded _ _ => true
  | .notInDump _ _ _ => true
  | _ => false

end SourceError

/-- What breaks the reader of a source, and is no error of the source in its own words. -/
inductive Breakage where
  | file (cause : FileError)
  | output (fault : Json.Fault)
  /-- The name of the interpreter or of the extension is none for the system. -/
  | argument (unfit : Text.Unfit)
  /-- The system cannot wait as long as a run may take. -/
  | waiting (reason : Text)
  deriving DecidableEq

def Breakage.message : Breakage → Text
  | .file cause => cause.message
  | .output fault => fault.message
  | .argument unfit => unfit.message
  | .waiting reason => reason

inductive SourceFailure where
  | known (error : SourceError)
  | broken (cause : Breakage)

end Stubwright
