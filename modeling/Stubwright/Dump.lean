import Stubwright.Declaration.Reading
import Stubwright.Source

/-!
Metadata dumps. A dump file holds one extension, or a list of them under `extensions`. It is read
when it is first needed; once it has been read, later changes of the file are not seen.
-/

namespace Stubwright

structure Dump where
  path : Text
  room : Yaml.Room
  file : FileContent
  loaded : Option (List Extension) := none

namespace Dump

/-- Reads extensions one by one and stops at the first that is not valid. -/
def readExtensions (path : Text) : List Value → Except SourceFailure (List Extension)
  | [] => .ok []
  | value :: values =>
      match Extension.read value with
      | .invalid issues => .error (.known (.badDump path issues))
      | .valid extension => do
          let extensions ← readExtensions path values
          return extension :: extensions

def extensionValues (path : Text) (value : Value) : Except SourceFailure (List Value) :=
  match value.unfolded with
  | .map entries =>
      match (Value.lookup? "extensions" entries).map Value.unfolded with
      | none => .ok [.map entries]
      | some (.list values) => .ok values
      | some _ => .error (.known (.extensionsNotList path))
  | _ => .error (.known (.dumpNotMapping path))

def readFile (path : Text) (room : Yaml.Room) (file : FileContent) :
    Except SourceFailure (List Extension) :=
  match file.yaml room with
  | .error (.document .malformed) => .error (.known (.malformedDump path))
  | .error .unreadable => .error (.known (.unreadableDump path))
  | .error cause => .error (.broken (.file cause))
  | .ok value => do
      let values ← extensionValues path value
      readExtensions path values

def loadedRecord (path : Text) (extensions : List Extension) : Record :=
  ⟨.dump, .debug, "Loaded " ++ Text.ofNat extensions.length ++ " extension(s) from " ++ path⟩

def extensions (dump : Dump) : Except SourceFailure (List Extension) × Dump × List Record :=
  match dump.loaded with
  | some extensions => (.ok extensions, dump, [])
  | none =>
      match readFile dump.path dump.room dump.file with
      | .ok extensions =>
          (.ok extensions, { dump with loaded := some extensions },
            [loadedRecord dump.path extensions])
      | .error failure => (.error failure, dump, [])

def sameExtensionName (left right : Text) : Bool := Text.lowercase left = Text.lowercase right

/-- Looks an extension up by its name in any letter case. A lone extension without a name answers
to every name. -/
def find (path extension : Text) (extensions : List Extension) :
    Except SourceFailure Extension :=
  match extensions.find? fun candidate => sameExtensionName candidate.name extension with
  | some found => .ok found
  | none =>
      let missing := .error (.known (.notInDump extension path (extensions.map (·.name))))
      match extensions with
      | [only] => if only.name = [] then .ok { only with name := extension } else missing
      | _ => missing

def available (dump : Dump) : Except SourceFailure (List Text) × Dump × List Record :=
  let (outcome, after, records) := dump.extensions
  (outcome.map fun extensions => extensions.map (·.name), after, records)

def reflect (extension : Text) (dump : Dump) :
    Except SourceFailure Extension × Dump × List Record :=
  let (outcome, after, records) := dump.extensions
  (outcome.bind (find dump.path extension), after, records)

def write (file : FileContent) (dump : Dump) : Dump := { dump with file := file }

end Dump

end Stubwright
