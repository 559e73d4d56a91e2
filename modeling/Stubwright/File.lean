import Stubwright.File.Pieces
import Stubwright.Yaml.Document

/-!
Files, as far as a reader can tell: their bytes, or why there are none. Text files are in UTF-8, and
their line breaks are unified as they are read.
-/

namespace Stubwright

inductive FileContent where
  | octets (bytes : List UInt8)
  | missing
  | directory
  deriving DecidableEq

inductive FileError where
  /-- The system does not give the file out, or does not take it. -/
  | unreadable
  /-- The bytes are no text. -/
  | undecodable (flaw : Text.Flaw)
  | document (failure : Yaml.Failure)
  deriving DecidableEq

namespace FileError

def message : FileError → Text
  | .unreadable => "<os>"
  | .undecodable flaw => flaw.message
  | .document failure => failure.message

def isFatal : FileError → Bool
  | .document failure => failure.isFatal
  | _ => false

def ofFailure : Yaml.Failure → FileError
  | .undecodable flaw => .undecodable flaw
  | failure => .document failure

end FileError

namespace FileContent

def text (file : FileContent) : Except FileError (List Char) :=
  match file with
  | .octets bytes =>
      match Text.decodeUtf8 bytes with
      | .ok chars => .ok (Text.unifyBreaks chars)
      | .error flaw => .error (.undecodable flaw)
  | .missing => .error .unreadable
  | .directory => .error .unreadable

def stream (bytes : List UInt8) : Yaml.Stream :=
  let (pieces, flaw) := Pieces.ofOctets Yaml.Stream.pieceSize bytes
  .ofPieces pieces (flaw.map .undecodable)

/-- What is loaded from a YAML file. Such a file is read piece by piece. -/
def loadWith (load : Yaml.Stream → Except Yaml.Failure Value) (file : FileContent) :
    Except FileError Value :=
  match file with
  | .octets bytes => (load (stream bytes)).mapError .ofFailure
  | .missing => .error .unreadable
  | .directory => .error .unreadable

def yaml (room : Yaml.Room) (file : FileContent) : Except FileError Value :=
  file.loadWith (Yaml.Document.load room)

def namedYaml (room : Yaml.Room) (file : FileContent) : Except FileError Value :=
  file.loadWith (Yaml.Document.loadNamed room)

end FileContent

end Stubwright
