import Stubwright.Command.Run
import Stubwright.Display.Plain

/-!
The program on the console. It looks at the files that the arguments may name, runs the command on
them, and carries out what the command leaves behind. Live metadata is taken from the standard
input, where the reflection script's output is expected.
-/

namespace Stubwright.Console

/-- The texts in the arguments that may be paths: an argument as a whole, what follows its equals
sign, and what follows the letter of an option. -/
def namedPaths (argument : String) : List String :=
  let text := argument.toList
  [argument, String.ofList ((text.dropWhile (· ≠ '=')).drop 1), String.ofList (text.drop 2)]

def shownText (text : Text) : String := String.ofList text.replaced

def placeText (parts : List Text) : String :=
  "/".intercalate <|
    parts.map fun part => if part = Folder.rootPart then "" else shownText part

def placeOf (path : Path) : List Text := path.parts.foldl Folder.step (Folder.start path)

def contentAt (name : String) : IO FileContent := do
  try
    return .octets (← IO.FS.readBinFile name).toList
  catch failure =>
    match failure with
    | .noFileOrDirectory .. => return .missing
    | .permissionDenied .. => return .missing
    | _ => return .directory

def folderOf (names : List String) : IO Folder := do
  let mut folder : Folder := {}
  for name in names do
    let place := placeOf (.ofText name)
    if !Folder.isAbove place then
      match ← contentAt (placeText place) with
      | .missing => pure ()
      | content => folder := folder.put place content
  return folder

def keep (earlier later : Folder) : IO Unit := do
  for (parts, content) in later.entries do
    if earlier.lookup parts ≠ content then
      match content with
      | .octets bytes => IO.FS.writeBinFile (placeText parts) ⟨bytes.toArray⟩
      | .directory => IO.FS.createDirAll (placeText parts)
      | .missing => pure ()

def usesLiveMetadata (folder : Folder) (arguments : List String) : Bool :=
  match Command.Request.ofArguments folder arguments with
  | .ok (.generate generation) => generation.dump.isNone
  | .ok (.list listing) => listing.dump.isNone
  | _ => false

end Stubwright.Console

open Stubwright in
def main (arguments : List String) : IO UInt32 := do
  let logConfig ← IO.getEnv "STUBGEN_LOG_CONFIG"
  let folder ← Console.folderOf (arguments.flatMap Console.namedPaths ++ logConfig.toList)
  let printed ←
    if Console.usesLiveMetadata folder arguments then (← IO.getStdin).readToEnd else pure ""
  let outcome := Command.perform
    { folder := folder, run := .finished 0 printed.toList [],
      phpBinary := (← IO.getEnv "STUBGEN_PHP_BINARY").map .ofString,
      logConfig := logConfig.map .ofString, check := .ok ∘ .ofSource, rooms := .usual } arguments
  Console.keep folder outcome.session.folder
  for line in outcome.lines ++ outcome.session.displays.flatMap Display.plainLines do
    IO.eprintln (Console.shownText line)
  IO.print (String.ofList outcome.session.output)
  return UInt32.ofNat outcome.exit.toNat
