import Stubwright.Command.Arguments
import Stubwright.Command.Session
import Stubwright.Logging.Shown
import Stubwright.Stub.Reflected
import Stubwright.Text.Styling

/-!
The commands: writing the stub of an extension, listing its symbols, and checking a stub file.
-/

namespace Stubwright.Command

structure Rooms where
  literal : Site → Literal.Room
  output : Nat
  dump : Yaml.Room
  settings : Yaml.Room
  logging : Yaml.Room

def Rooms.usual : Rooms where
  literal _ := .ofFrames 994
  output := 970
  dump := .ofDepth 486
  settings := .ofDepth 486
  logging := .ofDepth 486

/-- What a command finds around it: the files, what a run of the interpreter comes to, what the
environment names, a checker of stubs, and the room that the system has. -/
structure Surroundings where
  folder : Folder := {}
  run : Run := .finished 0 [] []
  phpBinary : Option Text := none
  logConfig : Option Text := none
  check : List Char → Except Text Findings
  rooms : Rooms

open Steps

def loadSettings (surroundings : Surroundings) (config : Option Path) (php : Option Text) :
    Steps Settings := do
  let settings ← match config with
    | none => pure (Settings.defaults surroundings.phpBinary)
    | some path =>
        ofExcept Failure.ofSettings
          (Settings.ofFile surroundings.phpBinary surroundings.rooms.settings path.text
            ((← get).folder.find path))
  return match php with
    | none => settings
    | some binary => if binary.isEmpty then settings else { settings with phpBinary := binary }

def openSource (surroundings : Surroundings) (dump : Option Path) (settings : Settings) :
    Steps Source :=
  match dump with
  | some path => do
      report [⟨.generateCommand, .info, "Reading extension metadata from " ++ path.text⟩]
      return .stored
        { path := path.text, room := surroundings.rooms.dump, file := (← get).folder.find path }
  | none => do
      report [⟨.generateCommand, .info,
        "Reflecting extension metadata with " ++ settings.phpBinary⟩]
      return .live { binary := settings.phpBinary, room := surroundings.rooms.output }
        surroundings.run

def ensureValid (surroundings : Surroundings) (extension text : Text) : Steps Unit := do
  let findings ← ofExcept .unexpected (surroundings.check (← encodable text))
  if findings.isClean then
    report [⟨.generateCommand, .info,
      "Stub for '" ++ extension ++ "' passed syntax checking"⟩]
  else fail (.badSyntax findings findings.refusal)

/-- Puts a stub where it belongs: on the standard output, free of control sequences, or into a file.
The file is there even if the text then turns out to have no encoding. -/
def deliver (output : Option Path) (text : Text) : Steps Unit :=
  match output with
  | none => do print (← encodable text.unstyled)
  | some path => do
      change (Folder.ensure path.parent)
      change (Folder.write path [])
      let chars ← encodable text
      change (Folder.write path chars)
      display [good ("Stub written to " ++ path.text)]
      report [⟨.generateCommand, .info, "Stub saved to " ++ path.text⟩]

def generate (surroundings : Surroundings) (generation : Generation) : Steps Unit := do
  let settings ← loadSettings surroundings generation.config generation.php
  let source ← openSource surroundings generation.dump settings
  let renderer : Renderer := { settings with room := surroundings.rooms.literal }
  let (made, records) := Stub.ofSource renderer generation.extension source
  report records
  let stub ← ofExcept (fun cause => .unexpected cause.message) made
  if generation.checkSyntax then ensureValid surroundings generation.extension stub.text
  deliver generation.output stub.text
  display [.ofDiagnostics stub.diagnostics]
  if generation.strict && stub.hasErrors then
    fail (.incomplete "generate" "Stub is incomplete, see diagnostics above")

def listSymbols (surroundings : Surroundings) (listing : Listing) : Steps Unit := do
  let settings ← loadSettings surroundings none listing.php
  let source ← openSource surroundings listing.dump settings
  let (reflected, records) := source.reflect listing.extension
  report records
  let extension ← ofExcept Failure.ofSource reflected
  display extension.displays

def checkSyntax (surroundings : Surroundings) (checking : Checking) : Steps Unit := do
  let text ← ofExcept (fun cause => .unexpected cause.message)
    ((← get).folder.find checking.stub).text
  let findings ← ofExcept .unexpected (surroundings.check text)
  display [.ofFindings checking.stub.text findings]
  if !findings.isClean then
    report [⟨.checkCommand, .warning,
      checking.stub.text ++ " has " ++ findings.count ++ " syntax issue(s)"⟩]
    throw (.exit 1)

def execute (surroundings : Surroundings) (request : Request) (session : Session) :
    Option Int × Session :=
  match request with
  | .generate generation =>
      guarded "generate" "Stub generation failed" (generate surroundings generation) session
  | .list listing =>
      guarded "ls-symbols" "Symbol listing failed" (listSymbols surroundings listing) session
  | .check checking =>
      guarded "check-syntax" "Syntax check failed" (checkSyntax surroundings checking) session

/-- What a command line comes to: the exit code, what the session left behind, and the lines of the
records that are shown. -/
structure Outcome where
  exit : Int
  session : Session
  lines : List Text

def usageError : Int := 2

/-- Runs a command line. Logging is set up first; where even that fails, nothing is done. -/
def perform (surroundings : Surroundings) (arguments : List String) : Outcome :=
  match Request.ofArguments surroundings.folder arguments with
  | .error .misfit => ⟨usageError, { folder := surroundings.folder }, []⟩
  | .error .nullPath => ⟨1, { folder := surroundings.folder }, []⟩
  | .ok request =>
      let setup := (Logging.setup Cause.mark surroundings.rooms.logging surroundings.folder
        (.ofEnvironment surroundings.logConfig) request.logLevel).enforce Cause.mark
        request.logLevel
      match setup.outcome with
      | .error _ => ⟨1, { folder := setup.folder }, []⟩
      | .ok applied =>
          let (code, session) := execute surroundings request
            { folder := setup.folder, records := setup.records }
          ⟨code.getD 0, session, Logging.lines applied session.records⟩

end Stubwright.Command
