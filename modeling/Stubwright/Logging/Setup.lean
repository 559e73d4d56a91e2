import Stubwright.Diagnostic
import Stubwright.Folder
import Stubwright.Logging.Override
import Stubwright.Source

/-!
How logging is set up when the program starts: from a configuration file, or plainly on the console
where the file cannot be used.
-/

namespace Stubwright.Logging

/-- A configuration that is put into effect: one from a file, or the plain one, which shows the
records of at least some weight. -/
inductive Applied where
  | file (config : Config)
  | basic (weight : Nat)
  /-- The plain configuration with something else in the place of its level, which has no effect. -/
  | stray (value : Value)

inductive ConfigFault where
  | noFile (path : Text)
  | malformed (path : Text)
  | unreadable (path : Text)
  | notMapping (path : Text)
  | noLevel (level : Text)
  | noVersion
  | otherVersion (version : Text)
  /-- A file that breaks the reader, or a name that the system does not take. -/
  | broken (reason : Text)
  deriving DecidableEq

def ConfigFault.message (mark : Cause → Text) : ConfigFault → Text
  | .noFile path => "No logging configuration found. Expected at: " ++ path
  | .malformed path => "Failed to parse YAML config " ++ path ++ ": " ++ mark .yaml
  | .unreadable path => "Failed to read config file " ++ path ++ ": " ++ mark .system
  | .notMapping path => "Invalid configuration format in " ++ path
  | .noLevel level => "Invalid log level: " ++ level
  | .noVersion => "dictionary doesn't specify a version"
  | .otherVersion version => "Unsupported version: " ++ version
  | .broken reason => reason

inductive Trouble where
  | shape (error : ShapeError)
  | blocked (blockage : Blockage)
  | unread (cause : FileError)
  /-- The level of the plain configuration is none. -/
  | noLevel
  deriving DecidableEq

/-- A fault leads to plain logging; trouble ends the setup. -/
inductive Obstacle where
  | fault (fault : ConfigFault)
  | trouble (trouble : Trouble)
  deriving DecidableEq

def packagedPath : Text := "<package>/logging.yaml"

def entry (key : Text) (value : Value) : Value × Value := (.str key, value)

def named (number : Nat) (entries : List (Value × Value)) : Value := .knot number (.map entries)

def packaged : Config :=
  .ofNamed 0 [entry "version" (.int 1),
    entry "disable_existing_loggers" (.bool false),
    entry "formatters" (named 1 [entry "standard" (named 2 [
      entry "format" (.str "%(asctime)s - %(name)s - %(levelname)s - %(message)s"),
      entry "datefmt" (.str "%Y-%m-%d %H:%M:%S")])]),
    entry "handlers" (named 3 [entry "console" (named 4 [
      entry "class" (.str "logging.StreamHandler"),
      entry "level" (.str "INFO"),
      entry "formatter" (.str "standard"),
      entry "stream" (.str "ext://sys.stderr")])]),
    entry "loggers" (named 5 [entry "extension_stubgen" (named 6 [
      entry "level" (.str "INFO"),
      entry "handlers" (.list [.str "console"]),
      entry "propagate" (.bool false)])]),
    entry "root" (named 7 [
      entry "level" (.str "WARNING"),
      entry "handlers" (.list [.str "console"])])]

/-- Where the configuration is looked for: at a path that was asked for, at one that the
environment names, or in the program itself. -/
inductive Place where
  | asked (path : Path)
  | named (path : Path)
  | packaged

def Place.ofEnvironment (name : Option Text) : Place :=
  match name with
  | none => .packaged
  | some name => if name.isEmpty then .packaged else .named (.ofText name)

def Place.text : Place → Text
  | .asked path => path.text
  | .named path => path.text
  | .packaged => packagedPath

def readFile (room : Yaml.Room) (path : Text) (file : FileContent) : Except Obstacle Config :=
  match file.namedYaml room with
  | .ok value =>
      match Config.ofValue? value with
      | some config => .ok config
      | none => .error (.fault (.notMapping path))
  | .error .unreadable => .error (.fault (.unreadable path))
  | .error (.document .malformed) => .error (.fault (.malformed path))
  | .error cause =>
      if cause.isFatal then .error (.trouble (.unread cause))
      else .error (.fault (.broken cause.message))

/-- A file that the environment names is looked for before it is read. -/
def load (room : Yaml.Room) (folder : Folder) : Place → Except Obstacle Config
  | .packaged => .ok packaged
  | .asked path =>
      match path.unfit? with
      | some unfit => .error (.fault (.broken unfit.message))
      | none => readFile room path.text (folder.find path)
  | .named path =>
      if path.unfit?.isSome then .error (.fault (.noFile path.text))
      else if folder.isOverlong path then .error (.trouble (.blocked .tooLong))
      else if folder.find path = .missing then .error (.fault (.noFile path.text))
      else readFile room path.text (folder.find path)

def withLevel (level : Text) (config : Config) : Except Obstacle Config :=
  if level.isEmpty then .ok config
  else match weight? (capitals level) with
    | none => .error (.fault (.noLevel level))
    | some weight => (config.override (capitals level) weight).mapError (.trouble ∘ .shape)

def makeDirectory (config : Config) (folder : Folder) (handler : Value) :
    Except Obstacle Folder :=
  match (config.fields? handler).bind (Value.lookup? "filename") with
  | none => .ok folder
  | some (.str name) =>
      let directory := (Path.ofText name).parent
      match directory.unfit? with
      | some unfit => .error (.fault (.broken unfit.message))
      | none => (folder.ensure directory).mapError (.trouble ∘ .blocked)
  | some _ => .error (.trouble (.shape .wrongKind))

/-- Goes through the handlers up to the first obstacle; what was created before it stays. -/
def makeDirectories (config : Config) (folder : Folder) :
    List (Value × Value) → Option Obstacle × Folder
  | [] => (none, folder)
  | (_, handler) :: rest =>
      match makeDirectory config folder handler with
      | .ok extended => makeDirectories config extended rest
      | .error obstacle => (some obstacle, folder)

def prepare (folder : Folder) (config : Config) : Option Obstacle × Folder :=
  match Value.lookup? "handlers" config.entries with
  | none => (none, folder)
  | some handlers =>
      match config.fields? handlers with
      | some entries => makeDirectories config folder entries
      | none => (some (.trouble (.shape .noEntries)), folder)

/-- What a setup comes to: the configuration in effect or what stopped it, the folder with the
directories of log files, and what is reported. -/
structure Setup where
  outcome : Except Trouble Applied
  folder : Folder
  records : List Record

def levelOr (level : Text) : Text := if level.isEmpty then "INFO" else level

/-- The layout of lines, as it is written with each of the marks for a field. -/
def layouts : List (Text × Text) :=
  [("%", "%(levelname)s:%(name)s:%(message)s"),
    ("\x7b", "\x7blevelname\x7d:\x7bname\x7d:\x7bmessage\x7d"),
    ("$", "$\x7blevelname\x7d:$\x7bname\x7d:$\x7bmessage\x7d")]

/-- Names in capitals that stand for something else in the place of a level: for the usual layout,
and for all layouts together with what reads them. -/
def strays : List (Text × Value) :=
  [("BASIC_FORMAT", .str ((layouts.map Prod.snd).headD [])),
    ("_STYLES", .map (layouts.map fun layout =>
      (.str layout.1, .tuple [.alien, .str layout.2])))]

def plain (level : Text) : Applied :=
  let name := capitals (levelOr level)
  match strays.lookup name with
  | some value => .stray value
  | none => .basic ((weight? name).getD defaultWeight)

def configured (place : Place) : Record :=
  ⟨.logging, .debug, "Logging configured from: " ++ place.text⟩

def fallbackRecord (mark : Cause → Text) (level : Text) (fault : ConfigFault) :
    Record :=
  ⟨.logging, .warning, "Failed to configure logging from file (" ++ fault.message mark ++
    "), using basic console logging at " ++ levelOr level ++ " level"⟩

def blocked (mark : Cause → Text) (level : Text) (folder : Folder) :
    Obstacle → Setup
  | .trouble trouble => ⟨.error trouble, folder, []⟩
  | .fault fault => ⟨.ok (plain level), folder, [fallbackRecord mark level fault]⟩

/-- Sets logging up from a place. An empty level leaves the levels of the configuration alone. -/
def setup (mark : Cause → Text) (room : Yaml.Room) (folder : Folder) (place : Place)
    (level : Text) : Setup :=
  match load room folder place with
  | .error obstacle => blocked mark level folder obstacle
  | .ok loaded =>
      match withLevel level loaded with
      | .error obstacle => blocked mark level folder obstacle
      | .ok config =>
          match prepare folder config with
          | (some obstacle, extended) => blocked mark level extended obstacle
          | (none, extended) => ⟨.ok (.file config), extended, [configured place]⟩

def versionFault? (config : Config) : Option ConfigFault :=
  match Value.lookup? "version" config.entries with
  | none => some .noVersion
  | some version =>
      let spelled := config.spell version
      if version.keyInt? = some 1 then none
      else if spelled.isWritable then some (.otherVersion spelled.plain)
      else some (.broken (Decimal.tooLongMessage none))

def Setup.refuseStrays (setup : Setup) : Setup :=
  match setup.outcome with
  | .ok (.stray _) => { setup with outcome := .error .noLevel, records := [] }
  | _ => setup

/-- Puts what was set up into effect. A configuration of another version gives way to the plain
one, and anything but a level in the place of the plain one's level stops the setup. -/
def Setup.enforce (mark : Cause → Text) (level : Text) (setup : Setup) : Setup :=
  match setup.outcome with
  | .ok (.file config) =>
      match versionFault? config with
      | none => setup
      | some fault => (blocked mark level setup.folder (.fault fault)).refuseStrays
  | _ => setup.refuseStrays

def setupPlain (folder : Folder) (level : Text) : Setup := ⟨.ok (plain level), folder, []⟩

end Stubwright.Logging
