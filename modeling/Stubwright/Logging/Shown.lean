import Stubwright.Logging.Setup

/-!
Which records a configuration shows, and the line that is shown for a record. The logger of a part
of the program stands below others: what it has not of its own, it has from the nearest of them.
-/

namespace Stubwright.Logging

/-- The loggers that a record passes, from the one it is given to up to that of the program. The
root is above them all. -/
def channels : Origin → List Text
  | .assembly => below ["generator"]
  | .members => below ["rendering.members", "rendering"]
  | .dump => below ["oracle.dump_file", "oracle"]
  | .reflection => below ["oracle.php_reflection", "oracle"]
  | .logging => below ["logging"]
  | .generateCommand => below ["cli.generate", "cli"]
  | .checkCommand => below ["cli.check", "cli"]
  | .failures => below ["cli.errors", "cli"]
where
  below (names : List Text) : List Text :=
    names.map (Text.ofString "extension_stubgen." ++ ·) ++ [Text.ofString "extension_stubgen"]

/-- Where a line ends: at the breaks of all kinds, and at the separators of pages and records. -/
def endsLine (c : Char) : Bool :=
  let point := c.toNat
  (0x0a ≤ point && point ≤ 0x0d) || (0x1c ≤ point && point ≤ 0x1e) || point = 0x85 ||
    point = 0x2028 || point = 0x2029

/-- What a log can hold of a text: halves are written as escapes. -/
def loggable (text : Text) : Text :=
  text.flatMap fun point =>
    match point with
    | .char c => [.char c]
    | .half offset => Text.ofChars (Text.shortEscape (CodePoint.half offset).number)

/-- The line of a record, without the time. A message of several lines goes on below it. -/
def line (record : Record) : Text :=
  (channels record.origin).headD [] ++ " - " ++ record.level.word ++ " - " ++
    loggable (record.message.takeWhile (!·.isIn endsLine))

def fieldsAt (config : Config) (key : Text) (fields : List (Value × Value)) :
    List (Value × Value) :=
  ((Value.lookup? key fields).bind config.fields?).getD []

def rootFields (config : Config) : List (Value × Value) := fieldsAt config "root" config.entries

def loggerFields (config : Config) (name : Text) : List (Value × Value) :=
  fieldsAt config name (fieldsAt config "loggers" config.entries)

def handlerFields (config : Config) (name : Text) : List (Value × Value) :=
  fieldsAt config name (fieldsAt config "handlers" config.entries)

/-- The weight of a level that is set; without one, and at the level zero, it is left to others. -/
def setWeight? (fields : List (Value × Value)) : Option Nat :=
  match Value.lookup? "level" fields with
  | some (.str level) => (weight? level).filter (· ≠ 0)
  | some (.int number) => if 0 < number then some number.toNat else none
  | _ => none

def handlerNames (fields : List (Value × Value)) : List Text :=
  match Value.lookup? "handlers" fields with
  | some (.list names) => names.filterMap fun name =>
      match name with
      | .str text => some text
      | _ => none
  | _ => []

def keepsRecords (fields : List (Value × Value)) : Bool :=
  match Value.lookup? "propagate" fields with
  | none => false
  | some .null => false
  | some switch => switch.isNothing

def silencesOthers (config : Config) : Bool :=
  match Value.lookup? "disable_existing_loggers" config.entries with
  | none => true
  | some (.link number _) => !(config.fieldsOf number).isEmpty
  | some switch => !switch.isNothing

def reachedHandlers (config : Config) : List Text → List Text
  | [] => handlerNames (rootFields config)
  | name :: above =>
      let own := loggerFields config name
      handlerNames own ++ if keepsRecords own then [] else reachedHandlers config above

/-- The weight that a record needs to pass its logger: the level of the nearest that has one, and
of the root in the end. -/
def loggerWeight (config : Config) (names : List Text) : Nat :=
  let root := rootFields config
  let usual := if (Value.lookup? "level" root).isSome then 0 else 30
  ((names.findSome? fun name => setWeight? (loggerFields config name)).or
    (setWeight? root)).getD usual

/-- A logger is silenced if it is neither named nor stands below one that is. The one that reports
on logging itself is made only afterwards. -/
def isSilenced (config : Config) (origin : Origin) : Bool :=
  origin ≠ .logging && silencesOthers config &&
    (channels origin).all fun name =>
      (Value.lookup? name (fieldsAt config "loggers" config.entries)).isNone

def shows (applied : Applied) (record : Record) : Bool :=
  let weight := record.level.weight
  match applied with
  | .basic least => least ≤ weight
  | .stray _ => false
  | .file config =>
      let names := channels record.origin
      !isSilenced config record.origin && loggerWeight config names ≤ weight &&
        (reachedHandlers config names).any fun name =>
          (setWeight? (handlerFields config name)).getD 0 ≤ weight

def lines (applied : Applied) (records : List Record) : List Text :=
  (records.filter (shows applied)).map line

end Stubwright.Logging
