import Stubwright.Folder

/-!
The arguments of the command line. Options may stand anywhere behind the name of the command; a
later value of an option counts, and two dashes end the options. An argument list that does not fit
is refused as a whole.
-/

namespace Stubwright.Command

structure Switch where
  long : String
  short : Option Char := none
  valued : Bool
  deriving DecidableEq

structure Reading where
  /-- The option whose value comes next. -/
  awaited : Option String := none
  plain : Bool := false
  positional : List String := []
  values : List (String × String) := []
  flags : List String := []

namespace Reading

def takeValue (name value : String) (reading : Reading) : Reading :=
  { reading with awaited := none, values := (name, value) :: reading.values }

def takeFlag (name : String) (reading : Reading) : Reading :=
  { reading with flags := name :: reading.flags }

def takeLong (switches : List Switch) (body : List Char) (reading : Reading) : Option Reading := do
  let name := String.ofList (body.takeWhile (· ≠ '='))
  let switch ← switches.find? fun switch => switch.long = name
  match body.dropWhile (· ≠ '='), switch.valued with
  | _ :: value, true => some (reading.takeValue name (String.ofList value))
  | [], true => some { reading with awaited := some name }
  | _ :: _, false => none
  | [], false => some (reading.takeFlag name)

/-- Reads flags by their letters. A letter of an option with a value ends them, and what follows it
is the value. -/
def takeShort (switches : List Switch) : List Char → Reading → Option Reading
  | [], reading => some reading
  | letter :: rest, reading => do
      let switch ← switches.find? fun switch => switch.short = some letter
      if !switch.valued then takeShort switches rest (reading.takeFlag switch.long)
      else if rest.isEmpty then some { reading with awaited := some switch.long }
      else some (reading.takeValue switch.long (String.ofList rest))

def take (switches : List Switch) (reading : Reading) (argument : String) : Option Reading :=
  match reading.awaited with
  | some name => some (reading.takeValue name argument)
  | none =>
      if reading.plain then some { reading with positional := reading.positional ++ [argument] }
      else match argument.toList with
        | ['-', '-'] => some { reading with plain := true }
        | '-' :: '-' :: body => reading.takeLong switches body
        | '-' :: letter :: rest => takeShort switches (letter :: rest) reading
        | _ => some { reading with positional := reading.positional ++ [argument] }

def ofArguments (switches : List Switch) (arguments : List String) : Option Reading := do
  let reading ← arguments.foldlM (take switches) {}
  if reading.awaited.isSome then none else some reading

def value? (reading : Reading) (name : String) : Option String := reading.values.lookup name

def order (reading : Reading) : List String := (reading.values.reverse.map Prod.fst).eraseDups

def has (reading : Reading) (name : String) : Bool := reading.flags.contains name

end Reading

inductive Misuse where
  | misfit
  /-- The system takes no path with a null character in it, not even to say that nothing
  is there. -/
  | nullPath
  deriving DecidableEq

def existingFile (folder : Folder) (text : String) : Option Path :=
  let path := Path.ofText text
  let asDirectory := ['/'].isSuffixOf text.toList || ['/', '.'].isSuffixOf text.toList
  match folder.find path with
  | .octets _ => if text = "" || asDirectory then none else some path
  | _ => none

/-- A file to be written: it may be there, but must not be a directory. -/
def outputFile (folder : Folder) (text : String) : Option Path :=
  let path := Path.ofText text
  if text ≠ "" ∧ folder.find path = .directory then none else some path

def demand {α : Type} : Option α → Except Misuse α
  | some part => .ok part
  | none => .error .misfit

def checkPath (check : String → Option Path) (text : String) : Except Misuse Path :=
  if (Path.ofText text).unfit?.isSome then .error .nullPath else demand (check text)

def checkPaths (checks : List (String × (String → Option Path))) (reading : Reading) :
    Except Misuse (List (String × Path)) :=
  reading.order.filterMapM fun name => do
    match checks.lookup name, reading.value? name with
    | some check, some text => return some (name, ← checkPath check text)
    | _, _ => return none

structure Generation where
  extension : Text
  dump : Option Path := none
  php : Option Text := none
  output : Option Path := none
  config : Option Path := none
  checkSyntax : Bool := false
  strict : Bool := false
  verbose : Bool := false
  logLevel : Text := "INFO"

structure Listing where
  extension : Text
  dump : Option Path := none
  php : Option Text := none
  logLevel : Text := "INFO"

structure Checking where
  stub : Path
  logLevel : Text := "INFO"

inductive Request where
  | generate (generation : Generation)
  | list (listing : Listing)
  | check (checking : Checking)

namespace Request

def logSwitch : Switch := { long := "log-level", valued := true }

def sourceSwitches : List Switch :=
  [{ long := "dump", short := some 'd', valued := true }, { long := "php", valued := true }]

def generateSwitches : List Switch :=
  sourceSwitches ++
    [{ long := "output", short := some 'o', valued := true },
      { long := "config", short := some 'c', valued := true },
      { long := "check-syntax", valued := false },
      { long := "strict", valued := false },
      { long := "verbose", short := some 'v', valued := false },
      logSwitch]

def levelOf (reading : Reading) : Text := (reading.value? "log-level").getD "INFO"

def subject (reading : Reading) : Option String :=
  match reading.positional with
  | [only] => some only
  | _ => none

def readGenerate (folder : Folder) (arguments : List String) : Except Misuse Request := do
  let reading ← demand (Reading.ofArguments generateSwitches arguments)
  let paths ← checkPaths [("dump", existingFile folder), ("output", outputFile folder),
    ("config", existingFile folder)] reading
  return .generate {
    extension := ← demand (subject reading)
    dump := paths.lookup "dump"
    php := (reading.value? "php").map .ofString
    output := paths.lookup "output"
    config := paths.lookup "config"
    checkSyntax := reading.has "check-syntax"
    strict := reading.has "strict"
    verbose := reading.has "verbose"
    logLevel := levelOf reading }

def readList (folder : Folder) (arguments : List String) : Except Misuse Request := do
  let reading ← demand (Reading.ofArguments (sourceSwitches ++ [logSwitch]) arguments)
  let paths ← checkPaths [("dump", existingFile folder)] reading
  return .list {
    extension := ← demand (subject reading)
    dump := paths.lookup "dump"
    php := (reading.value? "php").map .ofString
    logLevel := levelOf reading }

def readCheck (folder : Folder) (arguments : List String) : Except Misuse Request := do
  let reading ← demand (Reading.ofArguments [logSwitch] arguments)
  return .check {
    stub := ← checkPath (existingFile folder) (← demand (subject reading))
    logLevel := levelOf reading }

/-- The request that a command line makes. Two dashes may stand in front of the command. -/
def ofArguments (folder : Folder) : List String → Except Misuse Request
  | "--" :: name :: arguments => ofName folder name arguments
  | name :: arguments => ofName folder name arguments
  | [] => .error .misfit
where
  ofName (folder : Folder) (name : String) (arguments : List String) : Except Misuse Request :=
    if name = "generate" then readGenerate folder arguments
    else if name = "ls-symbols" then readList folder arguments
    else if name = "check-syntax" then readCheck folder arguments
    else .error .misfit

def logLevel : Request → Text
  | .generate generation => if generation.verbose then "DEBUG" else generation.logLevel
  | .list listing => listing.logLevel
  | .check checking => checking.logLevel

end Request

end Stubwright.Command
