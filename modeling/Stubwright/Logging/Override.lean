import Stubwright.Logging.Config
import Stubwright.Logging.Level
import Stubwright.Value.Key

/-!
How one level is set throughout a configuration. Loggers and the root take the level as it is; a
handler takes it only where it would otherwise drop records of it. The mappings are changed one by
one while the configuration is gone through.
-/

namespace Stubwright.Logging

def putLevel (level : Text) (fields : List (Value × Value)) : List (Value × Value) :=
  Value.putEntry (.str "level") (.str level) fields

/-- The position in a list that a whole number names; negative ones count from the end. -/
def position? (size : Nat) (number : Int) : Option Nat :=
  let place := if number < 0 then number + size else number
  if 0 ≤ place ∧ place < size then some place.toNat else none

namespace Config

def setLevel (level : Text) (logger : Value) (config : Config) : Except ShapeError Config :=
  match logger with
  | .link number _ =>
      match config.mappings number with
      | some fields => .ok (config.put number (putLevel level fields))
      | none => .error .wrongKind
  | _ => .error .wrongKind

def lowerHandler (level : Text) (weight : Nat) (handler : Value) (config : Config) :
    Except ShapeError Config :=
  match handler with
  | .link number _ =>
      let fields := config.fieldsOf number
      match Value.lookup? "level" fields with
      | none => .ok config
      | some (.str held) => do
          if weight < (← heldWeight held) then
            return config.put number (putLevel level fields)
          else return config
      | some _ => .error .wrongKind
  | _ => .ok config

/-- Goes through the entries of a mapping by position, as they stand when they are reached. The
mapping must not grow on the way. -/
def changeEach (change : Value → Config → Except ShapeError Config) (number : Nat) :
    Nat → Nat → Config → Except ShapeError Config
  | 0, _, config => .ok config
  | left + 1, position, config =>
      match (config.fieldsOf number)[position]? with
      | none => .ok config
      | some entry => do
          let changed ← change entry.2 config
          if (changed.fieldsOf number).length ≠ (config.fieldsOf number).length then
            throw .grown
          changeEach change number left (position + 1) changed

def changeAll (change : Value → Config → Except ShapeError Config) (number : Nat)
    (config : Config) : Except ShapeError Config :=
  changeEach change number (config.fieldsOf number).length 0 config

/-- The items of a list are taken for positions in it, where loggers should stand. Not all of them
can be positions and lead to loggers, so the first that does not ends the attempt. -/
def listedTrouble (config : Config) (items : List Value) : Option ShapeError :=
  items.findSome? fun item =>
    let number : Option Int := match item with
      | .int number => some number
      | .bool truth => some (if truth then 1 else 0)
      | _ => none
    match number with
    | none => some .wrongKind
    | some number =>
        match (position? items.length number).bind (items[·]?) with
        | none => some .outOfRange
        | some found => if (config.fields? found).isSome then none else some .wrongKind

/-- The octets of bytes are taken for positions, and never lead to loggers. -/
def octetTrouble (octets : List UInt8) : Option ShapeError :=
  octets.head?.map fun octet =>
    if octet.toNat < octets.length then .wrongKind else .outOfRange

/-- The trouble with something else than a mapping in the place of the loggers. What is empty has no
loggers, of whatever kind it is. -/
def loggersTrouble (config : Config) : Value → Option ShapeError
  | .list items => config.listedTrouble items
  | .tuple items => config.listedTrouble items
  | .bytes octets => octetTrouble octets
  | .str text => if text.isEmpty then none else some .wrongKind
  | .set items => if items.isEmpty then none else some .wrongKind
  | _ => some .wrongKind

def skipLoggers (loggers : Value) (config : Config) : Except ShapeError Config :=
  match config.loggersTrouble loggers with
  | none => .ok config
  | some trouble => .error trouble

def setLoggers (level : Text) (loggers : Value) (config : Config) : Except ShapeError Config :=
  match loggers with
  | .link number _ =>
      if (config.mappings number).isSome then config.changeAll (setLevel level) number
      else .error .wrongKind
  | loggers => config.skipLoggers loggers.unfolded

def lowerHandlers (level : Text) (weight : Nat) (handlers : Value) (config : Config) :
    Except ShapeError Config :=
  match handlers with
  | .link number _ =>
      if (config.mappings number).isSome then config.changeAll (lowerHandler level weight) number
      else .error .noEntries
  | _ => .error .noEntries

def changeUnder (key : Text) (change : Value → Config → Except ShapeError Config)
    (config : Config) : Except ShapeError Config :=
  match Value.lookup? key config.entries with
  | none => .ok config
  | some value => change value config

def override (level : Text) (weight : Nat) (config : Config) : Except ShapeError Config := do
  let config ← config.changeUnder "loggers" (setLoggers level)
  let config ← config.changeUnder "root" (setLevel level)
  config.changeUnder "handlers" (lowerHandlers level weight)

end Config

end Stubwright.Logging
