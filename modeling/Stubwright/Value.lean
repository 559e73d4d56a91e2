import Stubwright.Decimal.Double
import Stubwright.Text.Basic

/-!
The values that metadata is made of before it is understood: what a dump file or a reflection run
can hold. Mappings and sets keep the order of their first insertion. A collection can stand in
itself; it is then written once, with links at the places where it stands again.
-/

namespace Stubwright

open Decimal

structure Date where
  year : Nat
  month : Nat
  day : Nat
  deriving DecidableEq

/-- A date with a time of day and, if it is tied to a zone, the zone's offset in seconds. -/
structure Moment where
  date : Date
  hour : Nat
  minute : Nat
  second : Nat
  microsecond : Nat
  offset : Option Int
  deriving DecidableEq

inductive Value where
  | null
  | bool (truth : Bool)
  | int (number : Int)
  | float (number : Double)
  | str (text : Text)
  | list (items : List Value)
  | tuple (items : List Value)
  | set (items : List Value)
  | map (entries : List (Value × Value))
  | bytes (octets : List UInt8)
  | date (day : Date)
  | moment (time : Moment)
  /-- A value of a kind that has no place in metadata. -/
  | alien
  /-- A collection that stands in itself: the links with the label lead back to it. -/
  | knot (label : Nat) (body : Value)
  | link (label : Nat) (isMapping : Bool)

namespace Value

def kindName : Value → Text
  | .null => "NoneType"
  | .bool _ => "bool"
  | .int _ => "int"
  | .float _ => "float"
  | .str _ => "str"
  | .list _ => "list"
  | .tuple _ => "tuple"
  | .set _ => "set"
  | .map _ => "dict"
  | .bytes _ => "bytes"
  | .date _ => "date"
  | .moment _ => "datetime"
  | .alien => "object"
  | .knot _ body => body.kindName
  | .link _ isMapping => if isMapping then "dict" else "list"

def lookup? (key : Text) : List (Value × Value) → Option Value
  | [] => none
  | (.str name, value) :: rest => if name = key then some value else lookup? key rest
  | _ :: rest => lookup? key rest

/-- Whether a value counts as nothing: an empty text or collection, a zero, or no value. -/
def isNothing : Value → Bool
  | .null => true
  | .bool truth => !truth
  | .int number => number = 0
  | .float number => number.toInt? = some 0
  | .str text => text.isEmpty
  | .list items => items.isEmpty
  | .tuple items => items.isEmpty
  | .set items => items.isEmpty
  | .map entries => entries.isEmpty
  | .bytes octets => octets.isEmpty
  | .date _ => false
  | .moment _ => false
  | .alien => false
  | .knot _ body => body.isNothing
  | .link _ _ => false

mutual

/-- Puts values in the places of the links that lead out of a value. Keys hold no links. -/
def relinked (target : Nat → Bool → Value) : Value → Value
  | .list items => .list (relinkedAll target items)
  | .tuple items => .tuple (relinkedAll target items)
  | .map entries => .map (relinkedEntries target entries)
  | .knot label body =>
      .knot label <| relinked (fun other isMapping =>
        if other = label then .link other isMapping else target other isMapping) body
  | .link label isMapping => target label isMapping
  | value => value

def relinkedAll (target : Nat → Bool → Value) : List Value → List Value
  | [] => []
  | item :: items => relinked target item :: relinkedAll target items

def relinkedEntries (target : Nat → Bool → Value) : List (Value × Value) → List (Value × Value)
  | [] => []
  | (key, value) :: entries => (key, relinked target value) :: relinkedEntries target entries

end

def filled (label : Nat) (whole : Value) (value : Value) : Value :=
  value.relinked fun other isMapping => if other = label then whole else .link other isMapping

mutual

def leadsTo (label : Nat) : Value → Bool
  | .list items => anyLeadsTo label items
  | .tuple items => anyLeadsTo label items
  | .map entries => entryLeadsTo label entries
  | .knot other body => other != label && leadsTo label body
  | .link other _ => other = label
  | _ => false

def anyLeadsTo (label : Nat) : List Value → Bool
  | [] => false
  | item :: items => leadsTo label item || anyLeadsTo label items

def entryLeadsTo (label : Nat) : List (Value × Value) → Bool
  | [] => false
  | (_, value) :: entries => leadsTo label value || entryLeadsTo label entries

end

def tied (label : Nat) (value : Value) : Value :=
  if value.leadsTo label then .knot label value else value

/-- A value as it is looked into: a collection that stands in itself stands at its links again. -/
def unfolded : Value → Value
  | .knot label body => filled label (.knot label body) body
  | value => value

@[simp]
theorem unfolded_map (entries : List (Value × Value)) :
    (Value.map entries).unfolded = .map entries := rfl

end Value

namespace Date

def isLeap (year : Nat) : Bool := year % 4 = 0 && (year % 100 != 0 || year % 400 = 0)

def monthLength (year month : Nat) : Nat :=
  if month = 2 then (if isLeap year then 29 else 28)
  else if month = 4 || month = 6 || month = 9 || month = 11 then 30 else 31

def dayNumber (date : Date) : Nat :=
  let past := date.year - 1
  let before := (List.range' 1 (date.month - 1)).map (monthLength date.year)
  past * 365 + past / 4 - past / 100 + past / 400 + before.sum + date.day

end Date

namespace Moment

/-- Microseconds on one time line, the zone's offset taken off. -/
def instant (moment : Moment) : Int :=
  let seconds : Int := moment.date.dayNumber * 86400 + moment.hour * 3600 + moment.minute * 60 +
    moment.second
  (seconds - moment.offset.getD 0) * 1000000 + moment.microsecond

/-- Moments with a zone are compared on the common time line. -/
def same (left right : Moment) : Bool :=
  left.offset.isSome = right.offset.isSome && left.instant = right.instant

end Moment

end Stubwright
