import Stubwright.Decimal.Shortest
import Stubwright.RenderError
import Stubwright.Text.Blank

/-!
Values as literals of the stub's language. A literal reads back as the value it was written for:
texts escape the quote and the backslash, floats always carry a point or an exponent, and the
least 64-bit integer is written as a difference because its magnitude alone does not fit.
-/

namespace Stubwright.Literal

open Decimal

def leastInt : Int := -(2 ^ (63 : Nat))

def ofInt (number : Int) : Except RenderError Text :=
  if number = leastInt then .ok "-9223372036854775807-1"
  else if Decimal.isTooLong number then .error .longNumber
  else .ok (.ofInt number)

def ofDouble : Double → Text
  | .nan => "NAN"
  | .infinite negative => if negative then "-INF" else "INF"
  | number => number.toText

def escapePoint (point : CodePoint) : Text :=
  if point = '\\' then "\\\\" else if point = '\'' then "\\'" else [point]

def ofText (text : Text) : Text := "'" ++ text.flatMap escapePoint ++ "'"

/-- Array keys are whole numbers and texts; a truth value is neither. -/
def ofKey : Value → Except RenderError Text
  | .int number => ofInt number
  | .str text => .ok (ofText text)
  | key => .error (.badKey key)

def bracketed (items : List Text) : Text := "[" ++ Text.joinWith ", " items ++ "]"

/-- The writing of a value, or of a key of a mapping. -/
inductive Call where
  | value (value : Value)
  | key (key : Value)

/-- Which calls the system has room for, where each stands in those behind it. A call that there is
room for inside others has room on its own. -/
structure Room where
  holds : List Call → Bool
  /-- At what the system gives up where there is no room. -/
  circumstance : List Call → Text
  holds_alone : ∀ calls around, holds (calls ++ around) = true → holds calls = true

namespace Room

def allow {α : Type} (room : Room) (calls : List Call) (outcome : Except RenderError α) :
    Except RenderError α :=
  if room.holds calls then outcome else .error (.endless (room.circumstance calls))

def frames : Call → Nat
  | .value (.list _) => 3
  | .value (.tuple _) => 3
  | .value (.bytes _) => 3
  | .value (.map _) => 2
  | .value _ => 1
  | .key _ => 2

def ofFrames (size : Nat) : Room where
  holds calls := (calls.map frames).sum ≤ size
  circumstance _ := " in comparison"
  holds_alone calls around held := by
    rw [List.map_append, List.sum_append, decide_eq_true_iff] at held
    exact decide_eq_true (Nat.le_trans (Nat.le_add_right _ _) held)

end Room

mutual

/-- A value as a literal, inside the calls that stand around it. A collection that stands in itself
has no end; what comes up before it is reached again counts first. -/
def ofValueWithin (room : Room) (around : List Call) : Value → Except RenderError Text
  | .null => room.allow (.value .null :: around) (.ok "null")
  | .bool truth =>
      room.allow (.value (.bool truth) :: around) (.ok (if truth then "true" else "false"))
  | .int number => room.allow (.value (.int number) :: around) (ofInt number)
  | .float number => room.allow (.value (.float number) :: around) (.ok (ofDouble number))
  | .str text => room.allow (.value (.str text) :: around) (.ok (ofText text))
  | .bytes octets =>
      room.allow (.value (.bytes octets) :: around)
        (.ok (bracketed (octets.map fun octet => Text.ofNat octet.toNat)))
  | .list items =>
      let here := .value (.list items) :: around
      room.allow here do return bracketed (← ofItems room here items)
  | .tuple items =>
      let here := .value (.tuple items) :: around
      room.allow here do return bracketed (← ofItems room here items)
  | .map entries =>
      let here := .value (.map entries) :: around
      room.allow here do return bracketed (← ofEntries room here entries)
  | .set items => room.allow (.value (.set items) :: around) (.error (.noLiteral (.set items)))
  | .date day => room.allow (.value (.date day) :: around) (.error (.noLiteral (.date day)))
  | .moment time =>
      room.allow (.value (.moment time) :: around) (.error (.noLiteral (.moment time)))
  | .alien => room.allow (.value .alien :: around) (.error (.noLiteral .alien))
  | .knot label body => do
      let _ ← ofValueWithin room around body
      .error (.endless (room.circumstance (.value (.knot label body) :: around)))
  | .link label isMapping =>
      .error (.endless (room.circumstance (.value (.link label isMapping) :: around)))

def ofItems (room : Room) (around : List Call) : List Value → Except RenderError (List Text)
  | [] => .ok []
  | item :: items => do
      let text ← ofValueWithin room around item
      let texts ← ofItems room around items
      return text :: texts

/-- Each entry's key is looked at before its value. -/
def ofEntries (room : Room) (around : List Call) :
    List (Value × Value) → Except RenderError (List Text)
  | [] => .ok []
  | (key, value) :: entries => do
      let keyText ← room.allow (.key key :: around) (ofKey key)
      let text ← ofValueWithin room around value
      let texts ← ofEntries room around entries
      return (keyText ++ " => " ++ text) :: texts

end

def ofValue (room : Room) (value : Value) : Except RenderError Text := ofValueWithin room [] value

end Stubwright.Literal
