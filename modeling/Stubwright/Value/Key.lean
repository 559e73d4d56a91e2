import Stubwright.Value

/-!
Keys of mappings and members of sets. Numbers of different kinds are one key when they are equal
as numbers, so `true`, `1` and `1.0` share one entry. Putting an equal key again keeps the place
and the spelling of the first and takes the value of the last.
-/

namespace Stubwright.Value

open Decimal

def keyInt? : Value → Option Int
  | .bool truth => some (if truth then 1 else 0)
  | .int number => some number
  | .float number => number.toInt?
  | _ => none

mutual

def sameKey : Value → Value → Bool
  | .null, .null => true
  | .str left, .str right => left = right
  | .bytes left, .bytes right => left = right
  | .date left, .date right => left = right
  | .moment left, .moment right => left.same right
  | .tuple left, .tuple right => sameKeys left right
  | .float left, .float right => left.sameNumber right
  | left, right =>
      match left.keyInt?, right.keyInt? with
      | some i, some j => i = j
      | _, _ => false

def sameKeys : List Value → List Value → Bool
  | [], [] => true
  | left :: lefts, right :: rights => sameKey left right && sameKeys lefts rights
  | _, _ => false

end

mutual

def isKey : Value → Bool
  | .list _ => false
  | .set _ => false
  | .map _ => false
  | .knot _ _ => false
  | .link _ _ => false
  | .tuple items => areKeys items
  | _ => true

def areKeys : List Value → Bool
  | [] => true
  | item :: items => isKey item && areKeys items

end

def putEntry (key value : Value) : List (Value × Value) → List (Value × Value)
  | [] => [(key, value)]
  | (present, old) :: rest =>
      if sameKey present key then (present, value) :: rest
      else (present, old) :: putEntry key value rest

def ofEntries (entries : List (Value × Value)) : Value :=
  .map (entries.foldl (fun built entry => putEntry entry.1 entry.2 built) [])

def putMember (item : Value) (items : List Value) : List Value :=
  if items.any (sameKey · item) then items else items ++ [item]

def setOf (items : List Value) : Value :=
  .set (items.foldl (fun built item => putMember item built) [])

end Stubwright.Value
