import Stubwright.Text.Lowercase
import Stubwright.Value.Key
import Stubwright.Yaml.Base64
import Stubwright.Yaml.Node

/-!
The value of a YAML document. Collections are filled in level by level from the root, so of several
failures the one nearest to the root counts, and among those of one level the first.
-/

namespace Stubwright.Yaml

open Decimal

structure Mishap where
  level : Nat
  failure : Failure

abbrev Built (α : Type) := Except Mishap α

namespace Built

variable {α β γ : Type}

/-- Both parts, or the failure that comes up first. -/
def both (join : α → β → γ) (first : Built α) (second : Built β) : Built γ :=
  match first, second with
  | .ok a, .ok b => .ok (join a b)
  | .error mishap, .ok _ => .error mishap
  | .ok _, .error mishap => .error mishap
  | .error one, .error other => .error (if one.level ≤ other.level then one else other)

end Built

namespace Scalar

def withoutUnderscores (text : Text) : Text := text.filter (· ≠ '_')

def takeSign : Text → Bool × Text
  | .char '-' :: rest => (true, rest)
  | .char '+' :: rest => (false, rest)
  | text => (false, text)

def leadingDigits (text : Text) : List Char :=
  (Decimal.takeSign (Text.trim isMargin text.replaced)).2.takeWhile
    fun c => (Text.digitValue? c).isSome

/-- A whole number in a base. Only in base ten the number of its digits is bounded. -/
def readIn (base : Nat) (text : Text) : Except Failure Int :=
  let digits := (leadingDigits text).length
  if base = 10 ∧ mostDigits < digits then .error (.longNumeral digits)
  else match readInt? base text.replaced with
    | some number => .ok number
    | none => .error (.badNumeral base text)

def sexagesimalInt (parts : List Int) : Int := parts.foldl (fun total part => total * 60 + part) 0

def int (text : Text) : Except Failure Value := do
  let digits := withoutUnderscores text
  if digits.isEmpty then throw .emptyNumeral
  let (negative, body) := takeSign digits
  let magnitude ← match body with
    | [] => throw .emptyNumeral
    | [.char '0'] => pure 0
    | .char '0' :: .char 'b' :: digits => readIn 2 digits
    | .char '0' :: .char 'x' :: digits => readIn 16 digits
    | .char '0' :: _ => readIn 8 body
    | _ =>
        if body.contains ':' then
          sexagesimalInt <$> (Text.splitAt (CodePoint.char ':') body).mapM (readIn 10)
        else readIn 10 body
  return .int (if negative then -magnitude else magnitude)

def readReal (text : Text) : Except Failure Double :=
  match readDouble? text.replaced with
  | some number => .ok number
  | none => .error (.badReal text)

/-- The sum of the parts of a base sixty number, from the least significant one up. What a place
stands for has to be a number itself, also where its part is zero. -/
def sexagesimalReal (parts : List Double) : Except Failure Double := do
  let (total, _) ← parts.reverse.foldlM (fun (state : Double × Int) part =>
    match Double.ofInt state.2 with
    | .finite negative rank =>
        .ok (state.1.add (part.mul (.finite negative rank)), state.2 * 60)
    | _ => .error .hugeReal) (.zero false, 1)
  return total

def float (text : Text) : Except Failure Value := do
  let lower := Text.lowercase (withoutUnderscores text)
  if lower.isEmpty then throw .emptyNumeral
  let (negative, body) := takeSign lower
  let magnitude ←
    if body = ".inf" then pure (.infinite false)
    else if body = ".nan" then pure .nan
    else if body.contains ':' then do
      sexagesimalReal (← (Text.splitAt (CodePoint.char ':') body).mapM readReal)
    else readReal body
  return .float (if negative then magnitude.negate else magnitude)

def truthWords : List (Text × Bool) :=
  [("yes", true), ("no", false), ("true", true), ("false", false), ("on", true), ("off", false)]

def bool (text : Text) : Except Failure Value :=
  let word := Text.lowercase text
  match truthWords.lookup word with
  | some truth => .ok (.bool truth)
  | none => .error (.unknownWord word)

def natOf (digits : List Char) : Nat :=
  ofDigitValues 10 (digits.map fun c => c.toNat - '0'.toNat)

def microseconds (fraction : List Char) : Nat :=
  natOf (fraction.take 6 ++ List.replicate (6 - fraction.length) '0')

def offset (zone : Option (Option (Bool × List Char × List Char))) : Option Int :=
  zone.map fun zone =>
    match zone with
    | none => 0
    | some (negative, hours, minutes) =>
        signed negative (natOf hours * 3600 + natOf minutes * 60)

def timestamp (text : Text) : Except Failure Value :=
  match TimestampText.ofChars? (unbroken text.replaced) with
  | none => .error .notDate
  | some stamp =>
      let date : Date := ⟨natOf stamp.date.1, natOf stamp.date.2.1, natOf stamp.date.2.2⟩
      match stamp.time with
      | none =>
          match date.fault? with
          | none => .ok (.date date)
          | some fault => .error (.badDate fault)
      | some (hour, minute, second, fraction) =>
          let moment : Moment := ⟨date, natOf hour, natOf minute, natOf second,
            microseconds fraction, offset stamp.zone⟩
          match moment.fault? with
          | none => .ok (.moment moment)
          | some fault => .error (.badDate fault)

def binary (text : Text) : Except Failure Value :=
  match Base64.decode? text.replaced with
  | some octets => .ok (.bytes octets)
  | none => .error .malformed

/-- The value of a scalar. A tag of a collection does not fit a scalar. -/
def value (tag : Tag) (text : Text) : Except Failure Value :=
  match tag with
  | .null => .ok .null
  | .bool => bool text
  | .int => int text
  | .float => float text
  | .binary => binary text
  | .timestamp => timestamp text
  | .str => .ok (.str text)
  | _ => .error .malformed

end Scalar

namespace Node

def isScalar : Node → Bool
  | .scalar _ _ => true
  | _ => false

def isMapping : Node → Bool
  | .mapping _ _ _ => true
  | .link _ isMapping => isMapping
  | .knot _ node => node.isMapping
  | .bound _ _ node => node.isMapping
  | _ => false

def tag : Node → Tag
  | .scalar tag _ => tag
  | .sequence tag _ => tag
  | .mapping _ tag _ => tag
  | .link _ _ => .unknown
  | .knot _ node => node.tag
  | .bound _ _ node => node.tag

def withTag (tag : Tag) : Node → Node
  | .scalar _ text => .scalar tag text
  | .sequence _ items => .sequence tag items
  | .mapping label _ entries => .mapping label tag entries
  | .link label isMapping => .link label isMapping
  | .knot label node => .knot label (node.withTag tag)
  | .bound label whole node => .bound label whole (node.withTag tag)

/-- The label of a mapping, by which it is the same wherever it stands. -/
def label : Node → Nat
  | .mapping label _ _ => label
  | _ => 0

mutual

/-- How deep a node is built. What is taken out of a part of a collection comes bound to that part,
so a collection lies two levels above its parts. -/
def depth : Node → Nat
  | .scalar _ _ => 1
  | .sequence _ items => depthOfItems items + 2
  | .mapping _ _ entries => depthOfEntries entries + 2
  | .link _ _ => 1
  | .knot _ node => depth node + 1
  | .bound _ whole node => max (depth whole) (depth node) + 1

def depthOfItems : List Node → Nat
  | [] => 0
  | item :: items => max (depth item) (depthOfItems items)

def depthOfEntries : List (Node × Node) → Nat
  | [] => 0
  | (key, value) :: entries => max (max (depth key) (depth value)) (depthOfEntries entries)

end

mutual

/-- The text that a tag for scalars applies to: a scalar's own, or that of a mapping's default. -/
def scalarText? : Node → Option Text
  | .scalar _ text => some text
  | .mapping _ _ entries => defaultText? entries
  | .knot _ node => scalarText? node
  | .bound _ _ node => scalarText? node
  | _ => none

def defaultText? : List (Node × Node) → Option Text
  | [] => none
  | (key, value) :: entries =>
      if key.tag = .value then scalarText? value else defaultText? entries

end

/-- Entries out of a collection, of which links with its label lead back to it. -/
def boundEntries (label : Nat) (whole : Node) (entries : List (Node × Node)) : List (Node × Node) :=
  entries.map fun entry => (entry.1, .bound label whole entry.2)

mutual

/-- The entries that a mapping merges, and its own. The key for a default is a plain text here. -/
def flatten : List (Node × Node) → Except Failure (List (Node × Node) × List (Node × Node))
  | [] => .ok ([], [])
  | (key, value) :: entries =>
      if key.tag = .merge then do
        let merged ← mergedFrom value
        let (more, own) ← flatten entries
        return (merged ++ more, own)
      else do
        let (merged, own) ← flatten entries
        return (merged, (if key.tag = .value then key.withTag .str else key, value) :: own)

def mergedFrom : Node → Except Failure (List (Node × Node))
  | .mapping _ _ entries => do
      let (merged, own) ← flatten entries
      return merged ++ own
  | .sequence _ items => mergedFromAll items
  | .link _ _ => .ok []
  | .knot label node => do return boundEntries label (.knot label node) (← mergedFrom node)
  | .bound label whole node => do return boundEntries label whole (← mergedFrom node)
  | .scalar _ _ => .error .malformed

/-- Of several mappings that are merged the first has the last word. -/
def mergedFromAll : List Node → Except Failure (List (Node × Node))
  | [] => .ok []
  | item :: items =>
      if item.isMapping then do
        let merged ← mergedFrom item
        let later ← mergedFromAll items
        return later ++ merged
      else .error .malformed

end

/-- All entries of a mapping, the merged ones in front of its own. -/
def entries? : Node → Except Failure (List (Node × Node))
  | .mapping _ _ entries => do
      let (merged, own) ← flatten entries
      return merged ++ own
  | _ => .error .malformed

def items? : Node → Except Failure (List Node)
  | .sequence _ items => .ok items
  | _ => .error .malformed

def onlyEntry? : Node → Except Failure (Node × Node)
  | .mapping _ _ [entry] => .ok entry
  | .knot label node => do
      let entry ← node.onlyEntry?
      return (entry.1, .bound label (.knot label node) entry.2)
  | .bound label whole node => do
      let entry ← node.onlyEntry?
      return (entry.1, .bound label whole entry.2)
  | _ => .error .malformed

def isKey (node : Node) : Bool :=
  match node with
  | .link _ _ => false
  | node => node.tag ∉ [.seq, .map, .set, .omap, .pairs]

end Node

namespace Document

def fail {α : Type} (level : Nat) (failure : Failure) : Built α := .error ⟨level, failure⟩

def lift {α : Type} (level : Nat) (outcome : Except Failure α) : Built α :=
  match outcome with
  | .ok value => .ok value
  | .error failure => fail level failure

def buildAll {α β : Type} (build : α → Built β) : List α → Built (List β)
  | [] => .ok []
  | item :: items => Built.both List.cons (build item) (buildAll build items)

/-- The value of a node inside a collection at a level. The fuel bounds the depth of the node, and
mappings are given names by their labels. -/
def build (name : Nat → Value → Value) : Nat → Nat → Node → Built Value
  | 0, level, _ => fail level .malformed
  | fuel + 1, level, node =>
      let inner := level + 1
      let pair (entry : Node × Node) : Built (Value × Value) :=
        Built.both Prod.mk (build name fuel inner entry.1) (build name fuel inner entry.2)
      let entry (entry : Node × Node) : Built (Value × Value) :=
        Built.both Prod.mk
          (if entry.1.isKey then build name fuel inner entry.1 else fail inner .malformed)
          (build name fuel inner entry.2)
      match node with
      | .link label isMapping => .ok (.link label isMapping)
      | .knot label node => (Value.tied label ·) <$> build name fuel level node
      | .bound label whole node =>
          Built.both (Value.filled label) (build name fuel level whole) (build name fuel level node)
      | node =>
          match node.tag with
          | .seq => do
              let items ← lift inner node.items?
              return .list (← buildAll (build name fuel inner) items)
          | .map => do
              let entries ← lift inner node.entries?
              return name node.label (Value.ofEntries (← buildAll entry entries))
          | .set => do
              let entries ← lift inner node.entries?
              return Value.setOf ((← buildAll entry entries).map Prod.fst)
          | .omap => do
              let items ← lift inner node.items?
              return .list ((← buildAll (single inner pair) items).map asTuple)
          | .pairs => do
              let items ← lift inner node.items?
              return .list ((← buildAll (single inner pair) items).map asTuple)
          | tag =>
              match node.scalarText? with
              | some text =>
                  if tag = .timestamp ∧ !node.isScalar then fail level .mappedDate
                  else lift level (Scalar.value tag text)
              | none => fail level .malformed
where
  single (level : Nat) (pair : Node × Node → Built (Value × Value)) (node : Node) :
      Built (Value × Value) := do
    let entry ← lift level node.onlyEntry?
    pair entry
  asTuple (entry : Value × Value) : Value := .tuple [entry.1, entry.2]

def ofNode (name : Nat → Value → Value) (node : Node) : Except Failure Value :=
  match build name node.depth 0 node with
  | .ok value => .ok value
  | .error mishap => .error mishap.failure

/-- The value of the only document of a text, and null for a text without one. -/
def loadAs (name : Nat → Value → Value) (room : Room) (stream : Stream) : Except Failure Value := do
  match ← Node.ofTokens? room (.ofStream stream) with
  | none => return .null
  | some node => ofNode name node

/-- Mappings are not told apart by name where only their entries count. -/
def unnamed (_ : Nat) (mapping : Value) : Value := mapping

def load (room : Room) (stream : Stream) : Except Failure Value := loadAs unnamed room stream

/-- The value in which every mapping bears its label, the same one wherever it stands. -/
def loadNamed (room : Room) (stream : Stream) : Except Failure Value := loadAs .knot room stream

end Document

end Stubwright.Yaml
