import Stubwright.Yaml.Resolution
import Stubwright.Yaml.Token

/-!
Nodes: the tree that a document's tokens stand for, with tags expanded, plain scalars resolved, and
every alias replaced by the node that its anchor names. Only an alias inside the collection that it
names stays, as a link to it.
-/

namespace Stubwright.Yaml

inductive Node where
  | scalar (tag : Tag) (text : Text)
  | sequence (tag : Tag) (items : List Node)
  /-- The label tells a mapping from all others: only its aliases have the same. -/
  | mapping (label : Nat) (tag : Tag) (entries : List (Node × Node))
  | link (label : Nat) (isMapping : Bool)
  /-- A collection that the links with the label in it lead back to. -/
  | knot (label : Nat) (node : Node)
  /-- A node of which links with the label lead to a collection that it was taken out of. -/
  | bound (label : Nat) (whole node : Node)

/-- Whether the system has room for one more collection, by the number of those that it stands in
and the tokens that follow. -/
abbrev Room := Nat → List Token → Bool

def Room.ofDepth (deepest : Nat) : Room := fun depth _ => depth < deepest

/-- Tokens still to be read and why they end early, the nodes of the anchors so far, the expansions
of tag handles, how many collections are open, and how many labels are in use. The anchor of a
collection that is still being read stands for a link to it. -/
structure Composer where
  tokens : List Token
  ending : Option Failure
  room : Room
  anchors : List (String × Node) := []
  handles : List (String × String) := []
  depth : Nat := 0
  labels : Nat := 0

abbrev Compose := StateT Composer (Except Failure)

namespace Node

mutual

/-- Whether a link with a label in the node leads out of it. -/
def leadsTo (label : Nat) : Node → Bool
  | .scalar _ _ => false
  | .sequence _ items => anyLeadsTo label items
  | .mapping _ _ entries => entryLeadsTo label entries
  | .link other _ => other = label
  | .knot other node => other != label && leadsTo label node
  | .bound other whole node => leadsTo label whole || (other != label && leadsTo label node)

def anyLeadsTo (label : Nat) : List Node → Bool
  | [] => false
  | item :: items => leadsTo label item || anyLeadsTo label items

def entryLeadsTo (label : Nat) : List (Node × Node) → Bool
  | [] => false
  | (key, value) :: entries =>
      leadsTo label key || leadsTo label value || entryLeadsTo label entries

end

end Node

namespace Compose

def malformed {α : Type} : Compose α := throw Failure.malformed

def peek : Compose (Option Token) := do
  let composer ← get
  match composer.tokens, composer.ending with
  | [], some failure => throw failure
  | tokens, _ => return tokens.head?

def skip : Compose Unit := modify fun composer => { composer with tokens := composer.tokens.tail }

def nextIn (tokens : List Token) : Compose Bool := do
  match ← peek with
  | some token => return token ∈ tokens
  | none => return false

def accept (token : Token) : Compose Bool := do
  if ← nextIn [token] then
    skip
    return true
  else return false

def empty : Node := .scalar .null []

def label : Compose Nat :=
  modifyGet fun composer => (composer.labels, { composer with labels := composer.labels + 1 })

def inside {α : Type} (contents : Compose α) : Compose α := do
  let composer ← get
  if !composer.room composer.depth composer.tokens then throw .tooDeep
  modify fun composer => { composer with depth := composer.depth + 1 }
  let read ← contents
  modify fun composer => { composer with depth := composer.depth - 1 }
  return read

def properties : Compose (Option TagName × Option String) := do
  match ← peek with
  | some (.anchor name) =>
      skip
      match ← peek with
      | some (.tag tag) =>
          skip
          return (some tag, some name)
      | _ => return (none, some name)
  | some (.tag tag) =>
      skip
      match ← peek with
      | some (.anchor name) =>
          skip
          return (some tag, some name)
      | _ => return (some tag, none)
  | _ => return (none, none)

/-- A tag with its handle expanded. The lone mark is the same as no tag. -/
def expandTag (tag : TagName) : Compose String := do
  match tag.handle with
  | none => return tag.rest
  | some handle =>
      match (← get).handles.lookup handle with
      | some expansion => return expansion ++ tag.rest
      | none => malformed

def isAnchored (name : String) : Compose Bool := return ((← get).anchors.lookup name).isSome

/-- Opens an anchor for the node that comes next. A mapping takes the next label for itself. -/
def openAnchor (name : String) : Compose Nat := do
  if ← isAnchored name then malformed
  let isMapping ← nextIn [.flowMappingStart, .blockMappingStart]
  let label ← if isMapping then pure (← get).labels else label
  modify fun composer =>
    { composer with anchors := (name, .link label isMapping) :: composer.anchors }
  return label

/-- Gives an anchor its node. Nodes that were taken out of a collection while it was read are bound
to it. -/
def closeAnchor (name : String) (label : Nat) (made : Node) : Compose Node := do
  let whole := if made.leadsTo label then .knot label made else made
  let bind (node : Node) : Node := if node.leadsTo label then .bound label whole node else node
  modify fun composer =>
    { composer with
      anchors := (name, whole) :: composer.anchors.map fun other => (other.1, bind other.2) }
  return whole

def aliased (name : String) : Compose Node := do
  match (← get).anchors.lookup name with
  | none => malformed
  | some node => return node

def scalarTag (tag : Option String) (text : Text) (plain : Bool) : Tag :=
  match tag with
  | none => if plain then .ofText text else .str
  | some uri => if uri = "!" then .ofText text else .ofUri uri

def collectionTag (tag : Option String) (fallback : Tag) : Tag :=
  match tag with
  | none => fallback
  | some uri => if uri = "!" then fallback else .ofUri uri

mutual

/-- A node. Only where `block` is set may it be a block collection, and only where `indentless` is
set may its entries stand at the indentation of the mapping around it. -/
def node (block indentless : Bool) : Nat → Compose Node
  | 0 => malformed
  | fuel + 1 => do
      match ← peek with
      | some (.alias name) =>
          skip
          aliased name
      | _ =>
          let (tagName, anchor) ← properties
          let tag ← match tagName with
            | none => pure none
            | some name => some <$> expandTag name
          let _ ← peek
          match anchor with
          | none => content block indentless tag tagName.isSome fuel
          | some name =>
              let label ← openAnchor name
              let made ← content block indentless tag true fuel
              closeAnchor name label made

def content (block indentless : Bool) (tag : Option String) (hasProperties : Bool) :
    Nat → Compose Node
  | 0 => malformed
  | fuel + 1 => do
      match ← peek with
      | some .blockEntry =>
          if indentless then
            return .sequence (collectionTag tag .seq) (← inside (indentlessItems fuel))
          else if hasProperties then return .scalar (scalarTag tag [] true) []
          else malformed
      | some (.scalar text plain) =>
          skip
          return .scalar (scalarTag tag text plain) text
      | some .flowSequenceStart =>
          skip
          return .sequence (collectionTag tag .seq) (← inside (flowItems true fuel))
      | some .flowMappingStart =>
          let label ← label
          skip
          return .mapping label (collectionTag tag .map) (← inside (flowPairs true fuel))
      | some .blockSequenceStart =>
          if block then
            skip
            return .sequence (collectionTag tag .seq) (← inside (blockItems fuel))
          else if hasProperties then return .scalar (scalarTag tag [] true) []
          else malformed
      | some .blockMappingStart =>
          if block then
            let label ← label
            skip
            return .mapping label (collectionTag tag .map) (← inside (blockPairs fuel))
          else if hasProperties then return .scalar (scalarTag tag [] true) []
          else malformed
      | _ => if hasProperties then return .scalar (scalarTag tag [] true) [] else malformed

def nodeUnless (ends : List Token) (block indentless : Bool) : Nat → Compose Node
  | 0 => malformed
  | fuel + 1 => do
      if ← nextIn ends then return empty else node block indentless fuel

def blockItems : Nat → Compose (List Node)
  | 0 => malformed
  | fuel + 1 => do
      if ← accept .blockEntry then
        let item ← nodeUnless [.blockEntry, .blockEnd] true false fuel
        return item :: (← blockItems fuel)
      else if ← accept .blockEnd then return []
      else malformed

def indentlessItems : Nat → Compose (List Node)
  | 0 => malformed
  | fuel + 1 => do
      if ← accept .blockEntry then
        let item ← nodeUnless [.blockEntry, .key, .value, .blockEnd] true false fuel
        return item :: (← indentlessItems fuel)
      else return []

def blockPairs : Nat → Compose (List (Node × Node))
  | 0 => malformed
  | fuel + 1 => do
      if ← accept .key then
        let key ← nodeUnless [.key, .value, .blockEnd] true true fuel
        let value ← valueAfter [.key, .value, .blockEnd] true fuel
        return (key, value) :: (← blockPairs fuel)
      else if ← accept .blockEnd then return []
      else malformed

def valueAfter (ends : List Token) (block : Bool) : Nat → Compose Node
  | 0 => malformed
  | fuel + 1 => do
      if ← accept .value then nodeUnless ends block block fuel else return empty

def flowItems (first : Bool) : Nat → Compose (List Node)
  | 0 => malformed
  | fuel + 1 => do
      if ← accept .flowSequenceEnd then return []
      if !first then
        if !(← accept .flowEntry) then malformed
      if ← accept .key then
        let label ← label
        let pair ← inside do
          let key ← nodeUnless [.value, .flowEntry, .flowSequenceEnd] false false fuel
          return (key, ← valueAfter [.flowEntry, .flowSequenceEnd] false fuel)
        return .mapping label .map [pair] :: (← flowItems false fuel)
      else if ← accept .flowSequenceEnd then return []
      else
        let item ← node false false fuel
        return item :: (← flowItems false fuel)

def flowPairs (first : Bool) : Nat → Compose (List (Node × Node))
  | 0 => malformed
  | fuel + 1 => do
      if ← accept .flowMappingEnd then return []
      if !first then
        if !(← accept .flowEntry) then malformed
      if ← accept .key then
        let key ← nodeUnless [.value, .flowEntry, .flowMappingEnd] false false fuel
        let value ← valueAfter [.flowEntry, .flowMappingEnd] false fuel
        return (key, value) :: (← flowPairs false fuel)
      else if ← accept .flowMappingEnd then return []
      else
        let key ← node false false fuel
        return (key, empty) :: (← flowPairs false fuel)

end

/-- Reads the directives in front of a document. There is one version, of the first generation, and
one expansion for each handle. -/
def directives (version : Bool) : Nat → Compose Unit
  | 0 => malformed
  | fuel + 1 => do
      match ← peek with
      | some (.directive content) =>
          skip
          match content with
          | .version major =>
              if version || major ≠ 1 then malformed
              directives true fuel
          | .tag handle expansion =>
              if ((← get).handles.lookup handle).isSome then malformed
              modify fun composer =>
                { composer with handles := (handle, expansion) :: composer.handles }
              directives version fuel
          | .other => directives version fuel
      | _ => return

/-- Handles that need no directive; a directive may give them another meaning. -/
def standardHandles : List (String × String) := [("!", "!"), ("!!", tagNamespace)]

def addStandardHandles : Compose Unit :=
  modify fun composer => { composer with handles := composer.handles ++ standardHandles }

def skipDocumentEnds : Nat → Compose Unit
  | 0 => return
  | fuel + 1 => do
      if ← accept .documentEnd then skipDocumentEnds fuel

/-- The only document of a text, if there is one. A text without directives and marks is one too. -/
def document (fuel : Nat) : Compose (Option Node) := do
  let announced ← match ← peek with
    | some (.directive _) => pure true
    | some .documentStart => pure true
    | _ => pure false
  if (← peek).isNone then return none
  let root ← if announced then do
      directives false fuel
      addStandardHandles
      if !(← accept .documentStart) then malformed
      match ← peek with
      | none => pure empty
      | some (.directive _) => pure empty
      | some .documentStart => pure empty
      | some .documentEnd => pure empty
      | _ => node true false fuel
    else do
      addStandardHandles
      node true false fuel
  skipDocumentEnds fuel
  if (← peek).isSome then
    directives false fuel
    let _ ← peek
    malformed
  return some root

end Compose

def Node.ofTokens? (room : Room) (list : TokenList) : Except Failure (Option Node) :=
  let fuel := 4 * list.tokens.length + 8
  match (Compose.document fuel).run { tokens := list.tokens, ending := list.ending, room } with
  | .ok (root, _) => .ok root
  | .error failure => .error failure

end Stubwright.Yaml
