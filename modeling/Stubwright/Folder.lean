import Stubwright.File
import Stubwright.Path

/-!
The directory that the program works in, with the files below it, and what is known of the files
elsewhere.
-/

namespace Stubwright

/-- Files and directories by the parts of their paths, in the order of their creation. A place that
is reached from the root has the root as its first part, and one that lies above the folder starts
with the steps back. A directory that holds something need not be listed itself. -/
structure Folder where
  entries : List (List Text × FileContent) := []

inductive Blockage where
  /-- Something of the other kind is already there. -/
  | taken
  /-- The way does not go through directories only. -/
  | notDirectory
  /-- The path or a part of it is longer than the system allows. -/
  | tooLong
  deriving DecidableEq

namespace Folder

def rootPart : Text := "/"

def backPart : Text := ".."

/-- Whether a place is sure to be a directory: the folder, one above it, or the root. -/
def isAbove (parts : List Text) : Bool := parts = [rootPart] || parts.all (· = backPart)

def lookup (folder : Folder) (parts : List Text) : FileContent :=
  if isAbove parts then .directory
  else match folder.entries.lookup parts with
    | some content => content
    | none =>
        if folder.entries.any fun entry => parts.isPrefixOf entry.1 then .directory else .missing

def isDirectory (folder : Folder) (parts : List Text) : Bool :=
  folder.lookup parts = .directory

/-- One step from a place, into a part or back. There is no way back from the root. -/
def step (place : List Text) (part : Text) : List Text :=
  if part ≠ backPart then place ++ [part]
  else if place = [rootPart] then place
  else if place.all (· = backPart) then place ++ [backPart]
  else place.dropLast

/-- Where a path leads from a place, part by part. It cannot go through what is no directory. -/
def walk (folder : Folder) (place : List Text) : List Text → Option (List Text)
  | [] => some place
  | part :: rest =>
      if folder.isDirectory place then walk folder (step place part) rest else none

def start (path : Path) : List Text := if path.root = [] then [] else [rootPart]

def resolve (folder : Folder) (path : Path) : Option (List Text) :=
  folder.walk (start path) path.parts

def find (folder : Folder) (path : Path) : FileContent :=
  match folder.resolve path with
  | some parts => folder.lookup parts
  | none => .missing

def byteCount (text : Text) : Nat :=
  (text.map fun point =>
    match point with
    | .char c => c.utf8Size
    | .half _ => 1).sum

def longestPart : Nat := 255

def longestPath : Nat := 4095

/-- Whether a part is too long on the way of a path, as far as there is one. -/
def isOverlongFrom (folder : Folder) (place : List Text) : List Text → Bool
  | [] => false
  | part :: rest =>
      folder.isDirectory place &&
        (longestPart < byteCount part || isOverlongFrom folder (step place part) rest)

/-- Whether the system does not even say of a path that nothing is there. -/
def isOverlong (folder : Folder) (path : Path) : Bool :=
  longestPath < byteCount path.text || folder.isOverlongFrom (start path) path.parts

/-- Puts an entry in; one that is already there is replaced at its place. -/
def put (parts : List Text) (content : FileContent) (folder : Folder) : Folder :=
  if folder.entries.any fun entry => entry.1 = parts then
    ⟨folder.entries.map fun entry => if entry.1 = parts then (parts, content) else entry⟩
  else ⟨folder.entries ++ [(parts, content)]⟩

def ensureFrom (place : List Text) (folder : Folder) : List Text → Except Blockage Folder
  | [] => .ok folder
  | part :: rest =>
      let here := step place part
      if longestPart < byteCount part then .error .tooLong
      else match folder.lookup here with
      | .directory => ensureFrom here folder rest
      | .missing => ensureFrom here (folder.put here .directory) rest
      | .octets _ => .error (if rest = [] then .taken else .notDirectory)

def ensure (path : Path) (folder : Folder) : Except Blockage Folder :=
  if longestPath < byteCount path.text then .error .tooLong
  else ensureFrom (start path) folder path.parts

def write (path : Path) (text : List Char) (folder : Folder) : Except Blockage Folder :=
  if longestPath < byteCount path.text ∨ path.parts.any (longestPart < byteCount ·) then
    .error .tooLong
  else match folder.resolve path with
  | none => .error .notDirectory
  | some parts =>
      if folder.isDirectory parts then .error .taken
      else .ok (folder.put parts (.octets (Text.encodeChars text)))

def inside (folder : Folder) : List (List Text × FileContent) :=
  folder.entries.filter fun entry => entry.1.head? ≠ some rootPart && entry.1.head? ≠ some backPart

def directories (folder : Folder) : List Text :=
  let ways := folder.inside.flatMap fun entry =>
    let size := match entry.2 with
      | .directory => entry.1.length
      | _ => entry.1.length - 1
    (List.range size).map fun count => Text.joinWith "/" (entry.1.take (count + 1))
  (ways.foldl (fun known way => if way ∈ known then known else known ++ [way]) []).mergeSort
    fun left right => !(right.map CodePoint.number).lex (left.map CodePoint.number)

end Folder

end Stubwright
