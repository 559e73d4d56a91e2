import Stubwright.Text.Blank
import Stubwright.Text.Utf8

/-!
Paths in their plain form, without empty parts and without parts that stay in the same directory.
A part that goes back is kept: where it leads depends on the directories.
-/

namespace Stubwright

structure Path where
  /-- The mark that the path starts from the root: empty, a slash, or exactly two slashes. -/
  root : Text
  parts : List Text
  deriving DecidableEq

namespace Path

def rootOf (text : Text) : Text :=
  let slashes := text.takeWhile (· = CodePoint.char '/')
  if slashes.length ≤ 2 then slashes else "/"

def ofText (text : Text) : Path where
  root := rootOf text
  parts := (Text.splitAt (CodePoint.char '/') text).filter fun part => part ≠ [] && part ≠ "."

def text (path : Path) : Text :=
  if path.root = [] ∧ path.parts = [] then "."
  else path.root ++ Text.joinWith "/" path.parts

def unfit? (path : Path) : Option Text.Unfit := Text.unfit? path.text

/-- The directory that a path lies in. A path without parts lies in itself. -/
def parent (path : Path) : Path := { path with parts := path.parts.dropLast }

end Path

end Stubwright
