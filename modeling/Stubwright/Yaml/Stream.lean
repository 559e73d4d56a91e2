import Stubwright.Yaml.Failure

/-!
The text of a YAML file as far as it can be read. A file is read in pieces, each when it is needed,
so what is wrong with a later piece counts only if nothing before it ends the reading.
-/

namespace Stubwright.Yaml

def isAllowed (c : Char) : Bool :=
  let point := c.toNat
  c = '\t' || c = '\n' || c = '\r' || (0x20 ≤ point && point ≤ 0x7e) || point = 0x85 ||
    (0xa0 ≤ point && point ≤ 0xfffd) || 0x10000 ≤ point

structure Stream where
  chars : List Char := []
  /-- Why nothing can be read after the characters, unless they are the whole text. -/
  ending : Option Failure := none

namespace Stream

/-- Puts pieces together, up to the first that holds a character which no document may hold. -/
def ofPortions (ending : Option Failure) : List (List Char) → Stream
  | [] => { ending := ending }
  | portion :: rest =>
      if portion.all isAllowed then
        let later := ofPortions ending rest
        { later with chars := portion ++ later.chars }
      else { ending := some .malformed }

/-- Two pieces are read before anything else is done, and looked at together. -/
def ofPieces (pieces : List (List Char)) (ending : Option Failure) : Stream :=
  match pieces with
  | first :: second :: rest => ofPortions ending ((first ++ second) :: rest)
  | [first] => if ending.isSome then { ending := ending } else ofPortions none [first]
  | [] => { ending := ending }

def pieceSize : Nat := 4096

def cut : Nat → List Char → List (List Char)
  | 0, _ => []
  | fuel + 1, text =>
      if text.isEmpty then [] else text.take pieceSize :: cut fuel (text.drop pieceSize)

def ofChars (text : List Char) : Stream := ofPieces (cut text.length text) none

end Stream

end Stubwright.Yaml
