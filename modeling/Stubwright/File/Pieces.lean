import Stubwright.Text.Blank
import Stubwright.Text.Utf8

/-!
Text files read in pieces of some number of characters. Bytes are decoded in portions; a character
that a portion cuts off is finished with the next one, so the place of a flaw is counted from the
start of its portion, or of the character that was left over before it.
-/

namespace Stubwright

structure Pieces where
  octets : List UInt8
  /-- The bytes of a character whose end has not been read. -/
  begun : List UInt8 := []
  /-- Whether a carriage return is held back because a line feed may follow it. -/
  returned : Bool := false
  /-- Characters that are decoded and not yet given out. -/
  ready : List Char := []
  /-- The sizes of the last portion, in bytes and in characters. -/
  lastSizes : Nat × Nat := (1, 1)

namespace Pieces

/-- Decodes as far as characters are complete, and gives the bytes that are left over. -/
def decodeComplete (bytes : List UInt8) : Except Text.Flaw (List Char × List UInt8) :=
  match Text.decodeUtf8 bytes with
  | .ok chars => .ok (chars, [])
  | .error flaw =>
      if flaw.kind = .cutOff then
        .ok ((Text.decodeUtf8? (bytes.take flaw.position)).getD [], bytes.drop flaw.position)
      else .error flaw

def leastPortion : Nat := 8192

/-- How many bytes are read when some number of characters is wanted: as many as these took in the
last portion, and never fewer than one for each. -/
def portionSize (wanted : Nat) (pieces : Pieces) : Nat :=
  let (octets, chars) := pieces.lastSizes
  max leastPortion (if chars = 0 then wanted else max wanted (wanted * octets / chars))

/-- Decodes one more portion; without one left, the characters end or the last one is cut off. -/
def readPortion (wanted : Nat) (pieces : Pieces) : Except Text.Flaw Pieces := do
  let portion := pieces.octets.take (pieces.portionSize wanted)
  if portion.isEmpty then
    if !pieces.begun.isEmpty then throw ⟨.cutOff, 0, pieces.begun⟩
    return { pieces with
      returned := false, ready := pieces.ready ++ if pieces.returned then ['\n'] else [] }
  else
    let (decoded, begun) ← decodeComplete (pieces.begun ++ portion)
    let chars := (if pieces.returned && !decoded.isEmpty then ['\r'] else []) ++ decoded
    let held := chars.getLast? = some '\r'
    let complete := Text.unifyBreaks (if held then chars.dropLast else chars)
    return {
      octets := pieces.octets.drop portion.length
      begun := begun
      returned := held || (pieces.returned && decoded.isEmpty)
      ready := pieces.ready ++ complete
      lastSizes := (portion.length, complete.length) }

def prepare (size : Nat) : Nat → Pieces → Except Text.Flaw Pieces
  | 0, pieces => .ok pieces
  | fuel + 1, pieces =>
      if size ≤ pieces.ready.length then .ok pieces
      else do
        let more ← readPortion (size - pieces.ready.length) pieces
        if pieces.octets.isEmpty then return more else prepare size fuel more

/-- All pieces of one size, the last one possibly smaller, up to a flaw if there is one. -/
def readAll (size : Nat) : Nat → Pieces → List (List Char) × Option Text.Flaw
  | 0, _ => ([], none)
  | fuel + 1, pieces =>
      match prepare size (pieces.octets.length + 1) pieces with
      | .error flaw => ([], some flaw)
      | .ok prepared =>
          if prepared.ready.isEmpty then ([], none)
          else
            let (later, flaw) := readAll size fuel
              { prepared with ready := prepared.ready.drop size }
            (prepared.ready.take size :: later, flaw)

def ofOctets (size : Nat) (octets : List UInt8) : List (List Char) × Option Text.Flaw :=
  readAll size (octets.length + 1) { octets := octets }

end Pieces

end Stubwright
