import Stubwright.Text.Quoted

/-!
Strict UTF-8: every sequence is the shortest one for its code point, and no half of a surrogate
pair is encoded. The decoder reads one byte at a time and keeps what it still waits for.
-/

namespace Stubwright.Text

/-- What the bytes read so far of one character demand: how many bytes are still to come, the
bounds on the next one, and the code point bits gathered. -/
structure Pending where
  owed : Nat
  low : Nat
  high : Nat
  point : Nat

/-- The bounds on a second byte rule out overlong forms, surrogates and points above the range. -/
def Pending.ofLead? (byte : Nat) : Option Pending :=
  if byte < 0x80 then some ⟨0, 0x80, 0xbf, byte⟩
  else if byte < 0xc2 then none
  else if byte < 0xe0 then some ⟨1, 0x80, 0xbf, byte - 0xc0⟩
  else if byte < 0xf0 then
    some ⟨2, if byte = 0xe0 then 0xa0 else 0x80, if byte = 0xed then 0x9f else 0xbf, byte - 0xe0⟩
  else if byte < 0xf5 then
    some ⟨3, if byte = 0xf0 then 0x90 else 0x80, if byte = 0xf4 then 0x8f else 0xbf, byte - 0xf0⟩
  else none

def Pending.next? (pending : Pending) (byte : Nat) : Option Pending :=
  if pending.low ≤ byte ∧ byte ≤ pending.high then
    some ⟨pending.owed - 1, 0x80, 0xbf, pending.point * 64 + (byte - 0x80)⟩
  else none

inductive FlawKind where
  | badStart
  | badContinuation
  | cutOff
  deriving DecidableEq

def FlawKind.text : FlawKind → Text
  | .badStart => "invalid start byte"
  | .badContinuation => "invalid continuation byte"
  | .cutOff => "unexpected end of data"

/-- The first character that cannot be decoded: where it starts, and those of its bytes that were
read and could have belonged to it. -/
structure Flaw where
  kind : FlawKind
  position : Nat
  octets : List UInt8
  deriving DecidableEq

def Flaw.message (flaw : Flaw) : Text :=
  let place := ofNat flaw.position
  let subject : Text := match flaw.octets with
    | [octet] => "byte 0x" ++ ofChars (hexDigits 2 octet.toNat) ++ " in position " ++ place
    | octets => "bytes in position " ++ place ++ "-" ++ ofNat (flaw.position + octets.length - 1)
  "'utf-8' codec can't decode " ++ subject ++ ": " ++ flaw.kind.text

/-- Decodes the rest of a text. The bytes of the character that has been started stand in `begun`,
and it starts at `position`. -/
def decodeAfter (position : Nat) (begun : List UInt8) (pending : Option Pending) :
    List UInt8 → Except Flaw (List Char)
  | [] => if pending.isNone then .ok [] else .error ⟨.cutOff, position, begun⟩
  | byte :: rest =>
      match pending with
      | none =>
          match Pending.ofLead? byte.toNat with
          | none => .error ⟨.badStart, position, [byte]⟩
          | some next =>
              if next.owed = 0 then
                (decodeAfter (position + 1) [] none rest).map (Char.ofNat next.point :: ·)
              else decodeAfter position [byte] (some next) rest
      | some started =>
          match started.next? byte.toNat with
          | none => .error ⟨.badContinuation, position, begun⟩
          | some next =>
              if next.owed = 0 then
                (decodeAfter (position + begun.length + 1) [] none rest).map
                  (Char.ofNat next.point :: ·)
              else decodeAfter position (begun ++ [byte]) (some next) rest

def decodeUtf8 (bytes : List UInt8) : Except Flaw (List Char) := decodeAfter 0 [] none bytes

def decodeUtf8? (bytes : List UInt8) : Option (List Char) := (decodeUtf8 bytes).toOption

/-- The first halves in a text that cannot be encoded: where they start, and all that stand there
one after the other. -/
structure LoneHalves where
  position : Nat
  halves : List (Fin 0x800)
  deriving DecidableEq

def LoneHalves.message (found : LoneHalves) : Text :=
  let place := ofNat found.position
  let subject : Text := match found.halves with
    | [offset] =>
        "character '" ++ ofChars (shortEscape (CodePoint.half offset).number) ++
          "' in position " ++ place
    | halves =>
        "characters in position " ++ place ++ "-" ++ ofNat (found.position + halves.length - 1)
  "'utf-8' codec can't encode " ++ subject ++ ": surrogates not allowed"

def leadingHalves : Text → List (Fin 0x800)
  | .half offset :: rest => offset :: leadingHalves rest
  | _ => []

def loneHalvesFrom (position : Nat) : Text → Option LoneHalves
  | [] => none
  | .char _ :: rest => loneHalvesFrom (position + 1) rest
  | .half offset :: rest => some ⟨position, offset :: leadingHalves rest⟩

def loneHalves? (text : Text) : Option LoneHalves := loneHalvesFrom 0 text

/-- Halves that stand for the bytes of names which are no text. -/
def standsForByte (offset : Fin 0x800) : Bool := 0x480 ≤ offset.val && offset.val < 0x500

def unnameableFrom (position : Nat) : Text → Option LoneHalves
  | [] => none
  | .char _ :: rest => unnameableFrom (position + 1) rest
  | .half offset :: rest =>
      if standsForByte offset then unnameableFrom (position + 1) rest
      else some ⟨position, offset :: leadingHalves rest⟩

def unnameable? (text : Text) : Option LoneHalves := unnameableFrom 0 text

inductive Unfit where
  | halves (found : LoneHalves)
  | null
  deriving DecidableEq

def Unfit.message : Unfit → Text
  | .halves found => found.message
  | .null => "embedded null byte"

/-- A text is encoded before it is searched for null characters. -/
def unfit? (text : Text) : Option Unfit :=
  match unnameable? text with
  | some found => some (.halves found)
  | none => if text.contains '\x00' then some .null else none

def encodable (text : Text) : Except LoneHalves (List Char) :=
  match loneHalves? text with
  | some found => .error found
  | none => .ok text.replaced

def encodeChars (chars : List Char) : List UInt8 := (String.ofList chars).toUTF8.toList

end Stubwright.Text
