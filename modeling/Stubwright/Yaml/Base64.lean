/-!
Bytes written in base 64. Characters outside the alphabet are passed over, and padding ends the
text once it completes a group; a group that stays incomplete is an error.
-/

namespace Stubwright.Yaml.Base64

def digit? (c : Char) : Option Nat :=
  if 'A' ≤ c ∧ c ≤ 'Z' then some (c.toNat - 'A'.toNat)
  else if 'a' ≤ c ∧ c ≤ 'z' then some (c.toNat - 'a'.toNat + 26)
  else if '0' ≤ c ∧ c ≤ '9' then some (c.toNat - '0'.toNat + 52)
  else if c = '+' then some 62
  else if c = '/' then some 63
  else none

/-- Decodes from within a group: how many digits of it have been read, the bits that are left over
from them, and the padding seen since the last digit. -/
def decodeFrom (read : Nat) (left padding : Nat) : List Char → Option (List UInt8)
  | [] => if read = 0 then some [] else none
  | c :: rest =>
      if c = '=' then
        if 2 ≤ read ∧ 4 ≤ read + (padding + 1) then some []
        else decodeFrom read left (if 2 ≤ read then padding + 1 else padding) rest
      else match digit? c with
        | none => decodeFrom read left padding rest
        | some value =>
            match read with
            | 0 => decodeFrom 1 value 0 rest
            | 1 => (decodeFrom 2 (value % 16) 0 rest).map (UInt8.ofNat (left * 4 + value / 16) :: ·)
            | 2 => (decodeFrom 3 (value % 4) 0 rest).map (UInt8.ofNat (left * 16 + value / 4) :: ·)
            | _ => (decodeFrom 0 0 0 rest).map (UInt8.ofNat (left * 64 + value) :: ·)

def decode? (text : List Char) : Option (List UInt8) :=
  if text.all fun c => c.toNat < 0x80 then decodeFrom 0 0 0 text else none

end Stubwright.Yaml.Base64
