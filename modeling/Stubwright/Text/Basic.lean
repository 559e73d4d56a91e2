/-!
Texts as sequences of Unicode code points. An escape can name one half of a surrogate pair alone,
which is no character, so a text can hold more than characters; such a text has no encoding.
-/

namespace Stubwright

/-- A code point: a character, or half of a surrogate pair, which is none. -/
inductive CodePoint where
  | char (c : Char)
  | half (offset : Fin 0x800)
  deriving DecidableEq

namespace CodePoint

instance : Coe Char CodePoint := ⟨.char⟩

/-- The number of the first half. The halves stand in one block. -/
def firstHalf : Nat := 0xd800

def number : CodePoint → Nat
  | .char c => c.toNat
  | .half offset => firstHalf + offset

def ofNumber (number : Nat) : CodePoint :=
  if inBlock : firstHalf ≤ number ∧ number < firstHalf + 0x800 then
    .half ⟨number - firstHalf, by omega⟩
  else .char (Char.ofNat number)

def isIn (holds : Char → Bool) : CodePoint → Bool
  | .char c => holds c
  | .half _ => false

def char? : CodePoint → Option Char
  | .char c => some c
  | .half _ => none

end CodePoint

abbrev Text := List CodePoint

instance : LawfulBEq Text := List.instLawfulBEq

namespace Text

def ofChars (chars : List Char) : Text := chars.map .char

def ofString (string : String) : Text := ofChars string.toList

instance : Coe String Text := ⟨ofString⟩

def ofInt (number : Int) : Text := ofString (toString number)

def ofNat (number : Nat) : Text := ofString (toString number)

def when (condition : Prop) [Decidable condition] (text : Text) : Text :=
  if condition then text else []

def chars? (text : Text) : Option (List Char) := text.mapM CodePoint.char?

/-- The characters of a text, with the replacement character for every half. -/
def replaced (text : Text) : List Char :=
  text.map fun point => (point.char?).getD '\ufffd'

def joinWith (separator : Text) (texts : List Text) : Text := separator.intercalate texts

theorem chars?_of_chars (chars : List Char) : chars? (ofChars chars) = some chars := by
  induction chars with
  | nil => rfl
  | cons c rest ih =>
      simp only [chars?, ofChars, List.map_cons, List.mapM_cons, CodePoint.char?] at ih ⊢
      simp [ih]

end Text

end Stubwright
