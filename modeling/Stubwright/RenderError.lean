import Stubwright.Value.Shown

/-!
Why a part of the metadata is not written. A value without a written form can be replaced by the
placeholder; a form that has no end, or that is too long, cannot.
-/

namespace Stubwright

inductive RenderError where
  /-- A value stands where a type reference is needed. -/
  | unsupportedType (value : Value)
  /-- The value belongs to a kind without literals. -/
  | noLiteral (value : Value)
  /-- The value cannot be the key of an array. -/
  | badKey (key : Value)
  /-- A whole number has too many digits. -/
  | longNumber
  /-- The value is a part of itself, or stands deeper in others than the system can follow. -/
  | endless (circumstance : Text)

namespace RenderError

def message : RenderError → Text
  | .unsupportedType value => "Unsupported type reference: " ++ value.shown
  | .noLiteral value => "Cannot render " ++ value.kindName ++ " value as a PHP literal"
  | .badKey key => "Cannot use " ++ key.kindName ++ " as a PHP array key"
  | .longNumber => Decimal.tooLongMessage none
  | .endless circumstance => "maximum recursion depth exceeded" ++ circumstance

def isFormless : RenderError → Bool
  | .unsupportedType _ => true
  | .noLiteral _ => true
  | .badKey _ => true
  | .longNumber => false
  | .endless _ => false

end RenderError

end Stubwright
