import Stubwright.Text.Basic

/-!
Control sequences that style what a terminal shows. Output that goes elsewhere is kept free of them.
-/

namespace Stubwright.Text

def isStyleParameter (point : CodePoint) : Bool :=
  point.isIn fun c => c.isDigit || c = ';' || c = '?'

def afterSequence? (text : Text) : Option Text :=
  match text.dropWhile isStyleParameter with
  | .char c :: rest => if c.isAlpha then some rest else none
  | _ => none

theorem length_lt_of_after_sequence? {text after : Text}
    (ended : afterSequence? text = some after) : after.length < text.length := by
  have shorter := (List.dropWhile_suffix isStyleParameter (l := text)).length_le
  unfold afterSequence? at ended
  split at ended
  · rename_i c rest left
    split at ended
    · cases ended
      rw [left] at shorter
      exact shorter
    · cases ended
  · cases ended

/-- A text without its control sequences. What their removal brings together is left alone. -/
def unstyled (text : Text) : Text :=
  match text with
  | [] => []
  | .char '\x1b' :: .char '[' :: rest =>
      match _ended : afterSequence? rest with
      | some after => unstyled after
      | none => .char '\x1b' :: unstyled (.char '[' :: rest)
  | point :: rest => point :: unstyled rest
termination_by text.length
decreasing_by
  · have shorter := length_lt_of_after_sequence? _ended
    simp only [List.length_cons]
    omega
  · simp
  · simp

end Stubwright.Text
