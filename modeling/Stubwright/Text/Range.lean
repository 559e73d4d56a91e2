/-!
Character classes given as sorted lists of inclusive code point ranges, the form in which the
Unicode property tables of this folder are written down.
-/

namespace Stubwright.Text

def inRanges (ranges : List (Nat × Nat)) (point : Nat) : Bool :=
  ranges.any fun range => range.1 ≤ point && point ≤ range.2

end Stubwright.Text
