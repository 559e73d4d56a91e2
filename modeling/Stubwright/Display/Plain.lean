import Stubwright.Display

/-!
Displays as plain lines, for a console without styles.
-/

namespace Stubwright

namespace Markup

/-- A text without its tags; an escaped bracket loses its backslash. -/
def unstyled (inTag : Bool) : Text → Text
  | [] => []
  | .char '\\' :: .char '[' :: rest =>
      if inTag then unstyled inTag rest else '[' :: unstyled inTag rest
  | point :: rest =>
      if inTag then unstyled (point ≠ ']') rest
      else if point = '[' ∧ opensTag rest then unstyled true rest
      else point :: unstyled false rest

def plain (markup : Text) : Text := unstyled false markup

end Markup

namespace Display

def cellSeparator : Text := " | "

def plainRow (cells : List Text) : Text :=
  Text.joinWith cellSeparator (cells.map Markup.plain)

def plainRows : Rows → List Text
  | .listed rows => rows.map plainRow
  | .unlisted => []

def plainLines : Display → List Text
  | .text markup => [Markup.plain markup]
  | .table title columns rows => title :: plainRow columns :: plainRows rows
  | .tree label branches =>
      Markup.plain label :: branches.flatMap fun branch =>
        ("  " ++ Markup.plain branch.1) :: branch.2.map fun leaf => "    " ++ Markup.plain leaf
  | .panel title body => [title, Markup.plain body]

end Display

end Stubwright
