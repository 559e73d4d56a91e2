import Stubwright.Text.Basic

/-!
Console markup: tags in square brackets style the text between them. Text from outside is escaped,
so that nothing in it is taken for a tag.
-/

namespace Stubwright.Markup

def styled (style text : Text) : Text :=
  "[" ++ style ++ "]" ++ text ++ "[/" ++ style ++ "]"

/-- Whether a tag's bracket closes before another one opens. -/
def closes (rest : Text) : Bool := (rest.takeWhile (· ≠ CodePoint.char '[')).contains ']'

def opensTag : Text → Bool
  | point :: rest =>
      point.isIn (fun c => c.isLower || c = '#' || c = '/' || c = '@') && closes rest
  | [] => false

/-- Escapes the tags of a text that follows `run` backslashes. The backslashes before a tag are
doubled, since they would count as escapes, and one more escapes the tag. -/
def escapeTags (run : Nat) : Text → Text
  | [] => []
  | point :: rest =>
      if point = '\\' then point :: escapeTags (run + 1) rest
      else if point = '[' ∧ opensTag rest then
        List.replicate (run + 1) (.char '\\') ++ point :: escapeTags 0 rest
      else point :: escapeTags 0 rest

/-- A lone backslash at the end would escape the tag that is put behind it. -/
def closeEnd (text : Text) : Text :=
  match text.reverse with
  | .char '\\' :: .char '\\' :: _ => text
  | .char '\\' :: _ => text ++ "\\"
  | _ => text

def escape (text : Text) : Text := closeEnd (escapeTags 0 text)

end Stubwright.Markup
