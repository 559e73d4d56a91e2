import Stubwright.Code.Grammar

/-!
What a check of a source finds. The grammar decides whether a source is well formed; it does not
say where one that is not goes wrong, so the issues of such a source stay unlisted.
-/

namespace Stubwright

structure SyntaxIssue where
  line : Int
  column : Int
  message : Text
  deriving DecidableEq

def SyntaxIssue.text (issue : SyntaxIssue) : Text :=
  .ofInt issue.line ++ ":" ++ .ofInt issue.column ++ ": " ++ issue.message

inductive Findings where
  | listed (issues : List SyntaxIssue)
  /-- There are issues, but their number and places are not known. -/
  | unlisted
  deriving DecidableEq

namespace Findings

def ofSource (source : List Char) : Findings :=
  if Code.isValid source then .listed [] else .unlisted

def isClean : Findings → Bool
  | .listed issues => issues.isEmpty
  | .unlisted => false

def count : Findings → Text
  | .listed issues => .ofNat issues.length
  | .unlisted => "<n>"

def refusal (findings : Findings) : Text :=
  let summary := "Stub has " ++ findings.count ++ " syntax issue(s)"
  match findings with
  | .listed issues => summary ++ ": " ++ Text.joinWith "; " (issues.map SyntaxIssue.text)
  | .unlisted => summary

end Findings

end Stubwright
