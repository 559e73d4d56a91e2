import Stubwright.Code.Findings
import Stubwright.Markup
import Stubwright.Stub

/-!
What the program shows on the console beside the stub: tables of problems, and the outline of an
extension. All texts carry markup.
-/

namespace Stubwright

inductive Rows where
  | listed (rows : List (List Text))
  /-- There are rows, but it is not known which. -/
  | unlisted
  deriving DecidableEq

inductive Display where
  | text (markup : Text)
  | table (title : Text) (columns : List Text) (rows : Rows)
  | tree (label : Text) (branches : List (Text × List Text))
  | panel (title body : Text)
  deriving DecidableEq

open Markup

def good (text : Text) : Display := .text (styled "green" ("✅ " ++ text))

namespace Severity

def label : Severity → Text
  | .warning => styled "yellow" "Warning"
  | .error => styled "red" "Error"

end Severity

def Diagnostic.row (diagnostic : Diagnostic) : List Text :=
  [diagnostic.severity.label, diagnostic.construct, diagnostic.message]

def Display.ofDiagnostics (diagnostics : List Diagnostic) : Display :=
  if diagnostics.isEmpty then good "No diagnostics"
  else .table "Diagnostics" ["Severity", "Construct", "Message"]
    (.listed (diagnostics.map Diagnostic.row))

def SyntaxIssue.row (issue : SyntaxIssue) : List Text :=
  [.ofInt issue.line, .ofInt issue.column, issue.message]

def Findings.rows : Findings → Rows
  | .listed issues => .listed (issues.map SyntaxIssue.row)
  | .unlisted => .unlisted

def Display.ofFindings (subject : Text) (findings : Findings) : Display :=
  if findings.isClean then good (subject ++ ": no syntax issues")
  else .table ("Syntax issues in " ++ subject) ["Line", "Column", "Issue"] findings.rows

structure Symbol where
  scope : Option Text
  label : Text
  deriving DecidableEq

def Symbol.ofName (name style word trailer : Text) : Symbol :=
  let qualified := QualifiedName.ofText name
  ⟨qualified.scope, styled style word ++ " " ++ qualified.short ++ trailer⟩

def globalScope : Text := "(global)"

/-- An empty namespace counts as none. -/
def Symbol.branch (symbol : Symbol) : Text :=
  match symbol.scope with
  | none => globalScope
  | some scope => if scope = [] then globalScope else scope

namespace Extension

/-- The symbols of an extension: constants, then functions, then classes. -/
def symbols (extension : Extension) : List Symbol :=
  (extension.constants.map fun constant => .ofName constant.name "magenta" "const" "") ++
    (extension.functions.map fun function => .ofName function.name "green" "function" "()") ++
    (extension.classes.map fun declared =>
      .ofName declared.name "cyan" declared.kind.keyword "")

def outline (extension : Extension) : List (Text × List Text) :=
  extension.symbols.foldl
    (fun branches symbol => Partition.addTo symbol.branch symbol.label branches) []

def heading (extension : Extension) : Text :=
  let name := styled "bold blue" extension.name
  match extension.version with
  | none => name
  | some version => name ++ .when (version ≠ []) (" " ++ styled "dim" version)

def countText (extension : Extension) : Text :=
  .ofNat extension.constants.length ++ " constants, " ++
    .ofNat extension.functions.length ++ " functions, " ++
    .ofNat extension.classes.length ++ " classes"

def displays (extension : Extension) : List Display :=
  [.tree extension.heading
      (extension.outline.map fun branch => (styled "bold" branch.1, branch.2)),
    .text extension.countText]

end Extension

end Stubwright
