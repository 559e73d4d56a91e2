import Stubwright.Text.Blank

/-!
Names that may be qualified by a namespace. Leading separators only mark the root and carry no
meaning; the last separator divides the namespace from the short name.
-/

namespace Stubwright

def separator : CodePoint := '\\'

/-- A name taken apart: the namespace, if there is one, and the short name. -/
structure QualifiedName where
  scope : Option Text
  short : Text
  deriving DecidableEq

namespace QualifiedName

def bare (name : Text) : Text := name.dropWhile (· = separator)

def divide : Text → Option Text × Text
  | [] => (none, [])
  | point :: rest =>
      match divide rest with
      | (some scope, short) => (some (point :: scope), short)
      | (none, short) => if point = separator then (some [], short) else (none, point :: short)

def ofText (name : Text) : QualifiedName :=
  let (scope, short) := divide (bare name)
  ⟨scope, short⟩

def joined (name : QualifiedName) : Text :=
  match name.scope with
  | none => name.short
  | some scope => scope ++ "\\" ++ name.short

/-- A reference that means the same in every namespace. -/
def rooted (name : Text) : Text := "\\" ++ bare name

end QualifiedName

end Stubwright
