import Stubwright.TypeRef.Notation

/-!
Well-formed types: those a declaration can carry. Built-in names are in lower case, class names are
free of the marks of the notation, and only a type of a single name can be nullable, since an
intersection or a union has no place for the mark.
-/

namespace Stubwright

def isTypeMark (point : CodePoint) : Bool :=
  point.isIn fun c => Text.isBlank c || c = '|' || c = '&' || c = '(' || c = ')' || c = '?'

structure IsClassName (name : Text) : Prop where
  nonempty : name ≠ []
  unrooted : name.head? ≠ some separator
  unmarked : ∀ point ∈ name, isTypeMark point = false

instance (name : Text) : Decidable (IsClassName name) :=
  decidable_of_iff
    (name ≠ [] ∧ name.head? ≠ some separator ∧ ∀ point ∈ name, isTypeMark point = false)
    ⟨fun ⟨nonempty, unrooted, unmarked⟩ => ⟨nonempty, unrooted, unmarked⟩,
      fun ⟨nonempty, unrooted, unmarked⟩ => ⟨nonempty, unrooted, unmarked⟩⟩

section

variable (isClass : Text → Prop) [DecidablePred isClass]

def SingleType.IsWellFormed : SingleType → Prop
  | .builtin name _ => name ∈ builtinNames
  | .named name _ => isClass name

instance : (type : SingleType) → Decidable (type.IsWellFormed isClass)
  | .builtin name _ => inferInstanceAs (Decidable (name ∈ builtinNames))
  | .named name _ => inferInstanceAs (Decidable (isClass name))

def Conjunct.IsWellFormed : Conjunct → Prop
  | .named name nullable => isClass name ∧ nullable = false
  | .foreign _ => False

instance : (member : Conjunct) → Decidable (member.IsWellFormed isClass)
  | .named name nullable => inferInstanceAs (Decidable (isClass name ∧ nullable = false))
  | .foreign _ => inferInstanceAs (Decidable False)

def Alternative.IsWellFormed : Alternative → Prop
  | .single type => type.IsWellFormed isClass ∧ type.nullable = false
  | .intersection members => 2 ≤ members.length ∧ ∀ member ∈ members, member.IsWellFormed isClass
  | .foreign _ => False

instance : (member : Alternative) → Decidable (member.IsWellFormed isClass)
  | .single type => inferInstanceAs (Decidable (type.IsWellFormed isClass ∧ type.nullable = false))
  | .intersection members =>
      inferInstanceAs
        (Decidable (2 ≤ members.length ∧ ∀ member ∈ members, member.IsWellFormed isClass))
  | .foreign _ => inferInstanceAs (Decidable False)

def TypeRef.IsWellFormed : TypeRef → Prop
  | .single type => type.IsWellFormed isClass
  | .intersection members => 2 ≤ members.length ∧ ∀ member ∈ members, member.IsWellFormed isClass
  | .union members => 2 ≤ members.length ∧ ∀ member ∈ members, member.IsWellFormed isClass
  | .foreign _ => False

instance : (type : TypeRef) → Decidable (type.IsWellFormed isClass)
  | .single type => inferInstanceAs (Decidable (type.IsWellFormed isClass))
  | .intersection members =>
      inferInstanceAs
        (Decidable (2 ≤ members.length ∧ ∀ member ∈ members, member.IsWellFormed isClass))
  | .union members =>
      inferInstanceAs
        (Decidable (2 ≤ members.length ∧ ∀ member ∈ members, member.IsWellFormed isClass))
  | .foreign _ => inferInstanceAs (Decidable False)

end

/-- The type without a mark for null where the type admits null already. -/
def SingleType.settled : SingleType → SingleType
  | .builtin name nullable => .builtin name (nullable && !admitsNull name)
  | .named name nullable => .named name (nullable && !admitsNull name)

/-- Only a type of a single name can carry a mark that says nothing. -/
def TypeRef.settled : TypeRef → TypeRef
  | .single type => .single type.settled
  | type => type

end Stubwright
