import Mathlib.Data.List.TakeWhile
import Stubwright.Declaration
import Stubwright.Proofs.Script.Name

/-!
How names divide into a namespace and a short name. A namespace is never empty, since no name keeps
the marks of the root in front, and putting a name into a namespace changes the namespace alone. The
two parts joined are the name again, so names with the same parts differ in those marks at most.
-/

namespace Stubwright

def withRoots (roots : Nat) (name : Text) : Text := List.replicate roots separator ++ name

theorem bare_of_unrooted (name : Text) (unrooted : name.head? ≠ some separator) :
    QualifiedName.bare name = name := by
  cases name with
  | nil => rfl
  | cons point rest =>
      have differs : point ≠ separator := by
        rintro rfl
        exact unrooted rfl
      rw [QualifiedName.bare, List.dropWhile_cons, if_neg (by simpa using differs)]

namespace QualifiedName

theorem bare_head (name : Text) : (bare name).head? ≠ some separator := by
  induction name with
  | nil => simp [bare]
  | cons point rest ih =>
      rw [bare, List.dropWhile_cons]
      split
      · exact ih
      · rename_i other
        intro same
        exact other (decide_eq_true (Option.some.inj same))

theorem bare_bare (name : Text) : bare (bare name) = bare name :=
  bare_of_unrooted (bare name) (bare_head name)

theorem bare_with_roots (roots : Nat) (name : Text) : bare (withRoots roots name) = bare name := by
  have dropped : ∀ point ∈ List.replicate roots separator, decide (point = separator) = true := by
    intro point member
    exact decide_eq_true (List.eq_of_mem_replicate member)
  exact List.dropWhile_append_of_pos dropped

theorem exists_roots (name : Text) : ∃ roots, name = withRoots roots (bare name) := by
  have marks : ∀ point ∈ name.takeWhile (· = separator), point = separator := by
    intro point member
    have holds := List.mem_takeWhile_imp member
    exact of_decide_eq_true holds
  refine ⟨(name.takeWhile (· = separator)).length, ?_⟩
  rw [withRoots, ← List.eq_replicate_of_mem marks]
  exact List.takeWhile_append_dropWhile.symm

/-- Only a separator at the front could leave an empty namespace before it. -/
theorem divide_scope_ne_nil {text : Text} (unrooted : text.head? ≠ some separator) :
    (divide text).1 ≠ some [] := by
  cases text with
  | nil => simp [divide]
  | cons point rest =>
      have other : point ≠ separator := fun same => unrooted (congrArg some same)
      rw [divide]
      rcases divide rest with ⟨scope | scope, short⟩
      · dsimp only
        rw [if_neg other]
        exact fun same => Option.some_ne_none _ same.symm
      · exact fun same => List.cons_ne_nil _ _ (Option.some.inj same)

theorem scope_ne_nil (name : Text) : (ofText name).scope ≠ some [] :=
  divide_scope_ne_nil (bare_head name)

theorem divide_within (scope : Text) {short : Text} (single : separator ∉ short) :
    divide (scope ++ separator :: short) = (some scope, short) := by
  induction scope with
  | nil =>
      rw [List.nil_append, divide, divide_of_not_mem short single]
      exact if_pos rfl
  | cons point scope ih => rw [List.cons_append, divide, ih]

/-- What stands in front of a separator has no part in the short name. -/
theorem divide_short (scope rest : Text) :
    (divide (scope ++ separator :: rest)).2 = (divide rest).2 ∧
      (divide (scope ++ separator :: rest)).1 ≠ none := by
  induction scope with
  | nil =>
      rw [List.nil_append, divide]
      rcases divide rest with ⟨scope | scope, short⟩
      · dsimp only
        rw [if_pos rfl]
        exact ⟨rfl, Option.some_ne_none _⟩
      · exact ⟨rfl, Option.some_ne_none _⟩
  | cons point scope ih =>
      rw [List.cons_append, divide]
      rcases divided : divide (scope ++ separator :: rest) with ⟨outer | outer, short⟩
      · exact absurd (congrArg Prod.fst divided) ih.2
      · rw [divided] at ih
        exact ⟨ih.1, Option.some_ne_none _⟩

theorem of_text_of_not_mem {name : Text} (single : separator ∉ name) :
    ofText name = ⟨none, name⟩ := by
  have unrooted : name.head? ≠ some separator := fun same => single (List.mem_of_head? same)
  rw [ofText, bare_of_unrooted name unrooted, divide_of_not_mem name single]

/-- A name put into a namespace, where it leaves the marks of the root behind. -/
def within (scope name : Text) : Text := scope ++ separator :: bare name

section

variable {scope : Text} (nonempty : scope ≠ []) (unrooted : scope.head? ≠ some separator)
include nonempty unrooted

theorem bare_within (name : Text) : bare (within scope name) = within scope name := by
  apply bare_of_unrooted
  rw [within, List.head?_append_of_ne_nil _ nonempty]
  exact unrooted

theorem of_text_within {name : Text} (single : separator ∉ name) :
    ofText (within scope name) = ⟨some scope, name⟩ := by
  have itself : bare name = name :=
    bare_of_unrooted name fun same => single (List.mem_of_head? same)
  rw [ofText, bare_within nonempty unrooted, within, itself, divide_within scope single]

theorem short_within (name : Text) : (ofText (within scope name)).short = (ofText name).short := by
  rw [ofText, bare_within nonempty unrooted]
  exact (divide_short scope (bare name)).1

/-- The namespace is the same on both sides, and its letters do not see those of the names. -/
theorem same_class_within (left right : Text) :
    sameClassName (within scope left) (within scope right) = sameClassName left right := by
  have apart : Text.isCaseless separator = true := by decide
  have lowered : ∀ name, Text.lowercase (within scope name) =
      Text.lowercaseAfter false (scope ++ [separator]) ++ Text.lowercase (bare name) :=
    fun name => Text.lowercase_after_append apart false scope (bare name)
  rw [sameClassName, bare_within nonempty unrooted, bare_within nonempty unrooted, lowered, lowered,
    sameClassName]
  simp only [List.append_cancel_left_eq]

end

/-- The last separator is the one that divides. -/
theorem separator_not_mem_divide (text : Text) : separator ∉ (divide text).2 := by
  induction text with
  | nil => exact List.not_mem_nil
  | cons point rest ih =>
      rw [divide]
      rcases divided : divide rest with ⟨scope | scope, short⟩
      · rw [divided] at ih
        dsimp only
        split
        · exact ih
        · rename_i other
          exact List.not_mem_cons_of_ne_of_not_mem (Ne.symm other) ih
      · rw [divided] at ih
        exact ih

theorem joined_divide (text : Text) : joined ⟨(divide text).1, (divide text).2⟩ = text := by
  induction text with
  | nil => rfl
  | cons point rest ih =>
      rw [divide]
      rcases divided : divide rest with ⟨scope | scope, short⟩
      · rw [divided] at ih
        have same : short = rest := ih
        dsimp only
        split
        · rename_i isSeparator
          rw [isSeparator, ← same]
          rfl
        · rw [← same]
          rfl
      · rw [divided] at ih
        have same : scope ++ "\\" ++ short = rest := ih
        rw [← same]
        rfl

theorem joined_of_text (name : Text) : (ofText name).joined = bare name := joined_divide (bare name)

theorem divide_unscoped_iff (text : Text) : (divide text).1 = none ↔ separator ∉ text := by
  constructor
  · intro unscoped
    have whole := joined_divide text
    rw [joined, unscoped] at whole
    rw [← whole]
    exact separator_not_mem_divide text
  · intro single
    rw [divide_of_not_mem text single]

/-- A name starts with its namespace, so the namespace has no mark of the root in front either. -/
theorem scope_unrooted {name scope : Text} (known : (ofText name).scope = some scope) :
    scope ≠ [] ∧ scope.head? ≠ some separator := by
  have nonempty : scope ≠ [] := by
    rintro rfl
    exact scope_ne_nil name known
  have whole : scope ++ "\\" ++ (ofText name).short = bare name := by
    rw [← joined_of_text name, joined, known]
  have unrooted := bare_head name
  rw [← whole, List.append_assoc, List.head?_append_of_ne_nil _ nonempty] at unrooted
  exact ⟨nonempty, unrooted⟩

/-- Names that are equal up to the marks of the root in front of them. -/
def SameButRoots (left right : Text) : Prop :=
  ∃ name leftRoots rightRoots, left = withRoots leftRoots name ∧ right = withRoots rightRoots name

theorem bare_eq_iff (left right : Text) : bare left = bare right ↔ SameButRoots left right := by
  constructor
  · intro same
    obtain ⟨leftRoots, isLeft⟩ := exists_roots left
    obtain ⟨rightRoots, isRight⟩ := exists_roots right
    exact ⟨bare left, leftRoots, rightRoots, isLeft, same ▸ isRight⟩
  · rintro ⟨name, leftRoots, rightRoots, rfl, rfl⟩
    rw [bare_with_roots, bare_with_roots]

/-- A name divides into a short name without separators and a namespace that is neither empty nor
marked as rooted, and there is none exactly where the name has no separators but marks of the root.
The two joined are the name without those marks, and divide in the same way again, however many
marks are put in front. So the marks are all that names with the same parts can differ in. -/
theorem of_text_rejoins (name : Text) :
    separator ∉ (ofText name).short ∧
    (∀ scope, (ofText name).scope = some scope → scope ≠ [] ∧ scope.head? ≠ some separator) ∧
    ((ofText name).scope = none ↔ separator ∉ bare name) ∧
    (ofText name).joined = bare name ∧
    (∀ roots, ofText (withRoots roots (ofText name).joined) = ofText name) ∧
    ∀ other, ofText other = ofText name ↔ SameButRoots other name := by
  refine ⟨separator_not_mem_divide (bare name), fun scope known => scope_unrooted known,
    divide_unscoped_iff (bare name), joined_of_text name, ?_, ?_⟩
  · intro roots
    rw [joined_of_text, ofText, bare_with_roots, bare_bare, ← ofText]
  · intro other
    rw [← bare_eq_iff]
    constructor
    · intro same
      rw [← joined_of_text other, ← joined_of_text name, same]
    · intro same
      rw [ofText, same, ← ofText]

/-- Neighbouring separators stay in the namespace, and one at the end leaves no short name. -/
example : ofText "\\\\A\\\\B\\" = ⟨some "A\\\\B", ""⟩ ∧ ofText "\\\\" = ⟨none, ""⟩ := by decide

end QualifiedName

end Stubwright
