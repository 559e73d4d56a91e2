import Stubwright.Text.Basic
import Stubwright.Text.CaseTable

/-!
Lower-casing by the full Unicode rules. Every character has a lower-case text of its own, except
that a capital sigma looks at its neighbours: it becomes `ς` where it ends a word and `σ` elsewhere.
-/

namespace Stubwright.Text

def isCaseIgnorable (c : Char) : Bool :=
  if c.toNat < 0x80 then c = '\'' || c = '.' || c = ':' || c = '^' || c.toNat = 0x60
  else inRanges caseIgnorableRanges c.toNat

def isCased (c : Char) : Bool :=
  if c.toNat < 0x80 then c.isAlpha else inRanges casedRanges c.toNat

/-- The lower-case text of one character on its own: two characters for the dotted capital I. -/
def lowercaseChar (c : Char) : List Char :=
  if c.toNat < 0x80 then [c.toLower]
  else if c = 'İ' then ['i', '\u0307']
  else match caseRuns.findSome? (·.lower? c.toNat) with
    | some point => [Char.ofNat point]
    | none => [c]

def lowercasePoint : CodePoint → Text
  | .char c => ofChars (lowercaseChar c)
  | .half offset => [.half offset]

def casedAhead : Text → Bool
  | [] => false
  | point :: rest => if point.isIn isCaseIgnorable then casedAhead rest else point.isIn isCased

/-- Lower-cases a text that stands after a letter with case, or after none. -/
def lowercaseAfter (cased : Bool) : Text → Text
  | [] => []
  | point :: rest =>
      (if point = 'Σ' then [if cased && !casedAhead rest then .char 'ς' else .char 'σ']
        else lowercasePoint point) ++
        lowercaseAfter (if point.isIn isCaseIgnorable then cased else point.isIn isCased) rest

def lowercase (text : Text) : Text := lowercaseAfter false text

/-- On ASCII the letters stand for themselves, whatever stands beside them. -/
theorem lowercase_after_of_ascii (cased : Bool) (text : List Char)
    (ascii : ∀ c ∈ text, c.toNat < 0x80) :
    lowercaseAfter cased (ofChars text) = ofChars (text.map Char.toLower) := by
  induction text generalizing cased with
  | nil => rfl
  | cons c rest ih =>
      have small : c.toNat < 0x80 := ascii c (List.mem_cons_self ..)
      have noSigma : c ≠ 'Σ' := by
        rintro rfl
        exact absurd small (by decide)
      have notSigma : CodePoint.char c ≠ 'Σ' := fun same => noSigma (CodePoint.char.inj same)
      simp only [ofChars, List.map_cons, lowercaseAfter, notSigma, if_false, lowercasePoint,
        lowercaseChar, small, if_true, List.map_nil, List.singleton_append]
      exact congrArg _ (ih _ fun d member => ascii d (List.mem_cons_of_mem _ member))

/-- A point that ends a word: it has no case, and it is not passed over in the search for one. -/
def isCaseless (point : CodePoint) : Bool := !point.isIn isCaseIgnorable && !point.isIn isCased

section

variable {mark : CodePoint} (caseless : isCaseless mark = true)
include caseless

theorem cased_ahead_append (left right : Text) :
    casedAhead (left ++ mark :: right) = casedAhead (left ++ [mark]) := by
  simp only [isCaseless, Bool.and_eq_true, Bool.not_eq_true'] at caseless
  induction left with
  | nil => simp [casedAhead, caseless]
  | cons point left ih => simp only [List.cons_append, casedAhead, ih]

/-- Letters on one side of a caseless mark do not see those on the other. -/
theorem lowercase_after_append (cased : Bool) (left right : Text) :
    lowercaseAfter cased (left ++ mark :: right) =
      lowercaseAfter cased (left ++ [mark]) ++ lowercase right := by
  induction left generalizing cased with
  | nil =>
      have both := caseless
      simp only [isCaseless, Bool.and_eq_true, Bool.not_eq_true'] at both
      have noSigma : mark ≠ 'Σ' := by
        rintro rfl
        exact absurd both.2 (by decide)
      simp [lowercaseAfter, noSigma, both, lowercase]
  | cons point left ih =>
      simp only [List.cons_append, lowercaseAfter, cased_ahead_append caseless, ih,
        List.append_assoc]

end

end Stubwright.Text
