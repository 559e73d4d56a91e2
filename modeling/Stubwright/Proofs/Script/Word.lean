import Stubwright.Text.Basic

/-!
Words of a script: a letter, an underscore or any character beyond ASCII, and then digits as well.
Some words are reserved and cannot be names; their letter case does not matter.
-/

namespace Stubwright.Script

def isSpace (point : CodePoint) : Bool :=
  point.isIn fun c => c = ' ' || c = '\t' || c = '\n' || c = '\r'

def isWordStart : CodePoint → Bool
  | .char c => c.isAlpha || c = '_' || 0x80 ≤ c.toNat
  | .half _ => false

def isWordPoint (point : CodePoint) : Bool := isWordStart point || point.isIn Char.isDigit

/-- Lower case as far as the language knows it. -/
def lowerPoint : CodePoint → CodePoint
  | .char c => .char c.toLower
  | .half offset => .half offset

def lower (word : Text) : Text := word.map lowerPoint

def reservedWords : List String :=
  ["__class__", "__dir__", "__file__", "__function__", "__halt_compiler", "__line__", "__method__",
    "__namespace__", "__trait__", "abstract", "and", "array", "as", "break", "callable", "case",
    "catch", "class", "clone", "const", "continue", "declare", "default", "die", "do", "echo",
    "else", "elseif", "empty", "enddeclare", "endfor", "endforeach", "endif", "endswitch",
    "endwhile", "eval", "exit", "extends", "final", "finally", "fn", "for", "foreach", "function",
    "global", "goto", "if", "implements", "include", "include_once", "instanceof", "insteadof",
    "interface", "isset", "list", "match", "namespace", "new", "or", "print", "private",
    "protected", "public", "readonly", "require", "require_once", "return", "static", "switch",
    "throw", "trait", "try", "unset", "use", "var", "while", "xor", "yield"]

def isReserved (word : Text) : Bool :=
  reservedWords.any fun reserved => lower word = Text.ofString reserved

theorem word_point_of_start {point : CodePoint} (start : isWordStart point = true) :
    isWordPoint point = true := by
  rw [isWordPoint, start, Bool.true_or]

theorem word_start_ne {point mark : CodePoint} (start : isWordStart point = true)
    (other : isWordStart mark = false) : point ≠ mark := by
  rintro rfl
  rw [start] at other
  exact Bool.false_ne_true other.symm

theorem not_space_of_start {point : CodePoint} (start : isWordStart point = true) :
    isSpace point = false := by
  cases point with
  | half offset => rfl
  | char c =>
      simp only [isSpace, CodePoint.isIn, Bool.or_eq_false_iff, decide_eq_false_iff_not]
      refine ⟨⟨⟨?_, ?_⟩, ?_⟩, ?_⟩ <;> exact fun same => word_start_ne start rfl (congrArg _ same)

theorem not_digit_of_start {c : Char} (start : isWordStart (.char c) = true) :
    c.isDigit = false := by
  cases digit : c.isDigit with
  | false => rfl
  | true =>
      simp only [Char.isDigit, Bool.and_eq_true, decide_eq_true_eq, ge_iff_le,
        UInt32.le_iff_toNat_le] at digit
      delta isWordStart Char.isAlpha Char.isUpper Char.isLower at start
      simp only [Bool.or_eq_true, Bool.and_eq_true, decide_eq_true_eq, ge_iff_le,
        UInt32.le_iff_toNat_le] at start
      have bound : c.val.toNat ≤ 57 := digit.2
      have capital : 'A'.val.toNat = 65 := rfl
      have small : 'a'.val.toNat = 97 := rfl
      have number : c.toNat = c.val.toNat := rfl
      rcases start with ((upper | lower) | underscore) | beyond
      · omega
      · omega
      · subst underscore
        exact absurd digit (by decide)
      · omega

def EndsWord (suffix : Text) : Prop :=
  ∀ point, suffix.head? = some point → isWordPoint point = false

theorem EndsWord.of_cons {point : CodePoint} (rest : Text) (other : isWordPoint point = false) :
    EndsWord (point :: rest) := by
  intro first found
  rw [← Option.some.inj found]
  exact other

section

variable {word suffix : Text} (points : ∀ point ∈ word, isWordPoint point = true)
  (ends : EndsWord suffix)
include points ends

theorem take_word_points : (word ++ suffix).takeWhile isWordPoint = word := by
  rw [List.takeWhile_append_of_pos points]
  cases suffix with
  | nil => simp
  | cons point rest => simp [ends point rfl]

theorem drop_word_points : (word ++ suffix).dropWhile isWordPoint = suffix := by
  rw [List.dropWhile_append_of_pos points]
  cases suffix with
  | nil => rfl
  | cons point rest => simp [ends point rfl]

end

end Stubwright.Script
