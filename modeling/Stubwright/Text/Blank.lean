import Stubwright.Text.Basic

/-!
White space as Unicode understands it, and the cuts that texts are taken apart with: stripping
both ends, splitting at a separator, and joining again.
-/

namespace Stubwright.Text

/-- White space of Unicode, the four information separators included. The zero width characters
and the byte order mark are not white space. -/
def isBlank (c : Char) : Bool :=
  let point := c.toNat
  (0x09 ≤ point && point ≤ 0x0d) || (0x1c ≤ point && point ≤ 0x20) || point = 0x85 ||
    point = 0xa0 || point = 0x1680 || (0x2000 ≤ point && point ≤ 0x200a) || point = 0x2028 ||
    point = 0x2029 || point = 0x202f || point = 0x205f || point = 0x3000

variable {α : Type}

def trim (drop : α → Bool) (text : List α) : List α :=
  ((text.dropWhile drop).reverse.dropWhile drop).reverse

def strip (text : Text) : Text := trim (·.isIn isBlank) text

variable [DecidableEq α]

/-- The pieces between the separators: one more than there are separators. -/
def splitAt (separator : α) : List α → List (List α)
  | [] => [[]]
  | c :: rest =>
      if c = separator then [] :: splitAt separator rest
      else match splitAt separator rest with
        | [] => [[c]]
        | piece :: pieces => (c :: piece) :: pieces

theorem split_at_ne_nil (separator : α) (text : List α) : splitAt separator text ≠ [] := by
  cases text with
  | nil => simp [splitAt]
  | cons c rest =>
      unfold splitAt
      split
      · simp
      · split <;> simp

/-- The pieces with separators between them are the text again. -/
theorem intercalate_split_at (separator : α) (text : List α) :
    [separator].intercalate (splitAt separator text) = text := by
  induction text with
  | nil => simp [splitAt]
  | cons c rest ih =>
      unfold splitAt
      split
      · rename_i same
        cases cut : splitAt separator rest with
        | nil => exact absurd cut (split_at_ne_nil separator rest)
        | cons piece pieces =>
            rw [cut] at ih
            simpa [List.intercalate, List.intersperse, same] using ih
      · split
        · rename_i cut
          exact absurd cut (split_at_ne_nil separator rest)
        · rename_i piece pieces cut
          rw [cut] at ih
          cases pieces with
          | nil => simpa [List.intercalate] using ih
          | cons next others => simpa [List.intercalate, List.intersperse] using ih

def occursIn (part : Text) : Text → Bool
  | [] => part.isEmpty
  | c :: rest => part.isPrefixOf (c :: rest) || occursIn part rest

/-- Every line break, carriage return or line feed or both together, becomes one line feed. -/
def unifyBreaks : List Char → List Char
  | [] => []
  | '\r' :: '\n' :: rest => '\n' :: unifyBreaks rest
  | c :: rest => (if c = '\r' then '\n' else c) :: unifyBreaks rest

end Stubwright.Text
