import Stubwright.Proofs.Script.Word
import Stubwright.Text.Blank

/-!
Readers of scripts. A reader takes something off the front of a text, or fails. Blanks and comments
may stand before every word and every mark, and mean nothing.
-/

namespace Stubwright.Script

abbrev Reader := StateT Text Option

/-- What follows blanks and comments; the flag says whether the text begins inside a comment. A
comment that is not closed is an error. -/
def skip : Bool → Text → Option Text
  | false, .char '/' :: .char '*' :: rest => skip true rest
  | false, point :: rest => if isSpace point then skip false rest else some (point :: rest)
  | false, [] => some []
  | true, .char '*' :: .char '/' :: rest => skip false rest
  | true, _ :: rest => skip true rest
  | true, [] => none

def afterComment : Text → Option Text
  | .char '*' :: .char '/' :: rest => some rest
  | _ :: rest => afterComment rest
  | [] => none

def trivia : Reader Unit := fun text => (skip false text).map fun rest => ((), rest)

def take (point : CodePoint) : Reader Unit
  | first :: rest => if first = point then some ((), rest) else none
  | [] => none

def takeWord : Reader Text
  | [] => none
  | first :: rest =>
      if isWordStart first then
        some (first :: rest.takeWhile isWordPoint, rest.dropWhile isWordPoint)
      else none

def takeName : Reader Text := do
  let found ← takeWord
  if isReserved found then failure else pure found

def symbol (point : CodePoint) : Reader Unit := do
  trivia
  take point

def word : Reader Text := do
  trivia
  takeWord

def name : Reader Text := do
  trivia
  takeName

def keyword (expected : Text) : Reader Unit := do
  let found ← word
  if found = expected then pure () else failure

def ending : Reader Unit := fun text => if text = [] then some ((), []) else none

section

variable {α : Type}

def maybe (item : Reader α) : Reader Unit := (do let _ ← item) <|> pure ()

def manyWithin (item : Reader α) : Nat → Reader (List α)
  | 0 => pure []
  | room + 1 =>
      (do
        let first ← item
        let others ← manyWithin item room
        return first :: others) <|> pure []

/-- An item as often as it can be read. One that takes nothing is not read for ever. -/
def many (item : Reader α) : Reader (List α) := fun text => manyWithin item text.length text

def separated (item : Reader α) : Reader (List α) := do
  let first ← item
  let others ← many do
    symbol ','
    item
  return first :: others

end

theorem take_cons (point : CodePoint) (rest : Text) :
    take point (point :: rest) = some ((), rest) := by
  rw [take, if_pos rfl]

theorem take_none {point : CodePoint} {text : Text} (other : text.head? ≠ some point) :
    take point text = none := by
  cases text with
  | nil => rfl
  | cons first rest =>
      rw [take, if_neg]
      rintro rfl
      exact other rfl

section

variable {α β : Type} {text rest : Text}

/-- A step of a reader that succeeds goes on with what it leaves. -/
theorem bind_of {first : Reader α} {value : α} (next : α → Reader β)
    (read : first text = some (value, rest)) : (first >>= next) text = next value rest := by
  change (first text).bind _ = _
  rw [read]
  rfl

theorem bind_none {first : Reader α} (next : α → Reader β) (failed : first text = none) :
    (first >>= next) text = none := by
  change (first text).bind _ = _
  rw [failed]
  rfl

theorem bind_congr {first : Reader α} (next : α → Reader β) {other : Text}
    (same : first text = first other) : (first >>= next) text = (first >>= next) other := by
  change (first text).bind _ = (first other).bind _
  rw [same]

theorem or_of {first : Reader α} (second : Reader α) {found : α × Text}
    (read : first text = some found) : (first <|> second) text = some found := by
  change (first text <|> second text) = _
  rw [read]
  rfl

theorem or_none {first : Reader α} (second : Reader α) (failed : first text = none) :
    (first <|> second) text = second text := by
  change (first text <|> second text) = _
  rw [failed]
  rfl

theorem or_skips {first second : Reader α} {other : Text} (same : first text = first other)
    (same_second : second text = second other) :
    (first <|> second) text = (first <|> second) other := by
  change (first text <|> second text) = (first other <|> second other)
  rw [same, same_second]

theorem maybe_of {item : Reader α} {value : α} (read : item text = some (value, rest)) :
    maybe item text = some ((), rest) := by
  apply or_of
  rw [bind_of _ read]
  rfl

theorem maybe_none {item : Reader α} (failed : item text = none) :
    maybe item text = some ((), text) := by
  rw [maybe, or_none _ (bind_none _ failed)]
  rfl

end

theorem follows_pieces {β : Type} (pieces : List β) (write : β → Text) (follows : Text → Prop)
    (starts : ∀ piece ∈ pieces, ∀ suffix, follows (write piece ++ suffix)) {suffix : Text}
    (ends : follows suffix) : follows (pieces.flatMap write ++ suffix) := by
  cases pieces with
  | nil => exact ends
  | cons next pieces =>
      rw [List.flatMap_cons, List.append_assoc]
      exact starts next (by simp) _

section

variable {α β : Type} {item : Reader α} (pieces : List β) (write : β → Text) (mean : β → α)
  (follows : Text → Prop)
  (each : ∀ piece ∈ pieces, ∀ suffix, follows suffix →
    item (write piece ++ suffix) = some (mean piece, suffix))
  (starts : ∀ piece ∈ pieces, write piece ≠ [] ∧ ∀ suffix, follows (write piece ++ suffix))
  {suffix : Text} (ends : follows suffix) (stops : item suffix = none)
include each starts ends stops

theorem many_within_reads (room : Nat) (enough : pieces.length ≤ room) :
    manyWithin item room (pieces.flatMap write ++ suffix) = some (pieces.map mean, suffix) := by
  -- On the pieces: each takes one of the room, and what is read before it stays as it is.
  induction pieces generalizing room with
  | nil =>
      cases room with
      | zero => rfl
      | succ room =>
          rw [manyWithin, or_none]
          · rfl
          · exact bind_none _ stops
  | cons piece pieces ih =>
      obtain ⟨less, rfl⟩ : ∃ less, room = less + 1 := by
        rw [List.length_cons] at enough
        exact ⟨room - 1, by omega⟩
      have later := ih (fun other member => each other (List.mem_cons_of_mem _ member))
        (fun other member => starts other (List.mem_cons_of_mem _ member)) less
        (Nat.le_of_succ_le_succ enough)
      have goesOn := follows_pieces pieces write follows
        (fun other member => (starts other (List.mem_cons_of_mem _ member)).2) ends
      rw [List.flatMap_cons, List.append_assoc, manyWithin]
      apply or_of
      rw [bind_of _ (each piece (by simp) _ goesOn), bind_of _ later]
      rfl

/-- Pieces that can each be read before whatever follows them are read one after the other, up to
where there is none. -/
theorem many_reads :
    many item (pieces.flatMap write ++ suffix) = some (pieces.map mean, suffix) := by
  apply many_within_reads pieces write mean follows each starts ends stops
  have room : ∀ pieces : List β, (∀ piece ∈ pieces, write piece ≠ []) →
      pieces.length ≤ (pieces.flatMap write).length := by
    intro pieces nonempty
    induction pieces with
    | nil => exact Nat.le_refl 0
    | cons piece pieces ih =>
        have later := ih fun other member => nonempty other (List.mem_cons_of_mem _ member)
        have here := List.length_pos_iff.2 (nonempty piece (by simp))
        rw [List.flatMap_cons, List.length_append, List.length_cons]
        omega
  have enough := room pieces fun piece member => (starts piece member).1
  rw [List.length_append]
  omega

end

/-- Where a part that may be missing cannot be read, what follows is looked for in its place. -/
theorem maybe_then_skips {α β : Type} {item : Reader α} {next : Reader β} {text other : Text}
    (same : item text = item other) (same_next : next text = next other) :
    (do maybe item; next) text = (do maybe item; next) other := by
  cases found : item other with
  | none =>
      rw [found] at same
      rw [bind_of _ (maybe_none same), bind_of _ (maybe_none found), same_next]
  | some result =>
      rw [found] at same
      rw [bind_of _ (maybe_of same), bind_of _ (maybe_of found)]

/-- Text that means nothing where a word or a mark is looked for. -/
def IsTrivia (lead : Text) : Prop := ∀ rest, skip false (lead ++ rest) = skip false rest

theorem IsTrivia.append {first second : Text} (isFirst : IsTrivia first)
    (isSecond : IsTrivia second) : IsTrivia (first ++ second) := by
  intro rest
  rw [List.append_assoc, isFirst, isSecond]

theorem skip_space {point : CodePoint} (rest : Text) (space : isSpace point = true) :
    skip false (point :: rest) = skip false rest := by
  rw [skip, if_pos space]
  rintro _ rfl _
  exact absurd space (by decide)

/-- Nothing is skipped before a point that is neither a blank nor the start of a comment. -/
theorem skip_visible {point : CodePoint} (rest : Text) (visible : isSpace point = false)
    (noComment : point ≠ .char '/') : skip false (point :: rest) = some (point :: rest) := by
  rw [skip, visible]
  · rfl
  · exact fun _ same _ => noComment same

theorem is_trivia_spaces (spaces : Text) (each : ∀ point ∈ spaces, isSpace point = true) :
    IsTrivia spaces := by
  induction spaces with
  | nil => exact fun _ => rfl
  | cons point spaces ih =>
      have later := ih fun other member => each other (by simp [member])
      intro rest
      rw [List.cons_append, skip_space _ (each point (by simp)), later]

theorem is_trivia_blank : IsTrivia (Text.ofString " ") := is_trivia_spaces _ (by decide)

/-- The end of a comment is where its mark first stands. -/
theorem after_comment (inside : Text) (rest : Text)
    (unclosed : Text.occursIn "*/" (inside ++ "*") = false) :
    afterComment (inside ++ .char '*' :: .char '/' :: rest) = some rest := by
  induction inside with
  | nil => rfl
  | cons point inside ih =>
      rw [List.cons_append, Text.occursIn, Bool.or_eq_false_iff] at unclosed
      rw [List.cons_append, afterComment, ih unclosed.2]
      intro after first next
      have opening : (Text.ofString "*/").isPrefixOf (point :: (inside ++ "*")) = true := by
        cases inside with
        | nil => exact absurd (List.cons.inj next).1 (by decide)
        | cons second inside =>
            obtain ⟨rfl, _⟩ := List.cons.inj next
            rw [first]
            rfl
      rw [opening] at unclosed
      exact absurd unclosed.1 (by decide)

theorem skip_inside (text : Text) : skip true text = (afterComment text).bind (skip false) := by
  fun_induction afterComment text with
  | case1 rest => rfl
  | case2 point rest other ih =>
      rw [skip, ih]
      exact other
  | case3 => rfl

theorem is_trivia_comment (inside : Text)
    (unclosed : Text.occursIn "*/" (inside ++ "*") = false) :
    IsTrivia ("/*" ++ inside ++ "*/") := by
  intro rest
  have comment := after_comment inside rest unclosed
  have split : Text.ofString "/*" ++ inside ++ Text.ofString "*/" ++ rest =
      .char '/' :: .char '*' :: (inside ++ .char '*' :: .char '/' :: rest) := by
    rw [List.append_assoc, List.append_assoc]
    rfl
  rw [split, skip, skip_inside, comment]
  rfl

section

variable {lead : Text} (isTrivia : IsTrivia lead) (text : Text)
include isTrivia

theorem trivia_skips : trivia (lead ++ text) = trivia text := by
  rw [trivia, isTrivia, ← trivia]

theorem word_skips : word (lead ++ text) = word text :=
  bind_congr _ (trivia_skips isTrivia text)

theorem symbol_skips (point : CodePoint) : symbol point (lead ++ text) = symbol point text :=
  bind_congr _ (trivia_skips isTrivia text)

theorem keyword_skips (expected : Text) :
    keyword expected (lead ++ text) = keyword expected text :=
  bind_congr _ (word_skips isTrivia text)

end

theorem symbol_cons {point : CodePoint} (rest : Text) (visible : isSpace point = false)
    (noComment : point ≠ .char '/') : symbol point (point :: rest) = some ((), rest) := by
  have nothing : trivia (point :: rest) = some ((), point :: rest) := by
    rw [trivia, skip_visible rest visible noComment]
    rfl
  rw [symbol, bind_of _ nothing, take_cons]

/-- A text whose first point is neither a blank nor the start of a comment. -/
def StartsWith (holds : CodePoint → Prop) (text : Text) : Prop :=
  ∃ first rest, text = first :: rest ∧ isSpace first = false ∧ first ≠ .char '/' ∧ holds first

theorem StartsWith.append {holds : CodePoint → Prop} {text : Text} (starts : StartsWith holds text)
    (suffix : Text) : StartsWith holds (text ++ suffix) := by
  obtain ⟨first, rest, rfl, visible, noComment, found⟩ := starts
  exact ⟨first, rest ++ suffix, rfl, visible, noComment, found⟩

theorem StartsWith.trivia {holds : CodePoint → Prop} {text : Text}
    (starts : StartsWith holds text) : trivia text = some ((), text) := by
  obtain ⟨first, rest, rfl, visible, noComment, _⟩ := starts
  rw [Script.trivia, skip_visible rest visible noComment]
  rfl

theorem symbol_none {point : CodePoint} {text : Text} (starts : StartsWith (· ≠ point) text) :
    symbol point text = none := by
  rw [symbol, bind_of _ starts.trivia]
  obtain ⟨first, rest, rfl, _, _, other⟩ := starts
  exact if_neg other

end Stubwright.Script
