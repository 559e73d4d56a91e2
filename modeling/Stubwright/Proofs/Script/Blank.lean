import Stubwright.Proofs.Script.Code
import Stubwright.Proofs.Script.File

/-!
Blanks between tokens. Texts that are set in by blanks of the script have the same tokens however
far they are set in; any other white space begins a word or is a token of its own.
-/

namespace Stubwright

namespace Script

def IsBlank (text : Text) : Prop := ∀ point ∈ text, isSpace point = true

instance (text : Text) : Decidable (IsBlank text) :=
  inferInstanceAs (Decidable (∀ point ∈ text, isSpace point = true))

/-- A text for every indent. It has the same tokens for all indents of blanks, and leaves the same
open. -/
def Steady (mode : Mode) (text : Text → Text) : Prop :=
  ∃ found, ∀ indent, IsBlank indent → run .idle (text indent) = (found, mode)

def SteadyCode (text : Text → Text) : Prop :=
  ∃ mode : Mode, mode.isCode = true ∧ Steady mode text

section

variable {text first second : Text → Text}

theorem steady_trivia (isTrivia : ∀ indent, IsBlank indent → IsTrivia (text indent)) :
    Steady .idle text :=
  ⟨[], fun indent blank => run_trivia (isTrivia indent blank)⟩

theorem steady_code {code : Text} (isCode : IsCode code) : SteadyCode fun _ => code :=
  ⟨_, isCode .idle rfl, (run .idle code).1, fun _ _ => rfl⟩

theorem Steady.code (steady : Steady .idle text) : SteadyCode text := ⟨.idle, rfl, steady⟩

theorem Steady.append {mode : Mode} (before : Steady .idle first) (after : Steady mode second) :
    Steady mode fun indent => first indent ++ second indent := by
  obtain ⟨found, ran⟩ := before
  obtain ⟨others, goesOn⟩ := after
  refine ⟨found ++ others, ?_⟩
  intro indent blank
  rw [run_append_of (ran indent blank), goesOn indent blank]

theorem SteadyCode.prepend (after : SteadyCode second) (before : Steady .idle first) :
    SteadyCode fun indent => first indent ++ second indent := by
  obtain ⟨mode, code, steady⟩ := after
  exact ⟨mode, code, before.append steady⟩

/-- A line break completes all tokens of the code before it. -/
theorem SteadyCode.line (steady : SteadyCode text) :
    Steady .idle fun indent => text indent ++ "\n" := by
  obtain ⟨mode, code, found, ran⟩ := steady
  refine ⟨found ++ mode.pending, ?_⟩
  intro indent blank
  have lexes : Lexes (text indent) (found ++ mode.pending) := by
    constructor
    · rw [ran indent blank]
      exact code
    · rw [tokens, ran indent blank]
  have ended : run .idle (text indent ++ .char '\n' :: []) =
      (found ++ mode.pending ++ (start '\n').1 ++ [], .idle) := lexes.run_before (by decide) []
  rw [List.append_nil] at ended
  exact ended.trans (Prod.ext (List.append_nil _) rfl)

theorem Steady.flat_map {α : Type} (items : List α) (write : Text → α → Text)
    (each : ∀ item ∈ items, Steady .idle fun indent => write indent item) :
    Steady .idle fun indent => items.flatMap (write indent) := by
  induction items with
  | nil => exact steady_trivia fun _ _ _ => rfl
  | cons item items ih =>
      simp only [List.flatMap_cons]
      exact (each item (by simp)).append (ih fun other member => each other (by simp [member]))

/-- Code with blank lines in between. -/
theorem SteadyCode.joined (texts : List (Text → Text)) (each : ∀ text ∈ texts, SteadyCode text) :
    SteadyCode fun indent => Partition.joined (texts.map fun text => text indent) := by
  induction texts with
  | nil => exact (steady_trivia fun _ _ _ => rfl).code
  | cons text texts ih =>
      have later := ih fun other member => each other (by simp [member])
      have here := each text (by simp)
      cases texts with
      | nil =>
          simp only [List.map_cons, List.map_nil, Partition.joined, Text.joinWith,
            List.intercalate_singleton]
          exact here
      | cons next others =>
          have lineBreak : Steady .idle fun _ => Text.ofString "\n" :=
            steady_trivia fun _ _ => is_trivia_spaces _ (by decide)
          have whole := later.prepend (here.line.append lineBreak)
          simp only [List.append_assoc] at whole
          simp only [List.map_cons, Partition.joined, Text.joinWith, List.intercalate_cons_cons,
            List.append_assoc] at whole ⊢
          exact whole

/-- A line of its own, after a lead that means nothing. -/
theorem steady_line {lead : Text → Text}
    (isLead : ∀ indent, IsBlank indent → IsTrivia (lead indent)) {code : Text}
    (isCode : IsCode code) (same : ∀ indent, text indent = lead indent ++ (code ++ "\n")) :
    Steady .idle text := by
  have line := (steady_trivia isLead).append (steady_code isCode).line
  simp only [← same] at line
  exact line

end

/-- A word that is begun is a token with all that goes on with it. -/
theorem run_word_goes_on (text rest : Text) :
    ∃ more others, (run (.word text) rest).1 ++ (run (.word text) rest).2.pending =
      (text ++ more) :: others := by
  induction rest generalizing text with
  | nil => exact ⟨[], [], by rw [List.append_nil]; rfl⟩
  | cons point rest ih =>
      by_cases goesOn : isWordPoint point = true ∨ point = separator
      · obtain ⟨more, others, found⟩ := ih (text ++ [point])
        have taken : step (.word text) point = ([], .word (text ++ [point])) := if_pos goesOn
        refine ⟨point :: more, others, ?_⟩
        rw [run_cons, taken]
        rw [List.append_assoc] at found
        exact found
      · have taken : step (.word text) point = (text :: (start point).1, (start point).2) :=
          if_neg goesOn
        refine ⟨[], (start point).1 ++ (run (start point).2 rest).1 ++
          (run (start point).2 rest).2.pending, ?_⟩
        rw [run_cons, taken, List.append_nil]
        rfl

/-- White space that is no blank of the script begins a word or is a token of its own. -/
theorem start_white {point : CodePoint} (white : point.isIn Text.isBlank = true)
    (visible : isSpace point = false) :
    start point = ([], .word [point]) ∨ start point = ([[point]], .idle) := by
  cases point with
  | half offset => cases white
  | char c =>
      by_cases beyond : 0x80 ≤ c.toNat
      · have starts : isWordStart (.char c) = true := by simp [isWordStart, beyond]
        left
        rw [start, if_neg (by simp [visible]), if_pos (.inl starts)]
      · right
        have among : c.toNat ∈ [9, 10, 11, 12, 13, 28, 29, 30, 31, 32] := by
          simp only [CodePoint.isIn, Text.isBlank, Bool.or_eq_true, Bool.and_eq_true,
            decide_eq_true_eq] at white
          simp only [List.mem_cons, List.not_mem_nil, or_false]
          omega
        have each : ∀ code ∈ [9, 10, 11, 12, 13, 28, 29, 30, 31, 32],
            isSpace (.char (Char.ofNat code)) = false →
              start (.char (Char.ofNat code)) = ([[.char (Char.ofNat code)]], .idle) := by decide
        have single := each c.toNat among
        rw [Char.ofNat_toNat] at single
        exact single visible

theorem tokens_white {point : CodePoint} (white : point.isIn Text.isBlank = true)
    (visible : isSpace point = false) (rest : Text) :
    ∃ more others, tokens (point :: rest) = (point :: more) :: others := by
  rcases start_white white visible with word | alone
  · obtain ⟨more, others, found⟩ := run_word_goes_on [point] rest
    refine ⟨more, others, ?_⟩
    rw [tokens, run_cons, step, word]
    exact found
  · refine ⟨[], tokens rest, ?_⟩
    rw [tokens, run_cons, step, alone]
    rfl

theorem tokens_after {text : Text} {found : List Text} (ran : run .idle text = (found, .idle))
    (rest : Text) : tokens (text ++ rest) = found ++ tokens rest := by
  rw [tokens, run_append_of ran, List.append_assoc]
  rfl

theorem white_split {text : Text} (white : ∀ point ∈ text, point.isIn Text.isBlank = true)
    (other : ¬IsBlank text) :
    ∃ spaces point rest, text = spaces ++ point :: rest ∧ IsBlank spaces ∧
      isSpace point = false ∧ point.isIn Text.isBlank = true := by
  induction text with
  | nil => exact absurd nofun other
  | cons point text ih =>
      cases visible : isSpace point with
      | false => exact ⟨[], point, text, rfl, nofun, visible, white point (by simp)⟩
      | true =>
          have later : ¬IsBlank text := fun blank =>
            other (List.forall_mem_cons.2 ⟨visible, blank⟩)
          obtain ⟨spaces, found, rest, rfl, blank, isFound⟩ :=
            ih (fun other member => white other (by simp [member])) later
          have blanks : IsBlank (point :: spaces) := List.forall_mem_cons.2 ⟨visible, blank⟩
          exact ⟨point :: spaces, found, rest, rfl, blanks, isFound⟩

end Script

end Stubwright
