import Stubwright.Proofs.Stub.Layout
import Stubwright.Proofs.Stub.Outline

/-!
The indent is only layout as long as it consists of blanks of the script: stubs that differ only in
such an indent have the same tokens. Any other white space that the settings accept becomes part of
a token.
-/

namespace Stubwright

open Script

theorem Extension.IsWellFormed.is_spelled {extension : Extension}
    (wellFormed : extension.IsWellFormed) : extension.IsSpelled :=
  ⟨wellFormed.constants, wellFormed.functions,
    fun declared member => (wellFormed.classes declared member).is_spelled⟩

def usingExtension : Extension where
  classes := [{ name := "A", traits := ["B"] }]

theorem using_is_spelled : usingExtension.IsSpelled := by decide +kernel

theorem Partition.render_single (settings : Settings) (text : Text) :
    (ofFragments [⟨none, text⟩]).render settings = header settings ++ text ++ "\n" := by
  have alone : ∀ text, joined [text] = text := by
    intro text
    rw [joined, Text.joinWith, List.intercalate_singleton]
  change header settings ++ joined [joined [text]] ++ Text.ofString "\n" = _
  rw [alone, alone]

theorem Stub.using_tokens {renderer : Renderer}
    (isNotice : Settings.isNotice renderer.notice = true) (indent : Text) :
    fileTokens (ofExtension (renderer.withIndent indent) [] usingExtension).text =
      (["<?php", "class", "A", "\x7b"] : List Text) ++
        tokens (indent ++ "use \\B;\n\x7d\n") := by
  have fragments : (constructs (renderer.withIndent indent) usingExtension).filterMap fragment? =
      [⟨none, Text.ofString "class A \x7b\n" ++ ((indent ++ Text.ofString "use " ++
        Text.ofString "\\B" ++ Text.ofString ";\n") ++ []) ++ [] ++ [] ++ [] ++
          Text.ofString "\x7d"⟩] := rfl
  have whole : (ofExtension (renderer.withIndent indent) [] usingExtension).text =
      Partition.header (renderer.withIndent indent) ++
        (Text.ofString "class A \x7b\n" ++ (indent ++ Text.ofString "use \\B;\n\x7d\n")) := by
    rw [of_extension_text, fragments, Partition.render_single]
    simp only [List.append_assoc, List.append_nil]
    rfl
  have opened : run .idle (Text.ofString "class A \x7b\n") =
      ([Text.ofString "class", Text.ofString "A", Text.ofString "\x7b"], .idle) := by decide
  have isOther : Settings.isNotice (renderer.withIndent indent).notice = true := isNotice
  rw [whole, Partition.tokens_below_header isOther, tokens_after opened]
  rfl

/-- White space that is no blank of the script becomes a part of the line it sets in, or a token
before it. -/
theorem Stub.using_tokens_white {renderer : Renderer}
    (isNotice : Settings.isNotice renderer.notice = true) {indent : Text}
    (white : ∀ point ∈ indent, point.isIn Text.isBlank = true) (other : ¬IsBlank indent) :
    fileTokens (ofExtension (renderer.withIndent indent) [] usingExtension).text ≠
      fileTokens (ofExtension (renderer.withIndent []) [] usingExtension).text := by
  obtain ⟨spaces, point, rest, rfl, blank, visible, isWhite⟩ := white_split white other
  obtain ⟨more, others, found⟩ :=
    tokens_white isWhite visible (rest ++ Text.ofString "use \\B;\n\x7d\n")
  have usual : tokens (Text.ofString "use \\B;\n\x7d\n") =
      [Text.ofString "use", Text.ofString "\\B", Text.ofString ";", Text.ofString "\x7d"] := by
    decide
  rw [using_tokens isNotice, using_tokens isNotice, List.nil_append]
  intro same
  have line := List.append_cancel_left same
  rw [usual, List.append_assoc, tokens_after (run_trivia (is_trivia_spaces spaces blank)),
    List.nil_append, List.cons_append, found] at line
  have first : point = 'u' := (List.cons.inj (List.cons.inj line).1).1
  rw [first] at isWhite
  exact absurd isWhite (by decide)

/-- The settings accept an indent if and only if it is white space, and then nothing else changes
with it. Between indents of blanks of the script the tokens of a stub are the same, as long as the
placeholder leaves nothing but code open, and where the placeholder is a literal, the stubs are both
read with the same outline. No other indent that is accepted is only layout. -/
theorem Stub.indent_is_layout (environmentBinary : Option Text) (entries : List (Value × Value))
    (renderer : Renderer)
    (accepted : Settings.read environmentBinary (.map entries) = .valid renderer) :
    (∀ text, (∀ point ∈ text, point.isIn Text.isBlank = true) ↔
      Settings.read environmentBinary (.map ((.str "indent", .str text) :: entries)) =
        .valid (renderer.withIndent text)) ∧
    (IsClosed renderer.placeholder → IsBlank renderer.indent → ∀ indent, IsBlank indent →
      ∀ extension : Extension, extension.IsSpelled → ∀ earlier,
        fileTokens (ofExtension renderer earlier extension).text =
          fileTokens (ofExtension (renderer.withIndent indent) earlier extension).text ∧
        (IsLiteral renderer.placeholder → extension.IsWellFormed → ∃ outline,
          Script.read (ofExtension renderer earlier extension).text = some outline ∧
          Script.read (ofExtension (renderer.withIndent indent) earlier extension).text =
            some outline)) ∧
    (IsClosed renderer.placeholder →
      ((∀ extension : Extension, extension.IsSpelled → ∀ earlier,
        fileTokens (ofExtension renderer earlier extension).text =
          fileTokens (ofExtension (renderer.withIndent []) earlier extension).text) ↔
        IsBlank renderer.indent)) := by
  obtain ⟨isIndent, isNotice⟩ := Settings.read_checked accepted
  have itself : renderer.withIndent renderer.indent = renderer := rfl
  have sameTokens : IsClosed renderer.placeholder → IsBlank renderer.indent → ∀ indent,
      IsBlank indent → ∀ extension : Extension, extension.IsSpelled → ∀ earlier,
        fileTokens (ofExtension renderer earlier extension).text =
          fileTokens (ofExtension (renderer.withIndent indent) earlier extension).text := by
    intro closed blank indent otherBlank extension spelled earlier
    obtain ⟨found, steady⟩ := tokens_steady closed isNotice spelled earlier
    have here := steady renderer.indent blank
    rw [itself] at here
    rw [here, steady indent otherBlank]
  refine ⟨?_, ?_, ?_⟩
  · intro text
    rw [Settings.read_indent accepted]
    have white : Settings.isIndent text = true ↔ ∀ point ∈ text, point.isIn Text.isBlank = true :=
      List.all_eq_true
    rw [← white]
    cases Settings.isIndent text <;> simp [Renderer.withIndent]
  · intro closed blank indent otherBlank extension spelled earlier
    refine ⟨sameTokens closed blank indent otherBlank extension spelled earlier, ?_⟩
    intro literal wellFormed
    have reads : ∀ indent, IsBlank indent →
        Script.read (ofExtension (renderer.withIndent indent) earlier extension).text =
          some (Outline.ofPlaced (extension.placed renderer)) := by
      intro indent blank
      have printable : (renderer.withIndent indent).IsWellFormed := ⟨blank, isNotice, literal⟩
      rw [of_extension_text,
        (extension.fragments_declared _ printable wellFormed).read_render _ printable]
      rfl
    exact ⟨_, reads renderer.indent blank, reads indent otherBlank⟩
  · intro closed
    constructor
    · intro same
      by_contra other
      have white : ∀ point ∈ renderer.indent, point.isIn Text.isBlank = true :=
        List.all_eq_true.1 isIndent
      exact using_tokens_white isNotice white other (same usingExtension using_is_spelled [])
    · intro blank
      exact sameTokens closed blank [] nofun

/-- The theorem at default renderer and an extension with a doc comment on a method, a placeholder
and lines of all kinds. -/
theorem Stub.indent_is_layout_mixed :
    let renderer := Renderer.plain
    let tabbed := renderer.withIndent "\t\r\n"
    Settings.read none (.map []) = .valid renderer ∧
      IsClosed renderer.placeholder ∧ IsLiteral renderer.placeholder ∧
      IsBlank renderer.indent ∧ IsBlank tabbed.indent ∧
      mixedExtension.IsSpelled ∧ mixedExtension.IsWellFormed ∧
      fileTokens (ofExtension renderer [] mixedExtension).text =
        fileTokens (ofExtension tabbed [] mixedExtension).text ∧
      ∃ outline, Script.read (ofExtension renderer [] mixedExtension).text = some outline ∧
        Script.read (ofExtension tabbed [] mixedExtension).text = some outline := by
  intro renderer tabbed
  have accepted : Settings.read none (.map []) = .valid renderer := rfl
  have closed : IsClosed renderer.placeholder := by decide
  have placeholder : Literal.ofValue (.ofFrames 1) (.str "<?>") = .ok renderer.placeholder := rfl
  have literal : IsLiteral renderer.placeholder := is_literal_of_value placeholder
  have blank : IsBlank renderer.indent := by decide
  have otherBlank : IsBlank tabbed.indent := by decide
  have wellFormed : mixedExtension.IsWellFormed := by decide +kernel
  have spelled : mixedExtension.IsSpelled := wellFormed.is_spelled
  obtain ⟨_, blankIndents, _⟩ := indent_is_layout none [] renderer accepted
  obtain ⟨sameTokens, sameOutline⟩ :=
    blankIndents closed blank tabbed.indent otherBlank mixedExtension spelled []
  exact ⟨accepted, closed, literal, blank, otherBlank, spelled, wellFormed, sameTokens,
    sameOutline literal wellFormed⟩

def unknownExtension : Extension where
  classes := [{ name := "A", constants := [⟨"B", .unresolved none⟩, ⟨"C", .unresolved none⟩] }]

/-- An ideographic space is accepted as an indent and becomes part of a word, so that the stub is no
script any more. A single quote is accepted as a placeholder and takes the indents into quoted
texts. -/
theorem Stub.indent_becomes_code :
    let wide := Renderer.plain.withIndent "\u3000"
    let quoting := Renderer.plain.withPlaceholder "'"
    Settings.read none (.map [(.str "indent", .str "\u3000")]) = .valid wide ∧
      Settings.read none (.map [(.str "unresolved_placeholder", .str "'")]) = .valid quoting ∧
      usingExtension.IsSpelled ∧ unknownExtension.IsSpelled ∧
      fileTokens (ofExtension wide [] usingExtension).text =
        ["<?php", "class", "A", "\x7b", "\u3000use", "\\B", ";", "\x7d"] ∧
      fileTokens (ofExtension (wide.withIndent "    ") [] usingExtension).text =
        ["<?php", "class", "A", "\x7b", "use", "\\B", ";", "\x7d"] ∧
      Script.read (ofExtension wide [] usingExtension).text = none ∧
      (Script.read (ofExtension (wide.withIndent "    ") [] usingExtension).text).isSome = true ∧
      fileTokens (ofExtension quoting [] unknownExtension).text ≠
        fileTokens (ofExtension (quoting.withIndent "\t") [] unknownExtension).text := by
  intro wide quoting
  have isNotice : Settings.isNotice Renderer.plain.notice = true := by decide +kernel
  have inWord : fileTokens (ofExtension wide [] usingExtension).text =
      (["<?php", "class", "A", "\x7b"] : List Text) ++ tokens "\u3000use \\B;\n\x7d\n" :=
    using_tokens isNotice "\u3000"
  have inFront : fileTokens (ofExtension (wide.withIndent "    ") [] usingExtension).text =
      (["<?php", "class", "A", "\x7b"] : List Text) ++ tokens "    use \\B;\n\x7d\n" :=
    using_tokens isNotice "    "
  refine ⟨rfl, rfl, using_is_spelled, by decide +kernel, ?_, ?_, ?_, ?_, ?_⟩
  · rw [inWord]
    decide +kernel
  · rw [inFront]
    decide +kernel
  · decide +kernel
  · decide +kernel
  · decide +kernel

end Stubwright
