import Stubwright.Proofs.Stub.Layout
import Stubwright.Proofs.Stub.Outline

/-!
The notice of a stub does not get out of the comment it stands in. A notice is accepted if and only
if no mark that closes a comment stands in it, and then none comes of the notice and what the header
writes around it, so the comment ends with the header. The code below it is the same for all
notices.
-/

namespace Stubwright

open Script

namespace Text

theorem occurs_in_iff (part text : Text) : occursIn part text = true ↔ part <:+: text := by
  induction text with
  | nil => rw [occursIn, List.isEmpty_iff, List.infix_nil]
  | cons point rest ih =>
      rw [occursIn, Bool.or_eq_true, List.isPrefixOf_iff_prefix, ih, List.infix_cons_iff]

/-- A text that is taken apart where a mark first stands in it. -/
structure IsCutAtFirst (mark text before after : Text) : Prop where
  whole : text = before ++ mark ++ after
  first : ∀ front back, text = front ++ mark ++ back → before <+: front

/-- A mark that stood any earlier would end before the last point of the one that is known. -/
theorem is_cut_at_first {mark before : Text} (absent : ¬mark <:+: before ++ mark.dropLast)
    (after : Text) : IsCutAtFirst mark (before ++ mark ++ after) before after := by
  refine ⟨rfl, ?_⟩
  intro front back same
  have isFront : front ++ mark <+: before ++ mark ++ after := ⟨back, same.symm⟩
  rcases Nat.lt_or_ge front.length before.length with earlier | later
  · have isPart : before ++ mark.dropLast <+: before ++ mark ++ after :=
      ((List.prefix_append_right_inj before).2 mark.dropLast_prefix).trans
        (List.prefix_append _ after)
    have inside : front ++ mark <+: before ++ mark.dropLast := by
      apply List.prefix_of_prefix_length_le isFront isPart
      rw [List.length_append, List.length_append, List.length_dropLast]
      omega
    exact absurd ((List.suffix_append front mark).isInfix.trans inside.isInfix) absent
  · have isBefore : before <+: before ++ mark ++ after := by
      rw [List.append_assoc]
      exact List.prefix_append before _
    exact List.prefix_of_prefix_length_le isBefore
      ((List.prefix_append front mark).trans isFront) later

end Text

/-- A notice closes no comment if and only if it is accepted as one. -/
theorem Settings.is_notice_iff (text : Text) :
    isNotice text = true ↔ ¬Text.ofString "*/" <:+: text := by
  rw [isNotice, Bool.not_eq_true', ← Text.occurs_in_iff, Bool.not_eq_true]

/-- A text that starts with a notice in a comment of its own. The mark that closes a comment first
stands on the last line of the header, and all tokens but the opening tag are those of the code
below. -/
structure Stub.IsHeaded (notice code text : Text) : Prop where
  cut : ∃ inside, text = "<?php\n/**" ++ inside ∧
    Text.IsCutAtFirst "*/" inside ("\n * " ++ notice ++ "\n ") ("\n\n" ++ code)
  found : fileTokens text = Text.ofString "<?php" :: tokens code

namespace Partition

def code (partition : Partition) : Text :=
  if partition.blocks.isEmpty then [] else joined partition.blocks ++ "\n"

theorem render_eq (settings : Settings) (partition : Partition) :
    partition.render settings = header settings ++ partition.code := by
  rw [render, code]
  split
  · rw [List.append_nil]
  · rw [List.append_assoc]

variable {settings : Settings} (isNotice : Settings.isNotice settings.notice = true)
include isNotice

theorem header_cut (code : Text) : ∃ inside,
    header settings ++ code = Text.ofString "<?php\n/**" ++ inside ∧
      Text.IsCutAtFirst "*/" inside
        (Text.ofString "\n * " ++ settings.notice ++ Text.ofString "\n ")
        (Text.ofString "\n\n" ++ code) := by
  have absent : ¬Text.ofString "*/" <:+:
      Text.ofString "\n * " ++ settings.notice ++ Text.ofString "\n " ++
        (Text.ofString "*/").dropLast := by
    rw [← Text.occurs_in_iff, Bool.not_eq_true]
    exact header_unclosed isNotice
  refine ⟨_, ?_, Text.is_cut_at_first absent (Text.ofString "\n\n" ++ code)⟩
  rw [header]
  simp only [List.append_assoc]
  rfl

theorem is_headed (partition : Partition) :
    Stub.IsHeaded settings.notice partition.code (partition.render settings) := by
  rw [render_eq]
  exact ⟨header_cut isNotice partition.code, tokens_below_header isNotice partition.code⟩

end Partition

def Renderer.withNotice (renderer : Renderer) (notice : Text) : Renderer :=
  { renderer with toSettings := renderer.toSettings.withNotice notice }

section

variable (renderer : Renderer) (notice : Text)

theorem Parameter.render_each_notice (site : Site) (owner : Text) (parameters : List Parameter) :
    renderEach (renderer.withNotice notice) site owner parameters =
      renderEach renderer site owner parameters := by
  induction parameters with
  | nil => rfl
  | cons parameter parameters ih =>
      rw [renderEach, ih]
      rfl

theorem Function.render_notice (function : Function) :
    function.render (renderer.withNotice notice) = function.render renderer := by
  rw [render, Parameter.renderList, Parameter.render_each_notice]
  rfl

theorem Method.render_notice :
    Method.render (renderer.withNotice notice) = Method.render renderer := by
  funext owner inInterface method
  rw [render, Parameter.renderList, Parameter.render_each_notice]
  rfl

theorem ClassLike.render_notice (declared : ClassLike) :
    declared.render (renderer.withNotice notice) = declared.render renderer := by
  rw [render, Method.render_notice]
  rfl

/-- No construct is rendered with the notice. -/
theorem Stub.constructs_notice (extension : Extension) :
    constructs (renderer.withNotice notice) extension = constructs renderer extension := by
  simp only [constructs, Function.render_notice, ClassLike.render_notice]
  rfl

end

/-- The settings accept a notice if and only if no mark that closes a comment stands in it. Then
the comment of the header is closed on the last line of the header and nowhere before, for the
notice that is set and for any other that would be accepted, and what follows is the same for all
of them. -/
theorem Stub.notice_enclosed (environmentBinary : Option Text) (entries : List (Value × Value))
    (renderer : Renderer)
    (accepted : Settings.read environmentBinary (.map entries) = .valid renderer) :
    (∀ notice, ¬Text.ofString "*/" <:+: notice ↔
      Settings.read environmentBinary (.map ((.str "file_notice", .str notice) :: entries)) =
        .valid (renderer.withNotice notice)) ∧
    ∀ earlier extension, ∃ code,
      IsHeaded renderer.notice code (ofExtension renderer earlier extension).text ∧
      ∀ notice, ¬Text.ofString "*/" <:+: notice →
        IsHeaded notice code (ofExtension (renderer.withNotice notice) earlier extension).text := by
  obtain ⟨_, isNotice⟩ := Settings.read_checked accepted
  constructor
  · intro notice
    rw [Settings.read_notice accepted, ← Settings.is_notice_iff]
    cases Settings.isNotice notice <;> simp [Renderer.withNotice]
  · intro earlier extension
    let partition := Partition.ofFragments ((constructs renderer extension).filterMap fragment?)
    refine ⟨partition.code, ?_, ?_⟩
    · rw [of_extension_text]
      exact Partition.is_headed isNotice partition
    · intro notice unclosed
      have isOther : Settings.isNotice (renderer.withNotice notice).notice = true :=
        (Settings.is_notice_iff notice).2 unclosed
      rw [of_extension_text, constructs_notice]
      exact Partition.is_headed isOther partition

/-- A notice that starts with a slash and ends with a star, on several lines, above an extension
with closing marks in its values and its comments. -/
theorem Stub.notice_enclosed_ragged :
    let notice : Text := "/ on * /\n** lines *"
    let renderer := Renderer.plain.withNotice notice
    Settings.read none (.map [(.str "file_notice", .str notice)]) = .valid renderer ∧
      ∃ code, IsHeaded notice code (ofExtension renderer [] mixedExtension).text ∧
        IsHeaded "" code (ofExtension (renderer.withNotice "") [] mixedExtension).text := by
  intro notice renderer
  have accepted : Settings.read none (.map [(.str "file_notice", .str notice)]) =
      .valid renderer := rfl
  obtain ⟨code, here, others⟩ := (notice_enclosed none _ renderer accepted).2 [] mixedExtension
  refine ⟨accepted, code, here, others "" ?_⟩
  rw [← Settings.is_notice_iff]
  rfl

end Stubwright
