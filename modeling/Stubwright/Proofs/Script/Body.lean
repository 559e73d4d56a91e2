import Stubwright.Proofs.Script.Signature
import Stubwright.Rendering.Fragment

/-!
The body of a class: members on lines of their own, each with its doc comment in front. It is read
one member after the other, since the line breaks between them mean nothing.
-/

namespace Stubwright

open Script

/-- No comment, or one that is a single comment of the script. -/
def IsDoc (comment : Text) : Prop :=
  comment = [] ∨ (Text.ofString "/**" <+: comment ∧ Text.ofString "*/" <:+ comment ∧
    Text.occursIn "*/" comment.dropLast = false)

instance (comment : Text) : Decidable (IsDoc comment) :=
  inferInstanceAs (Decidable (comment = [] ∨ (Text.ofString "/**" <+: comment ∧
    Text.ofString "*/" <:+ comment ∧ Text.occursIn "*/" comment.dropLast = false)))

def HasDoc (docComment : Option Text) : Prop := ∀ comment, docComment = some comment → IsDoc comment

instance (docComment : Option Text) : Decidable (HasDoc docComment) :=
  inferInstanceAs (Decidable (∀ comment ∈ docComment, IsDoc comment))

theorem is_trivia_doc {comment : Text} (isDoc : IsDoc comment) : IsTrivia comment := by
  rcases isDoc with rfl | ⟨⟨rest, opens⟩, ⟨start, closes⟩, single⟩
  · exact fun _ => rfl
  · obtain ⟨inside, rfl⟩ : ∃ inside, start = .char '/' :: .char '*' :: inside := by
      rw [← closes] at opens
      match start, opens with
      | [], opens => exact absurd (List.cons.inj opens).1 (by decide)
      | [_], opens =>
          exact absurd (List.cons.inj (List.cons.inj (List.cons.inj opens).2).2).1 (by decide)
      | first :: second :: inside, opens =>
          obtain ⟨rfl, tail⟩ := List.cons.inj opens
          obtain ⟨rfl, _⟩ := List.cons.inj tail
          exact ⟨inside, rfl⟩
    have last : comment.dropLast = .char '/' :: .char '*' :: (inside ++ Text.ofString "*") := by
      rw [← closes]
      change (.char '/' :: .char '*' :: inside ++ [.char '*', .char '/'] : Text).dropLast = _
      rw [List.dropLast_append_of_ne_nil (by simp)]
      rfl
    rw [last, Text.occursIn, Text.occursIn, Bool.or_eq_false_iff, Bool.or_eq_false_iff] at single
    have trivia := is_trivia_comment inside single.2.2
    rw [← closes]
    exact trivia

/-- A doc comment and the blanks around it mean nothing. -/
theorem is_trivia_doc_lines (docComment : Option Text) (indent : Text) (hasDoc : HasDoc docComment)
    (blank : ∀ point ∈ indent, isSpace point = true) : IsTrivia (docLines docComment indent) := by
  cases docComment with
  | none => exact fun _ => rfl
  | some comment =>
      unfold docLines Text.when
      dsimp only
      split
      · apply IsTrivia.append
        · exact (is_trivia_doc (hasDoc comment rfl)).append (is_trivia_spaces _ (by decide))
        · exact is_trivia_spaces indent blank
      · exact fun _ => rfl

structure Settings.IsWellFormed (settings : Settings) : Prop where
  indent : ∀ point ∈ settings.indent, isSpace point = true
  notice : Settings.isNotice settings.notice = true
  placeholder : IsLiteral settings.placeholder

def Renderer.plain : Renderer := { Settings.defaults none with room := fun _ => .ofFrames 900 }

namespace Script

section

variable {lead : Text} (isTrivia : IsTrivia lead) (text : Text)
include isTrivia

theorem member_skips : member (lead ++ text) = member text :=
  bind_congr _ (word_skips isTrivia text)

theorem typed_variable_skips : typedVariable (lead ++ text) = typedVariable text :=
  maybe_then_skips (type_skips isTrivia text) (bind_congr _ (variable_name_skips isTrivia text))

end

/-- Member texts, each with the line break after it, and what a reader finds in them. -/
def Lines (text : Text) (members : List Member) : Prop :=
  ∃ pieces : List (Text × Member),
    text = pieces.flatMap (fun piece => piece.1 ++ Text.ofString "\n") ∧
      members = pieces.map Prod.snd ∧
      ∀ piece ∈ pieces, ∀ suffix, member (piece.1 ++ suffix) = some (piece.2, suffix)

theorem Lines.nil : Lines [] [] := ⟨[], rfl, rfl, by simp⟩

theorem Lines.single {text lead line : Text} {found : Member} (isTrivia : IsTrivia lead)
    (ends : text = lead ++ (line ++ "\n"))
    (reads : ∀ suffix, member (line ++ suffix) = some (found, suffix)) : Lines text [found] := by
  refine ⟨[(lead ++ line, found)], ?_, rfl, ?_⟩
  · rw [ends, List.flatMap_cons, List.flatMap_nil, List.append_nil, List.append_assoc]
  · intro piece among suffix
    rw [List.mem_singleton.1 among, List.append_assoc, member_skips isTrivia, reads]

theorem Lines.append {first second : Text} {members others : List Member}
    (firstLines : Lines first members) (secondLines : Lines second others) :
    Lines (first ++ second) (members ++ others) := by
  obtain ⟨pieces, rfl, rfl, each⟩ := firstLines
  obtain ⟨more, rfl, rfl, eachMore⟩ := secondLines
  refine ⟨pieces ++ more, ?_, ?_, ?_⟩
  · rw [List.flatMap_append]
  · rw [List.map_append]
  · intro piece among
    rcases List.mem_append.1 among with here | there
    · exact each piece here
    · exact eachMore piece there

theorem Lines.flat_map {α : Type} (items : List α) (write : α → Text) (mean : α → Member)
    (each : ∀ item ∈ items, Lines (write item) [mean item]) :
    Lines (items.flatMap write) (items.map mean) := by
  induction items with
  | nil => exact .nil
  | cons item items ih =>
      rw [List.flatMap_cons, List.map_cons]
      exact (each item (by simp)).append (ih fun other among => each other (by simp [among]))

/-- The line breaks between members can be taken for those in front of them. -/
theorem line_breaks_shift (pieces : List (Text × Member)) (mark : Text) :
    mark ++ pieces.flatMap (fun piece => piece.1 ++ mark) =
      pieces.flatMap (fun piece => mark ++ piece.1) ++ mark := by
  induction pieces with
  | nil => exact List.append_nil mark
  | cons piece pieces ih =>
      rw [List.flatMap_cons, List.flatMap_cons, List.append_assoc, List.append_assoc, ih,
        List.append_assoc]

/-- Members in braces are read one after the other up to the closing brace. -/
theorem body_reads {text : Text} {members : List Member} (lines : Lines text members)
    (suffix : Text) :
    body (Text.ofString " \x7b\n" ++ (text ++ .char '\x7d' :: suffix)) =
      some (members, suffix) := by
  obtain ⟨pieces, rfl, rfl, each⟩ := lines
  have inner : many member (pieces.flatMap (fun piece => Text.ofString "\n" ++ piece.1) ++
      (Text.ofString "\n" ++ .char '\x7d' :: suffix)) =
        some (pieces.map Prod.snd, Text.ofString "\n" ++ .char '\x7d' :: suffix) := by
    apply many_reads pieces _ _ (fun _ => True) _ _ trivial
    · rfl
    · intro piece among following _
      rw [List.append_assoc, member_skips (is_trivia_spaces _ (by decide)),
        each piece among following]
    · intro piece _
      exact ⟨List.cons_ne_nil _ _, fun _ => trivial⟩
  have shifted : Text.ofString "\n" ++
      (pieces.flatMap (fun piece => piece.1 ++ Text.ofString "\n") ++ .char '\x7d' :: suffix) =
        pieces.flatMap (fun piece => Text.ofString "\n" ++ piece.1) ++
          (Text.ofString "\n" ++ .char '\x7d' :: suffix) := by
    rw [← List.append_assoc, line_breaks_shift, List.append_assoc]
  have opened : symbol '\x7b' (Text.ofString " \x7b\n" ++
      (pieces.flatMap (fun piece => piece.1 ++ Text.ofString "\n") ++ .char '\x7d' :: suffix)) =
        some ((), Text.ofString "\n" ++
          (pieces.flatMap (fun piece => piece.1 ++ Text.ofString "\n") ++
            .char '\x7d' :: suffix)) := rfl
  rw [shifted] at opened
  have closed : symbol '\x7d' (Text.ofString "\n" ++ .char '\x7d' :: suffix) =
      some ((), suffix) := rfl
  rw [body, bind_of _ opened, bind_of _ inner, bind_of _ closed]
  rfl

end Script

theorem ClassLike.render_all_lines {α : Type} (render : α → Rendering Text) (mean : α → Member)
    (items : List α)
    (each : ∀ item ∈ items, ∀ text, (render item).outcome = .ok text → Lines text [mean item])
    (text : Text) (rendered : (renderAll render items).outcome = .ok text) :
    Lines text (items.map mean) := by
  induction items generalizing text with
  | nil =>
      rw [← Except.ok.inj rendered]
      exact .nil
  | cons item items ih =>
      rw [renderAll, Rendering.bind_outcome] at rendered
      obtain ⟨line, here, rest⟩ := bind_ok_iff.1 rendered
      rw [Rendering.bind_outcome] at rest
      obtain ⟨lines, later, written⟩ := bind_ok_iff.1 rest
      rw [← Except.ok.inj written]
      exact (each item (by simp) line here).append
        (ih (fun other among => each other (by simp [among])) lines later)

end Stubwright
