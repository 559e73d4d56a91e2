import Stubwright.Proofs.Stub.Isolation
import Stubwright.Proofs.Text.Gaps

/-!
Renderings that differ only in the placeholder. They warn of the same and fail for
the same causes, and where they yield text, the placeholder stands in it once for each warning. This
holds of every part of a construct, and passes from the parts to the whole.
-/

namespace Stubwright

open Text (HasGaps EachHasGaps)

def Renderer.withPlaceholder (renderer : Renderer) (placeholder : Text) : Renderer :=
  { renderer with placeholder }

@[simp]
theorem Renderer.with_placeholder_room (renderer : Renderer) (placeholder : Text) :
    (renderer.withPlaceholder placeholder).room = renderer.room := rfl

namespace Rendering

variable {α β : Type}

/-- A rendering for every placeholder, or for every text that another setting may be. All of them
write the same and either fail for the same cause or yield values, which are related to the number
of warnings. -/
inductive Uniform (related : Nat → (Text → α) → Prop) (rendering : Text → Rendering α) : Prop
  | failed (cause : RenderError) (journal : Journal)
      (same : ∀ placeholder, (rendering placeholder).run {} = (.error cause, journal))
  | rendered (value : Text → α) (journal : Journal)
      (same : ∀ placeholder, (rendering placeholder).run {} = (.ok (value placeholder), journal))
      (holds : related journal.diagnostics.length value)

namespace Uniform

variable {related : Nat → (Text → α) → Prop}

theorem pure {value : Text → α} (holds : related 0 value) :
    Uniform related fun placeholder => Pure.pure (value placeholder) :=
  .rendered value {} (fun _ => rfl) holds

/-- A rendering that the placeholder has no part in. -/
theorem fixed {rendering : Rendering α}
    (holds : ∀ value, rendering.outcome = .ok value →
      related rendering.warnings.length fun _ => value) :
    Uniform related fun _ => rendering := by
  cases outcome : rendering.outcome with
  | error cause => exact .failed cause _ fun _ => Prod.ext outcome rfl
  | ok value =>
      exact .rendered (fun _ => value) _ (fun _ => Prod.ext outcome rfl) (holds value outcome)

theorem warn (construct message : Text) :
    Uniform (fun count _ => count = 1) fun _ => Rendering.warn construct message :=
  .rendered (fun _ => ()) _ (fun _ => rfl) rfl

/-- The warnings of what comes first are counted with those of what follows. -/
theorem bind {first : Text → Rendering α} {next : Text → α → Rendering β}
    {later : Nat → (Text → β) → Prop} (before : Uniform related first)
    (after : ∀ count value, related count value →
      Uniform (fun more => later (count + more)) fun placeholder =>
        next placeholder (value placeholder)) :
    Uniform later fun placeholder => first placeholder >>= next placeholder := by
  cases before with
  | failed cause journal same =>
      apply failed cause journal
      intro placeholder
      change continueWith _ ((first placeholder).run {}) = _
      rw [same placeholder]
      rfl
  | rendered value journal same holds =>
      have continued : ∀ placeholder, (first placeholder >>= next placeholder).run {} =
          (((next placeholder (value placeholder)).run {}).1,
            journal ++ ((next placeholder (value placeholder)).run {}).2) := by
        intro placeholder
        change continueWith _ ((first placeholder).run {}) = _
        rw [same placeholder]
        exact (next placeholder (value placeholder)).frame journal
      cases after journal.diagnostics.length value holds with
      | failed cause written alike =>
          apply failed cause (journal ++ written)
          intro placeholder
          rw [continued, alike placeholder]
      | rendered result written alike held =>
          refine .rendered result (journal ++ written) ?_ ?_
          · intro placeholder
            rw [continued, alike placeholder]
          · rw [Journal.append_diagnostics, List.length_append]
            exact held

end Uniform

end Rendering

open Rendering (Uniform)

variable (renderer : Renderer)

theorem render_type_uniform (type : TypeRef) : Uniform HasGaps fun _ => renderType type :=
  .fixed fun text _ => .fixed text

theorem type_before_uniform (type : Option TypeRef) : Uniform HasGaps fun _ => typeBefore type := by
  cases type with
  | none => exact .pure (.fixed [])
  | some type => exact (render_type_uniform type).bind fun _ _ gaps => .pure (gaps.extend " ")

theorem return_clause_uniform (type : Option TypeRef) :
    Uniform HasGaps fun _ => returnClause type := by
  cases type with
  | none => exact .pure (.fixed [])
  | some type => exact (render_type_uniform type).bind fun _ _ gaps => .pure (gaps.prepend ": ")

/-- A warning and the placeholder always come together. -/
theorem warned_placeholder_uniform (construct message : Text) :
    Uniform HasGaps fun placeholder => do
      Rendering.warn construct message
      return (renderer.withPlaceholder placeholder).placeholder := by
  apply (Uniform.warn construct message).bind
  rintro _ _ rfl
  exact .pure HasGaps.filler

theorem ValueRef.render_uniform (site : Site) (construct : Text) (value : Option ValueRef) :
    Uniform HasGaps fun placeholder =>
      ValueRef.render (renderer.withPlaceholder placeholder) site construct value := by
  rcases value with _ | ⟨value | expression | value⟩
  · exact warned_placeholder_uniform renderer construct _
  · simp only [render, Renderer.with_placeholder_room]
    cases Literal.ofValue (renderer.room site) value with
    | ok text => exact .pure (.fixed text)
    | error cause =>
        dsimp only
        split
        · exact warned_placeholder_uniform renderer construct _
        · exact .fixed fun text impossible => by cases impossible
  · exact warned_placeholder_uniform renderer construct _
  · exact warned_placeholder_uniform renderer construct _

namespace Parameter

variable (site : Site) (owner : Text)

theorem render_uniform (parameter : Parameter) :
    Uniform HasGaps fun placeholder =>
      parameter.render (renderer.withPlaceholder placeholder) site owner := by
  apply (type_before_uniform parameter.type).bind
  intro count type gaps
  have head := (((gaps.extend (.when parameter.byReference "&")).extend
    (.when parameter.variadic "...")).extend "$").extend parameter.name
  dsimp only
  split
  · apply (ValueRef.render_uniform renderer site _ parameter.default).bind
    intro more value filled
    exact .pure ((head.extend "=").append filled)
  · exact .pure head

theorem render_each_uniform (parameters : List Parameter) :
    Uniform EachHasGaps fun placeholder =>
      renderEach (renderer.withPlaceholder placeholder) site owner parameters := by
  induction parameters with
  | nil => exact .pure .nil
  | cons parameter parameters ih =>
      apply (render_uniform renderer site owner parameter).bind
      intro count text gaps
      apply ih.bind
      intro more texts others
      exact .pure (.cons gaps others)

theorem render_list_uniform (parameters : List Parameter) :
    Uniform HasGaps fun placeholder =>
      renderList (renderer.withPlaceholder placeholder) site owner parameters :=
  (render_each_uniform renderer site owner parameters).bind fun _ _ gaps =>
    .pure (gaps.join_with ", ")

end Parameter

theorem Property.render_uniform (property : Property) :
    Uniform HasGaps fun placeholder => property.render (renderer.withPlaceholder placeholder) :=
  (type_before_uniform property.type).bind fun _ _ gaps =>
    .pure ((((gaps.prepend (renderer.indent ++ docLines property.docComment renderer.indent ++
      property.modifiers)).extend "$").extend property.name).extend ";\n")

theorem Method.render_uniform (owner : Text) (inInterface : Bool) (method : Method) :
    Uniform HasGaps fun placeholder =>
      method.render (renderer.withPlaceholder placeholder) owner inInterface := by
  apply (Parameter.render_list_uniform renderer _ _ method.parameters).bind
  intro count parameters gaps
  apply (return_clause_uniform method.returnType).bind
  intro more returns others
  have head := gaps.prepend (renderer.indent ++ docLines method.docComment renderer.indent ++
    method.modifiers inInterface ++ "function " ++ method.name ++ " (")
  exact .pure (((head.extend ")").append others).extend (method.ending inInterface))

/-- Fragments of one scope, the placeholder in their texts as often as is counted. -/
def FragmentHasGaps (count : Nat) (fragment : Text → Fragment) : Prop :=
  ∃ scope text, HasGaps count text ∧ fragment = fun placeholder => ⟨scope, text placeholder⟩

theorem Constant.render_uniform (constant : Constant) :
    Uniform FragmentHasGaps fun placeholder =>
      constant.render (renderer.withPlaceholder placeholder) := by
  have literal_or_placeholder : Uniform HasGaps fun placeholder =>
      constant.value? (renderer.withPlaceholder placeholder) := by
    unfold value?
    cases constant.value with
    | literal value =>
        simp only [Renderer.with_placeholder_room]
        exact .fixed fun text _ => .fixed text
    | unresolved expression => exact ValueRef.render_uniform renderer _ constant.name _
    | foreign value => exact ValueRef.render_uniform renderer _ constant.name _
  apply literal_or_placeholder.bind
  intro count value gaps
  exact .pure ⟨_, _, (gaps.prepend _).extend ";", rfl⟩

theorem Function.render_uniform (function : Function) :
    Uniform FragmentHasGaps fun placeholder =>
      function.render (renderer.withPlaceholder placeholder) := by
  apply (Parameter.render_list_uniform renderer _ function.name function.parameters).bind
  intro count parameters gaps
  apply (return_clause_uniform function.returnType).bind
  intro more returns others
  exact .pure ⟨_, _, (((gaps.prepend _).extend ")").append others).extend emptyBody, rfl⟩

namespace ClassLike

theorem render_all_uniform {α : Type} {related : Nat → (Text → Text) → Prop}
    (nothing : related 0 fun _ => [])
    (append : ∀ count more first second, related count first → related more second →
      related (count + more) fun placeholder => first placeholder ++ second placeholder)
    (render : Text → α → Rendering Text) (members : List α)
    (each : ∀ member ∈ members, Uniform related fun placeholder => render placeholder member) :
    Uniform related fun placeholder => renderAll (render placeholder) members := by
  induction members with
  | nil => exact .pure nothing
  | cons member members ih =>
      apply (each member (by simp)).bind
      intro count text gaps
      apply (ih fun other among => each other (by simp [among])).bind
      intro more texts others
      exact .pure (append count more text texts gaps others)

theorem render_all_has_gaps {α : Type} (render : Text → α → Rendering Text)
    (each : ∀ member, Uniform HasGaps fun placeholder => render placeholder member)
    (members : List α) :
    Uniform HasGaps fun placeholder => renderAll (render placeholder) members :=
  render_all_uniform (.fixed []) (fun _ _ _ _ before after => before.append after) render members
    fun member _ => each member

theorem constant_line_uniform (owner : Text) (constant : Constant) :
    Uniform HasGaps fun placeholder =>
      constantLine (renderer.withPlaceholder placeholder) owner constant :=
  (ValueRef.render_uniform renderer _ _ (some constant.value)).bind fun _ _ gaps =>
    .pure ((gaps.prepend (renderer.indent ++ "const " ++ constant.name ++ "=")).extend ";\n")

theorem render_uniform (declared : ClassLike) :
    Uniform FragmentHasGaps fun placeholder =>
      declared.render (renderer.withPlaceholder placeholder) := by
  apply (render_all_has_gaps _ (constant_line_uniform renderer _) declared.constants).bind
  intro first constants gaps
  apply (render_all_has_gaps _ (Property.render_uniform renderer) declared.properties).bind
  intro second properties others
  apply (render_all_has_gaps _ (Method.render_uniform renderer _ _) declared.ownMethods).bind
  intro third methods last
  have body := gaps.prepend (docLines declared.docComment "" ++ declared.header ++ " \x7b\n" ++
    declared.traits.flatMap (traitLine renderer))
  have whole := ((body.append others).append last).extend "\x7d"
  rw [Nat.add_assoc] at whole
  exact .pure ⟨_, _, whole, rfl⟩

end ClassLike

end Stubwright
