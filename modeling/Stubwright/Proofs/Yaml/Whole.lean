import Stubwright.Proofs.Yaml.Ending

/-!
A document is composed from a text that is whole. No part of it forgets whether the text breaks
off, and there is a root only once no further token comes, so what a text holds that breaks off is
never known.
-/

namespace Stubwright.Yaml

section

variable {α β : Type} {action : Compose α} {next : α → Compose β} {before after : Composer}
  {value : α} {result : β}

namespace Compose

theorem bind_run_iff : StateT.run (action >>= next) before = .ok (result, after) ↔
    ∃ value between, action.run before = .ok (value, between) ∧
      (next value).run between = .ok (result, after) := by
  rw [StateT.run_bind, bind_ok_iff]
  constructor
  · rintro ⟨⟨value, between⟩, first, second⟩
    exact ⟨value, between, first, second⟩
  · rintro ⟨value, between, first, second⟩
    exact ⟨(value, between), first, second⟩

/-- An action keeps in mind whether the text breaks off. -/
def Keeps (action : Compose α) : Prop :=
  ∀ before value after, action.run before = .ok (value, after) → after.ending = before.ending

@[grind ←]
theorem Keeps.bind (first : Keeps action) (second : ∀ value, Keeps (next value)) :
    Keeps (action >>= next) := by
  intro before result after read
  obtain ⟨value, between, one, other⟩ := bind_run_iff.1 read
  exact (second value between result after other).trans (first before value between one)

@[grind ←]
theorem Keeps.pure (value : α) : Keeps (Pure.pure value : Compose α) := by
  intro before result after read
  cases read
  rfl

theorem Keeps.map {change : α → β} (keeps : Keeps action) : Keeps (change <$> action) := by
  rw [map_eq_pure_bind]
  exact .bind keeps fun _ => .pure _

@[grind ←]
theorem keeps_malformed : Keeps (malformed : Compose α) := fun _ _ _ read => nomatch read

@[grind ←]
theorem keeps_throw {failure : Failure} : Keeps (throw failure : Compose α) :=
  fun _ _ _ read => nomatch read

@[grind ←]
theorem Keeps.get : Keeps (get : Compose Composer) := by
  intro before result after read
  cases read
  rfl

theorem Keeps.modify {change : Composer → Composer}
    (same : ∀ composer, (change composer).ending = composer.ending) :
    Keeps (modify change : Compose Unit) := by
  intro before result after read
  cases read
  exact same before

@[grind ←]
theorem keeps_peek : Keeps peek := by
  intro before token after read
  obtain ⟨_, _, same, read⟩ := bind_run_iff.1 read
  cases same
  split at read
  · cases read
  · cases read
    rfl

@[grind ←]
theorem keeps_skip : Keeps skip := .modify fun _ => rfl

@[grind ←]
theorem keeps_next_in {tokens : List Token} : Keeps (nextIn tokens) := by grind [nextIn]

@[grind ←]
theorem keeps_accept {token : Token} : Keeps (accept token) := by grind [accept]

@[grind ←]
theorem keeps_properties : Keeps properties := by
  refine .bind keeps_peek fun token => ?_
  split <;> grind

@[grind ←]
theorem keeps_expand_tag {tag : TagName} : Keeps (expandTag tag) := by grind [expandTag]

@[grind ←]
theorem keeps_is_anchored {name : String} : Keeps (isAnchored name) := by grind [isAnchored]

@[grind ←]
theorem keeps_aliased {name : String} : Keeps (aliased name) := by grind [aliased]

@[grind ←]
theorem keeps_label : Keeps label := by
  intro before result after read
  cases read
  rfl

@[grind ←]
theorem keeps_inside (contents : Keeps action) : Keeps (inside action) := by
  have enter : Keeps (do
      modify fun composer => { composer with depth := composer.depth + 1 }
      let read ← action
      modify fun composer => { composer with depth := composer.depth - 1 }
      return read) :=
    .bind (.modify fun _ => rfl) fun _ => .bind contents fun _ => .bind (.modify fun _ => rfl)
      fun _ => .pure _
  refine .bind .get fun composer => ?_
  split
  · exact .bind keeps_throw fun _ => enter
  · exact enter

theorem keeps_open_anchor {name : String} : Keeps (openAnchor name) := by
  have opened (isMapping : Bool) (label : Nat) : Keeps (do
      modify fun composer =>
        { composer with anchors := (name, .link label isMapping) :: composer.anchors }
      return label) :=
    .bind (.modify fun _ => rfl) fun _ => .pure _
  have labelled : Keeps (do
      let isMapping ← nextIn [.flowMappingStart, .blockMappingStart]
      let label ← if isMapping then pure (← get).labels else label
      modify fun composer =>
        { composer with anchors := (name, .link label isMapping) :: composer.anchors }
      return label) := by
    refine .bind keeps_next_in fun isMapping => ?_
    cases isMapping with
    | false => exact .bind keeps_label fun label => opened false label
    | true => exact .bind .get fun composer => opened true composer.labels
  refine .bind keeps_is_anchored fun known => ?_
  cases known with
  | false => exact labelled
  | true => exact .bind keeps_malformed fun _ => labelled

theorem keeps_close_anchor {name : String} {label : Nat} {made : Node} :
    Keeps (closeAnchor name label made) :=
  .bind (.modify fun _ => rfl) fun _ => .pure _

theorem keeps_listed {first : Bool} {ended separator : Token} {none : α} (kept : Keeps action) :
    Keeps (do
      if ← accept ended then return none
      if !first then
        if !(← accept separator) then malformed
      action) := by
  cases first <;> grind

structure KeepsWithin (fuel : Nat) : Prop where
  node : ∀ block indentless, Keeps (node block indentless fuel)
  content : ∀ block indentless tag hasProperties,
    Keeps (content block indentless tag hasProperties fuel)
  nodeUnless : ∀ ends block indentless, Keeps (nodeUnless ends block indentless fuel)
  blockItems : Keeps (blockItems fuel)
  indentlessItems : Keeps (indentlessItems fuel)
  blockPairs : Keeps (blockPairs fuel)
  valueAfter : ∀ ends block, Keeps (valueAfter ends block fuel)
  flowItems : ∀ first, Keeps (flowItems first fuel)
  flowPairs : ∀ first, Keeps (flowPairs first fuel)

namespace KeepsWithin

variable {fuel : Nat}

theorem node_succ (kept : KeepsWithin fuel) (block indentless : Bool) :
    Keeps (Compose.node block indentless (fuel + 1)) := by
  rw [Compose.node]
  refine .bind keeps_peek fun token => ?_
  split
  · exact .bind keeps_skip fun _ => keeps_aliased
  · refine .bind keeps_properties ?_
    rintro ⟨tagName, anchor⟩
    have bare (tag : Option String) (isTagged : Bool) :
        Keeps (peek >>= fun _ => Compose.content block indentless tag isTagged fuel) :=
      .bind keeps_peek fun _ => kept.content _ _ _ _
    have anchored (tag : Option String) (name : String) : Keeps (do
        let _ ← peek
        let label ← openAnchor name
        let made ← Compose.content block indentless tag true fuel
        closeAnchor name label made) :=
      .bind keeps_peek fun _ => .bind keeps_open_anchor fun _ =>
        .bind (kept.content _ _ _ _) fun _ => keeps_close_anchor
    cases tagName with
    | none =>
        cases anchor with
        | none => exact .bind (.pure _) fun tag => bare tag _
        | some name => exact .bind (.pure _) fun tag => anchored tag name
    | some tag =>
        cases anchor with
        | none => exact .bind (.map keeps_expand_tag) fun tag => bare tag _
        | some name => exact .bind (.map keeps_expand_tag) fun tag => anchored tag name

theorem flow_items_succ (kept : KeepsWithin fuel) (first : Bool) :
    Keeps (Compose.flowItems first (fuel + 1)) := by
  rw [Compose.flowItems]
  refine keeps_listed (.bind keeps_accept fun keyed => ?_)
  have pair : Keeps (do
      let key ← Compose.nodeUnless [.value, .flowEntry, .flowSequenceEnd] false false fuel
      return (key, ← Compose.valueAfter [.flowEntry, .flowSequenceEnd] false fuel)) :=
    .bind (kept.nodeUnless _ _ _) fun _ => .bind (kept.valueAfter _ _) fun _ => .pure _
  have items := kept.flowItems
  have node := kept.node
  split
  · exact .bind keeps_label fun _ => .bind (keeps_inside pair) fun _ =>
      .bind (items false) fun _ => .pure _
  · grind

theorem flow_pairs_succ (kept : KeepsWithin fuel) (first : Bool) :
    Keeps (Compose.flowPairs first (fuel + 1)) := by
  obtain ⟨node, _, nodeUnless, _, _, _, valueAfter, _, flowPairs⟩ := kept
  rw [Compose.flowPairs]
  refine keeps_listed (.bind keeps_accept fun keyed => ?_)
  grind

end KeepsWithin

theorem keeps_within (fuel : Nat) : KeepsWithin fuel := by
  induction fuel with
  | zero => constructor <;> intros <;> exact keeps_malformed
  | succ fuel ih =>
      obtain ⟨node, content, nodeUnless, blockItems, indentlessItems, blockPairs, valueAfter,
        flowItems, flowPairs⟩ := id ih
      constructor
      · exact ih.node_succ
      · grind [Compose.content]
      · grind [Compose.nodeUnless]
      · grind [Compose.blockItems]
      · grind [Compose.indentlessItems]
      · grind [Compose.blockPairs]
      · grind [Compose.valueAfter]
      · exact ih.flow_items_succ
      · exact ih.flow_pairs_succ

variable {fuel : Nat}

theorem keeps_add_standard : Keeps addStandardHandles := .modify fun _ => rfl

@[grind ←]
theorem keeps_directives {version : Bool} : Keeps (directives version fuel) := by
  induction fuel generalizing version with
  | zero => exact keeps_malformed
  | succ fuel ih =>
      refine .bind keeps_peek fun token => ?_
      split
      · refine .bind keeps_skip fun _ => ?_
        split
        · grind
        · refine .bind .get fun composer => ?_
          have added (handle expansion : String) : Keeps (do
              modify fun composer =>
                { composer with handles := (handle, expansion) :: composer.handles }
              directives version fuel) :=
            .bind (.modify fun _ => rfl) fun _ => ih
          split
          · exact .bind keeps_malformed fun _ => added _ _
          · exact added _ _
        · exact ih
      · exact .pure _

@[grind ←]
theorem keeps_skip_document_ends : Keeps (skipDocumentEnds fuel) := by
  induction fuel with
  | zero => exact .pure _
  | succ fuel ih => grind [skipDocumentEnds]

/-- An action gives a value only where the text does not break off. -/
def NeedsWhole (action : Compose α) : Prop :=
  ∀ before value after, action.run before = .ok (value, after) → before.ending = none

theorem NeedsWhole.bind (first : Keeps action) (second : ∀ value, NeedsWhole (next value)) :
    NeedsWhole (action >>= next) := by
  intro before result last read
  obtain ⟨value, between, one, other⟩ := bind_run_iff.1 read
  exact (first before value between one).symm.trans (second value between result last other)

theorem NeedsWhole.fail : NeedsWhole (malformed >>= next) :=
  fun _ _ _ read => nomatch read

/-- Only a whole text has no further token. -/
theorem NeedsWhole.unless_token {next : Option Token → Compose β}
    (more : ∀ token, NeedsWhole (next (some token))) : NeedsWhole (peek >>= next) := by
  rintro ⟨_ | ⟨token, tokens⟩, _ | failure⟩ result last read
  · rfl
  · cases read
  · rfl
  · exact more token _ _ _ read

theorem needs_whole_document : NeedsWhole (document fuel) := by
  have node := (keeps_within fuel).node true false
  have finish (root : Node) : NeedsWhole (do
      skipDocumentEnds fuel
      if (← peek).isSome then
        directives false fuel
        let _ ← peek
        malformed
      return some root) := by
    refine .bind keeps_skip_document_ends fun _ => .unless_token fun token => ?_
    exact .bind keeps_directives fun _ => .bind keeps_peek fun _ => .fail
  refine .bind keeps_peek fun first => ?_
  -- Announced or not, the node is followed by no token.
  split
  case h_1 | h_2 | h_3 =>
    refine .bind (.pure _) fun announced => .unless_token fun token => ?_
    cases announced with
    | false => exact .bind keeps_add_standard fun _ => .bind node finish
    | true =>
        refine .bind keeps_directives fun _ => .bind keeps_add_standard fun _ =>
          .bind keeps_accept fun started => ?_
        cases started with
        | false => exact .fail
        | true =>
            refine .bind keeps_peek fun next => ?_
            split
            case h_5 => exact .bind node finish
            case h_1 | h_2 | h_3 | h_4 => exact .bind (.pure _) finish

end Compose

end

theorem Node.of_tokens_whole {room : Room} {list : TokenList} {root : Option Node}
    (composed : Node.ofTokens? room list = .ok root) : list.ending = none := by
  rw [Node.ofTokens?] at composed
  split at composed
  next read => exact Compose.needs_whole_document _ _ _ read
  next => cases composed

/-- Only a text that does not break off has a value. -/
theorem Document.load_whole {name : Nat → Value → Value} {room : Room} {stream : Stream}
    {value : Value} (loaded : Document.loadAs name room stream = .ok value) :
    stream.ending = none := by
  obtain ⟨root, composed, _⟩ := bind_ok_iff.1 loaded
  exact TokenList.of_stream_whole (Node.of_tokens_whole composed)

end Stubwright.Yaml
