import Mathlib.Data.List.Nodup
import Stubwright.Display
import Stubwright.Proofs.Name.Division
import Stubwright.Proofs.Script.Declaration
import Stubwright.Proofs.Stub.Interleaving

/-!
The outline of an extension groups its symbols as the stub groups its fragments. The outline keeps
the global scope among the namespaces under a name of its own and the stub keeps it apart, so the
two agree as long as no namespace has that name.
-/

namespace Stubwright

/-- Items that are sorted by their keys are all still there, each once. -/
theorem grouped_perm {α κ : Type} [DecidableEq κ] (key : α → κ) (items : List α) (keys : List κ)
    (distinct : keys.Nodup) (covered : ∀ item ∈ items, key item ∈ keys) :
    (keys.flatMap fun each => items.filter fun item => key item = each).Perm items := by
  induction keys generalizing items with
  | nil =>
      have nothing : items = [] :=
        List.eq_nil_iff_forall_not_mem.2 fun item among => List.not_mem_nil (covered item among)
      rw [nothing]
      exact .nil
  | cons first others ih =>
      obtain ⟨fresh, rest⟩ := List.nodup_cons.1 distinct
      have later := ih (items.filter fun item => !decide (key item = first)) rest (by
        intro item member
        obtain ⟨among, other⟩ := List.mem_filter.1 member
        rcases List.mem_cons.1 (covered item among) with same | there
        · simp [same] at other
        · exact there)
      have unmoved : ∀ each ∈ others, (items.filter fun item => !decide (key item = first)).filter
          (fun item => key item = each) = items.filter fun item => key item = each := by
        intro each member
        rw [List.filter_filter]
        apply List.filter_congr
        intro item _
        by_cases here : key item = each
        · have other : each ≠ first := fun same => fresh (same ▸ member)
          simp [here, other]
        · simp [here]
      rw [List.flatMap_congr unmoved] at later
      have apart := List.filter_append_perm (fun item => key item = first) items
      exact (later.append_left _).trans apart

namespace Stub

/-- A fragment stands in the scope that the name of its construct gives. -/
theorem construct_scope (renderer : Renderer) (extension : Extension)
    (construct : Text × Rendering Fragment) (among : construct ∈ constructs renderer extension)
    (fragment : Fragment) (rendered : construct.2.outcome = .ok fragment) :
    fragment.scope = (QualifiedName.ofText construct.1).scope := by
  rcases List.mem_append.1 among with earlier | isClass
  · rcases List.mem_append.1 earlier with isConstant | isFunction
    · obtain ⟨constant, _, rfl⟩ := List.mem_map.1 isConstant
      exact constant.render_scope renderer fragment rendered
    · obtain ⟨function, _, rfl⟩ := List.mem_map.1 isFunction
      exact function.render_scope renderer fragment rendered
  · obtain ⟨declared, _, rfl⟩ := List.mem_map.1 isClass
    exact declared.render_scope renderer fragment rendered

end Stub

namespace Extension

def names (extension : Extension) : List Text :=
  extension.constants.map Constant.name ++ extension.functions.map Function.name ++
    extension.classes.map ClassLike.name

/-- The scopes of the names, with the global one among them, each where it is first seen. -/
def scopes (extension : Extension) : List (Option Text) :=
  (extension.names.map fun name => (QualifiedName.ofText name).scope).eraseDups

def leavesIn (scope : Option Text) (extension : Extension) : List Text :=
  (extension.symbols.filter fun symbol => symbol.scope = scope).map Symbol.label

def scopeName (scope : Option Text) : Text := scope.getD globalScope

theorem symbol_scopes (extension : Extension) :
    extension.symbols.map Symbol.scope =
      extension.names.map fun name => (QualifiedName.ofText name).scope := by
  simp only [symbols, names, List.map_append, List.map_map]
  rfl

/-- The scopes of names are never empty texts, so only the global scope is called by its
own name. -/
theorem symbol_branch (extension : Extension) (symbol : Symbol)
    (among : symbol ∈ extension.symbols) : symbol.branch = scopeName symbol.scope := by
  have inNames : symbol.scope ∈
      extension.names.map fun name => (QualifiedName.ofText name).scope := by
    rw [← symbol_scopes]
    exact List.mem_map_of_mem among
  obtain ⟨name, _, same⟩ := List.mem_map.1 inNames
  have nonempty : symbol.scope ≠ some [] := same ▸ QualifiedName.scope_ne_nil name
  unfold Symbol.branch
  cases scope : symbol.scope with
  | none => rfl
  | some given =>
      dsimp only
      rw [if_neg]
      · rfl
      · rintro rfl
        exact nonempty scope

/-- The outline sorts its symbols as a stub sorts fragments that all have a namespace. -/
theorem outline_eq (extension : Extension) :
    extension.outline = (Partition.ofFragments
      (extension.symbols.map fun symbol => ⟨some symbol.branch, symbol.label⟩)).scopes := by
  have run : ∀ (symbols : List Symbol) (partition : Partition),
      symbols.foldl (fun branches symbol => Partition.addTo symbol.branch symbol.label branches)
          partition.scopes =
        ((symbols.map fun symbol => (⟨some symbol.branch, symbol.label⟩ : Fragment)).foldl
          Partition.add partition).scopes := by
    intro symbols
    induction symbols with
    | nil => exact fun _ => rfl
    | cons symbol symbols ih =>
        exact fun partition => ih (partition.add ⟨some symbol.branch, symbol.label⟩)
  exact run extension.symbols {}

section

variable (extension : Extension)
  (apart : ∀ name ∈ extension.names, (QualifiedName.ofText name).scope ≠ some globalScope)
include apart

theorem scope_name_injective {left right : Option Text} (isLeft : left ∈ extension.scopes)
    (isRight : right ∈ extension.scopes) (same : scopeName left = scopeName right) :
    left = right := by
  have given : ∀ scope ∈ extension.scopes, scope ≠ some globalScope := by
    intro scope member
    obtain ⟨name, among, rfl⟩ := List.mem_map.1 (List.mem_eraseDups.1 member)
    exact apart name among
  rcases left with _ | left <;> rcases right with _ | right
  · rfl
  · exact absurd (congrArg some same.symm) (given _ isRight)
  · exact absurd (congrArg some same) (given _ isLeft)
  · exact congrArg some same

theorem outline_scopes :
    extension.outline = extension.scopes.map fun scope =>
      (scopeName scope, extension.leavesIn scope) := by
  have seen : Partition.firstSeen (extension.symbols.map fun symbol =>
      ⟨some symbol.branch, symbol.label⟩) = extension.scopes.map scopeName := by
    have names : (extension.symbols.map fun symbol =>
        (⟨some symbol.branch, symbol.label⟩ : Fragment)).filterMap Fragment.scope =
          (extension.symbols.map Symbol.scope).filterMap (some ∘ scopeName) := by
      rw [List.filterMap_map, List.filterMap_map]
      apply List.filterMap_congr
      intro symbol among
      exact congrArg some (symbol_branch extension symbol among)
    have selected := Partition.erase_dups_filter_map (some ∘ scopeName)
      (extension.symbols.map Symbol.scope) (by
        rw [symbol_scopes]
        intro left isLeft right isRight found leftFound rightFound
        apply scope_name_injective extension apart (List.mem_eraseDups.2 isLeft)
          (List.mem_eraseDups.2 isRight)
        exact Option.some.inj (leftFound.trans rightFound.symm))
    rw [Partition.firstSeen, names, selected, symbol_scopes, List.filterMap_eq_map, scopes]
  rw [outline_eq, Partition.of_fragments_eq, Partition.described, seen, List.map_map]
  apply List.map_congr_left
  intro scope isScope
  apply congrArg (Prod.mk (scopeName scope))
  rw [Partition.textsIn, leavesIn, List.filter_map, List.map_map]
  have sameSymbols : extension.symbols.filter
      ((fun fragment : Fragment => decide (fragment.scope = some (scopeName scope))) ∘
        fun symbol => ⟨some symbol.branch, symbol.label⟩) =
      extension.symbols.filter fun symbol => symbol.scope = scope := by
    apply List.filter_congr
    intro symbol among
    have isSymbols : symbol.scope ∈ extension.scopes := by
      rw [scopes, ← symbol_scopes]
      exact List.mem_eraseDups.2 (List.mem_map_of_mem among)
    have sameName : scopeName symbol.scope = scopeName scope ↔ symbol.scope = scope :=
      ⟨scope_name_injective extension apart isSymbols isScope, fun same => same ▸ rfl⟩
    simp only [Function.comp_apply, symbol_branch extension symbol among, Option.some.injEq,
      sameName]
  rw [sameSymbols]
  rfl

end

end Extension

namespace Stub

/-- Where every construct has a fragment, symbols and fragments go together one by one. -/
theorem exists_entries (constructs : List (Text × Rendering Fragment)) (symbols : List Symbol)
    (sameScopes : symbols.map Symbol.scope =
      constructs.map fun construct => (QualifiedName.ofText construct.1).scope)
    (rendered : ∀ construct ∈ constructs, ∃ text,
      construct.2.outcome = .ok ⟨(QualifiedName.ofText construct.1).scope, text⟩) :
    ∃ entries : List (Symbol × Text), entries.map Prod.fst = symbols ∧
      (constructs.map fun construct => construct.2.outcome) =
        entries.map fun entry => .ok ⟨entry.1.scope, entry.2⟩ := by
  induction constructs generalizing symbols with
  | nil =>
      rw [List.map_eq_nil_iff.1 sameScopes]
      exact ⟨[], rfl, rfl⟩
  | cons construct constructs ih =>
      obtain ⟨symbol, others, rfl, sameScope, sameOthers⟩ := List.map_eq_cons_iff.1 sameScopes
      obtain ⟨text, here⟩ := rendered construct (by simp)
      obtain ⟨entries, inSymbols, inOutcomes⟩ := ih others sameOthers fun later member =>
        rendered later (List.mem_cons_of_mem _ member)
      refine ⟨(symbol, text) :: entries, ?_, ?_⟩
      · rw [List.map_cons, inSymbols]
      · rw [List.map_cons, List.map_cons, inOutcomes, here, sameScope]

end Stub

namespace Extension

theorem constructs_named (renderer : Renderer) (extension : Extension) :
    (Stub.constructs renderer extension).map Prod.fst = extension.names := by
  simp only [Stub.constructs, names, List.map_append, List.map_map]
  rfl

def textsOf (scope : Option Text) (entries : List (Symbol × Text)) : List Text :=
  (entries.filter fun entry => entry.1.scope = scope).map Prod.snd

theorem partition_of_entries (extension : Extension) (entries : List (Symbol × Text))
    (inSymbols : entries.map Prod.fst = extension.symbols) :
    Partition.ofFragments (entries.map fun entry => ⟨entry.1.scope, entry.2⟩) =
      ⟨(extension.scopes.filterMap id).map fun scope => (scope, textsOf (some scope) entries),
        textsOf none entries⟩ := by
  have seen : Partition.firstSeen (entries.map fun entry => ⟨entry.1.scope, entry.2⟩) =
      extension.scopes.filterMap id := by
    have inEntries : extension.symbols.map Symbol.scope =
        entries.map fun entry => entry.1.scope := by
      rw [← inSymbols, List.map_map]
      rfl
    rw [scopes, ← symbol_scopes, ← Partition.erase_dups_filter_map id _ fun left _ right _ found
      isLeft isRight => isLeft.trans isRight.symm, inEntries, Partition.firstSeen,
      List.filterMap_map, List.filterMap_map]
    rfl
  have texts : ∀ scope, Partition.textsIn scope
      (entries.map fun entry => ⟨entry.1.scope, entry.2⟩) = textsOf scope entries := by
    intro scope
    rw [Partition.textsIn, List.filter_map, List.map_map]
    rfl
  rw [Partition.of_fragments_eq, Partition.described, seen]
  simp only [texts]

theorem leaves_perm (extension : Extension) :
    (extension.scopes.flatMap fun scope => extension.leavesIn scope).Perm
      (extension.symbols.map Symbol.label) := by
  have grouped := grouped_perm Symbol.scope extension.symbols extension.scopes
    (Partition.nodup_erase_dups _) (by
      intro symbol among
      rw [scopes, ← symbol_scopes]
      exact List.mem_eraseDups.2 (List.mem_map_of_mem among))
  have labels := grouped.map Symbol.label
  rw [List.map_flatMap] at labels
  exact labels

/-- The outline and the stub group alike. The outline is a tree with a branch for every scope, under
a name of its own, in the order in which the scopes first appear among the constants, the functions
and the classes; every symbol is a leaf once, under its own scope. If no construct fails, symbols
and fragments go together one by one: the namespaces of the stub are the branches without the one of
the global scope, and each scope holds the texts of just the entries whose labels are its leaves. -/
theorem outline_groups (extension : Extension)
    (apart : ∀ name ∈ extension.names, (QualifiedName.ofText name).scope ≠ some globalScope) :
    extension.displays.head? = some (.tree extension.heading (extension.scopes.map fun scope =>
        (Markup.styled "bold" (scopeName scope), extension.leavesIn scope))) ∧
      (extension.scopes.map scopeName).Nodup ∧
      (∀ scope, scope ∈ extension.scopes ↔
        ∃ name ∈ extension.names, (QualifiedName.ofText name).scope = scope) ∧
      (extension.scopes.Pairwise fun earlier later =>
        (extension.names.map fun name => (QualifiedName.ofText name).scope).idxOf earlier <
          (extension.names.map fun name => (QualifiedName.ofText name).scope).idxOf later) ∧
      (extension.scopes.flatMap fun scope => extension.leavesIn scope).Perm
        (extension.symbols.map Symbol.label) ∧
      extension.symbols =
        (extension.constants.map fun constant => ⟨(QualifiedName.ofText constant.name).scope,
          Markup.styled "magenta" "const" ++ " " ++ (QualifiedName.ofText constant.name).short⟩) ++
        (extension.functions.map fun function => ⟨(QualifiedName.ofText function.name).scope,
          Markup.styled "green" "function" ++ " " ++ (QualifiedName.ofText function.name).short ++
            "()"⟩) ++
        (extension.classes.map fun declared => ⟨(QualifiedName.ofText declared.name).scope,
          Markup.styled "cyan" declared.kind.keyword ++ " " ++
            (QualifiedName.ofText declared.name).short⟩) ∧
      ∀ (renderer : Renderer) (earlier : List Diagnostic),
        (∀ construct ∈ Stub.constructs renderer extension,
          ∃ fragment, construct.2.outcome = .ok fragment) →
        ∃ entries : List (Symbol × Text), entries.map Prod.fst = extension.symbols ∧
          ((Stub.constructs renderer extension).map fun construct => construct.2.outcome) =
            (entries.map fun entry => .ok ⟨entry.1.scope, entry.2⟩) ∧
          (∀ scope, extension.leavesIn scope =
            (entries.filter fun entry => entry.1.scope = scope).map fun entry => entry.1.label) ∧
          (Stub.ofExtension renderer earlier extension).partition =
            ⟨(extension.scopes.filterMap id).map fun scope =>
              (scope, textsOf (some scope) entries), textsOf none entries⟩ := by
  have distinct : extension.scopes.Nodup := Partition.nodup_erase_dups _
  refine ⟨?_, ?_, ?_, Partition.erase_dups_ordered _, leaves_perm extension, ?_, ?_⟩
  · rw [displays, List.head?_cons, outline_scopes extension apart, List.map_map]
    rfl
  · apply List.Nodup.map_on _ distinct
    intro left isLeft right isRight same
    exact scope_name_injective extension apart isLeft isRight same
  · intro scope
    rw [scopes, List.mem_eraseDups, List.mem_map]
  · have nothing : ("" : Text) = [] := rfl
    simp only [symbols, Symbol.ofName, nothing, List.append_nil]
  · intro renderer earlier renders
    have sameScopes : extension.symbols.map Symbol.scope =
        (Stub.constructs renderer extension).map fun construct =>
          (QualifiedName.ofText construct.1).scope := by
      rw [symbol_scopes, ← constructs_named renderer, List.map_map]
      rfl
    obtain ⟨entries, inSymbols, inOutcomes⟩ :=
      Stub.exists_entries _ extension.symbols sameScopes (by
        intro construct among
        obtain ⟨fragment, rendered⟩ := renders construct among
        have scope := Stub.construct_scope renderer extension construct among fragment rendered
        exact ⟨fragment.text, by rw [rendered, ← scope]⟩)
    have fragments : (Stub.constructs renderer extension).filterMap Stub.fragment? =
        entries.map fun entry => ⟨entry.1.scope, entry.2⟩ := by
      have options := congrArg (List.filterMap Except.toOption) inOutcomes
      rw [List.filterMap_map, List.filterMap_map] at options
      rw [← List.filterMap_eq_map]
      exact options
    refine ⟨entries, inSymbols, inOutcomes, ?_, ?_⟩
    · intro scope
      rw [leavesIn, ← inSymbols, List.filter_map, List.map_map]
      rfl
    · rw [Stub.of_extension_partition, fragments, partition_of_entries extension entries inSymbols]

/-- Two namespaces around the global scope, one of which is seen again late and with the mark of the
root in front. -/
def interleaved : Extension where
  constants := [⟨"B\\X", .literal (.bool true)⟩, ⟨"Y", .literal .null⟩]
  functions := [{ name := "A\\f" }, { name := "\\B\\g" }]
  classes := [{ name := "\\h", kind := .trait }]

theorem outline_groups_interleaved :
    (∀ name ∈ interleaved.names, (QualifiedName.ofText name).scope ≠ some globalScope) ∧
      interleaved.displays.head? = some (.tree interleaved.heading [
        (Markup.styled "bold" "B", [Markup.styled "magenta" "const" ++ " X",
          Markup.styled "green" "function" ++ " g()"]),
        (Markup.styled "bold" "(global)", [Markup.styled "magenta" "const" ++ " Y",
          Markup.styled "cyan" "trait" ++ " h"]),
        (Markup.styled "bold" "A", [Markup.styled "green" "function" ++ " f()"])]) ∧
      (∀ construct ∈ Stub.constructs .plain interleaved,
        ∃ fragment, construct.2.outcome = .ok fragment) ∧
      (Stub.ofExtension .plain [] interleaved).partition.namespaces =
        [("B" : Text), "A"] := by
  have apart : ∀ name ∈ interleaved.names,
      (QualifiedName.ofText name).scope ≠ some globalScope := by decide
  have renders : ∀ construct ∈ Stub.constructs .plain interleaved,
      ∃ fragment, construct.2.outcome = .ok fragment := by
    simp only [Stub.constructs, interleaved, List.map_cons, List.map_nil, List.cons_append,
      List.nil_append, List.forall_mem_cons]
    exact ⟨⟨_, rfl⟩, ⟨_, rfl⟩, ⟨_, rfl⟩, ⟨_, rfl⟩, ⟨_, rfl⟩,
      List.forall_mem_nil _⟩
  obtain ⟨tree, _, _, _, _, _, agrees⟩ := outline_groups interleaved apart
  obtain ⟨entries, _, _, _, partition⟩ := agrees .plain [] renders
  refine ⟨apart, tree.trans ?_, renders, ?_⟩
  · decide
  · have named : (interleaved.scopes.filterMap id).map id = [("B" : Text), "A"] := by decide
    rw [partition, Partition.namespaces, List.map_map]
    exact named

end Extension

end Stubwright
