import Stubwright.Proofs.Script.File
import Stubwright.Proofs.Stub.Scopes
import Stubwright.Proofs.Stub.Writable

/-!
A stub is a file of the grammar, and reading it gives back what the extension declares: the symbols
of all constructs that can be written, in their order, each in the namespace of its own name.
-/

namespace Stubwright

open Script

abbrev Placed := Option Text × Script.Symbol

namespace Script.Outline

def symbolsIn (scope : Option Text) (symbols : List Placed) : List Symbol :=
  (symbols.filter fun placed => placed.1 = scope).map Prod.snd

/-- Namespaces stand in the order in which they are first seen, and symbols keep their order. -/
def ofPlaced (symbols : List Placed) : Outline :=
  ofSymbols ((symbols.filterMap Prod.fst).eraseDups.map fun scope =>
    (scope, symbolsIn (some scope) symbols)) (symbolsIn none symbols)

end Script.Outline

namespace Extension

def place (name : Text) (symbol : Script.Symbol) : Placed :=
  ((QualifiedName.ofText name).scope, symbol)

/-- The symbols of an extension: those of constructs that hold a value without any text for it are
left out. -/
def placed (renderer : Renderer) (extension : Extension) : List Placed :=
  let constants := extension.constants.filter (Constant.isWritable (renderer.room .constant))
  let functions := extension.functions.filter (Function.isWritable (renderer.room .default))
  let classes := extension.classes.filter (ClassLike.isWritable renderer)
  (constants.map fun constant => place constant.name constant.symbol) ++
    (functions.map fun function => place function.name function.symbol) ++
    (classes.map fun declared => place declared.name declared.symbol)

structure IsWellFormed (extension : Extension) : Prop where
  constants : ∀ constant ∈ extension.constants, IsGlobalName constant.name
  functions : ∀ function ∈ extension.functions, function.IsWellFormed IsGlobalName
  classes : ∀ declared ∈ extension.classes, declared.IsWellFormed

instance (extension : Extension) : Decidable extension.IsWellFormed :=
  decidable_of_iff
    ((∀ constant ∈ extension.constants, IsGlobalName constant.name) ∧
      (∀ function ∈ extension.functions, function.IsWellFormed IsGlobalName) ∧
      ∀ declared ∈ extension.classes, declared.IsWellFormed)
    ⟨fun ⟨constants, functions, classes⟩ => ⟨constants, functions, classes⟩,
      fun ⟨constants, functions, classes⟩ => ⟨constants, functions, classes⟩⟩

end Extension

/-- Fragments with the symbols that they declare, in the same order. -/
def Declared (fragments : List Fragment) (symbols : List Placed) : Prop :=
  ∃ items : List (Fragment × Script.Symbol),
    fragments = items.map Prod.fst ∧
      symbols = items.map (fun item => (item.1.scope, item.2)) ∧
      ∀ item ∈ items, (∀ scope, item.1.scope = some scope → IsQualified scope) ∧
        Script.Declares item.1.text item.2

namespace Declared

theorem append {first second : List Fragment} {symbols others : List Placed}
    (firstDeclared : Declared first symbols) (secondDeclared : Declared second others) :
    Declared (first ++ second) (symbols ++ others) := by
  obtain ⟨items, rfl, rfl, each⟩ := firstDeclared
  obtain ⟨more, rfl, rfl, eachMore⟩ := secondDeclared
  refine ⟨items ++ more, by rw [List.map_append], by rw [List.map_append], ?_⟩
  intro item among
  rcases List.mem_append.1 among with here | there
  · exact each item here
  · exact eachMore item there

/-- Constructs of one kind that can be written leave their fragments, and the others leave none. -/
theorem of_constructs {α : Type} (name : α → Text) (render : α → Rendering Fragment)
    (writable : α → Bool) (symbol : α → Script.Symbol) (items : List α)
    (globals : ∀ item ∈ items, IsGlobalName (name item))
    (fails : ∀ item ∈ items, (render item).fails = !writable item)
    (scopes : ∀ item ∈ items, ∀ fragment, (render item).outcome = .ok fragment →
      fragment.scope = (QualifiedName.ofText (name item)).scope)
    (reads : ∀ item ∈ items, ∀ fragment, (render item).outcome = .ok fragment →
      Script.Declares fragment.text (symbol item)) :
    Declared ((items.map fun item => (name item, render item)).filterMap Stub.fragment?)
      ((items.filter writable).map fun item => Extension.place (name item) (symbol item)) := by
  induction items with
  | nil => exact ⟨[], rfl, rfl, by simp⟩
  | cons item items ih =>
      have later := ih (fun other member => globals other (by simp [member]))
        (fun other member => fails other (by simp [member]))
        (fun other member => scopes other (by simp [member]))
        (fun other member => reads other (by simp [member]))
      have here := fails item (by simp)
      rw [List.map_cons, List.filterMap_cons, Stub.fragment?]
      rw [Rendering.fails] at here
      -- What comes of it decides both whether it can be written and whether there is a fragment.
      cases rendered : (render item).outcome with
      | error cause =>
          rw [rendered] at here
          have unwritable : writable item = false := by simpa using here
          rw [List.filter_cons_of_neg (by simp [unwritable])]
          exact later
      | ok fragment =>
          rw [rendered] at here
          have written : writable item = true := by simpa using here
          have scope := scopes item (by simp) fragment rendered
          have single : Declared [fragment] [Extension.place (name item) (symbol item)] := by
            refine ⟨[(fragment, symbol item)], rfl, ?_, ?_⟩
            · rw [List.map_singleton, scope, Extension.place]
            · intro other among
              rw [List.mem_singleton.1 among, scope]
              exact ⟨(QualifiedName.of_text_names (globals item (by simp))).2,
                reads item (by simp) fragment rendered⟩
          rw [List.filter_cons_of_pos written, List.map_cons]
          exact single.append later

def pieces (scope : Option Text) (items : List (Fragment × Script.Symbol)) :
    List (Text × Script.Symbol) :=
  (items.filter fun item => item.1.scope = scope).map fun item => (item.1.text, item.2)

theorem texts_of_pieces (scope : Option Text) (items : List (Fragment × Script.Symbol)) :
    Partition.textsIn scope (items.map Prod.fst) = (pieces scope items).map Prod.fst := by
  rw [Partition.textsIn, List.filter_map, List.map_map, pieces, List.map_map]
  rfl

theorem symbols_of_pieces (scope : Option Text) (items : List (Fragment × Script.Symbol)) :
    Outline.symbolsIn scope (items.map fun item => (item.1.scope, item.2)) =
      (pieces scope items).map Prod.snd := by
  rw [Outline.symbolsIn, List.filter_map, List.map_map, pieces, List.map_map]
  rfl

/-- Sorting fragments by scope sorts their symbols by scope. -/
theorem read_render {fragments : List Fragment} {symbols : List Placed}
    (declared : Declared fragments symbols) (settings : Settings)
    (printable : settings.IsWellFormed) :
    Script.read ((Partition.ofFragments fragments).render settings) =
      some (Outline.ofPlaced symbols) := by
  obtain ⟨items, rfl, rfl, each⟩ := declared
  have reads : ∀ scope, ∀ piece ∈ pieces scope items, Script.Declares piece.1 piece.2 := by
    intro scope piece member
    obtain ⟨item, among, rfl⟩ := List.mem_map.1 member
    exact (each item (List.mem_of_mem_filter among)).2
  have scopes : Partition.firstSeen (items.map Prod.fst) =
      ((items.map fun item => (item.1.scope, item.2)).filterMap Prod.fst).eraseDups := by
    rw [Partition.firstSeen, List.filterMap_map, List.filterMap_map]
    rfl
  have qualified : ∀ scope ∈ Partition.firstSeen (items.map Prod.fst), IsQualified scope := by
    intro scope member
    obtain ⟨fragment, among, here⟩ := List.mem_filterMap.1 (List.mem_eraseDups.1 member)
    obtain ⟨item, inItems, rfl⟩ := List.mem_map.1 among
    exact (each item inItems).1 scope here
  have read := file_reads settings printable.notice
    ((Partition.firstSeen (items.map Prod.fst)).map fun scope => (scope, pieces (some scope) items))
    (pieces none items)
    (by
      intro block member
      obtain ⟨scope, seen, rfl⟩ := List.mem_map.1 member
      exact qualified scope seen)
    (by
      intro block member
      obtain ⟨scope, _, rfl⟩ := List.mem_map.1 member
      exact reads (some scope))
    (reads none)
  rw [List.map_map, List.map_map] at read
  rw [Partition.of_fragments_eq, Partition.described, Outline.ofPlaced, ← scopes]
  simp only [texts_of_pieces, symbols_of_pieces]
  exact read

end Declared

theorem Extension.fragments_declared (renderer : Renderer) (printable : renderer.IsWellFormed)
    (extension : Extension) (wellFormed : extension.IsWellFormed) :
    Declared ((Stub.constructs renderer extension).filterMap Stub.fragment?)
      (extension.placed renderer) := by
  have constants := Declared.of_constructs Constant.name (Constant.render renderer)
    (Constant.isWritable _) Constant.symbol extension.constants wellFormed.constants
    (fun constant _ => constant.render_fails renderer)
    (fun constant _ => constant.render_scope renderer)
    (fun constant member => constant.declaration_reads renderer printable.placeholder
      (wellFormed.constants constant member))
  have functions := Declared.of_constructs Function.name (Function.render renderer)
    (Function.isWritable _) Function.symbol extension.functions
    (fun function member => (wellFormed.functions function member).name)
    (fun function member => by
      rw [function.render_fails, (wellFormed.functions function member).no_foreign, Bool.false_or])
    (fun function _ => function.render_scope renderer)
    (fun function member => function.declaration_reads renderer printable.placeholder
      (wellFormed.functions function member))
  have classes := Declared.of_constructs ClassLike.name (ClassLike.render renderer)
    (ClassLike.isWritable renderer) ClassLike.symbol extension.classes
    (fun declared member => (wellFormed.classes declared member).name)
    (fun declared member => by
      rw [declared.render_fails, (wellFormed.classes declared member).no_foreign, Bool.false_or])
    (fun declared _ => declared.render_scope renderer)
    (fun declared member => declared.declaration_reads renderer printable
      (wellFormed.classes declared member))
  have all := (constants.append functions).append classes
  rw [← List.filterMap_append, ← List.filterMap_append] at all
  exact all

/-- A stub belongs to the grammar whatever the values in it are, and reading it gives the symbols
of the extension back, each in its namespace. -/
theorem Stub.read_of_extension (renderer : Renderer) (printable : renderer.IsWellFormed)
    (extension : Extension) (wellFormed : extension.IsWellFormed) (earlier : List Diagnostic) :
    Script.read (Stub.ofExtension renderer earlier extension).text =
      some (Outline.ofPlaced (extension.placed renderer)) := by
  have declared := extension.fragments_declared renderer printable wellFormed
  rw [Stub.of_extension_text, declared.read_render renderer printable]

/-- An extension with marks of the script within its values and its comments, a constant whose value
is no literal, and a method that is inherited. -/
def mixedExtension : Extension where
  constants := [
    ⟨"\\App\\TRICKY", .literal (.str "'\x7d*/ // \\")⟩,
    ⟨"App\\LOST", .literal .alien⟩]
  functions := [{
    name := "helper"
    docComment := some "/** \x7d it's */"
    parameters := [
      { name := "first", type := some (.single (.named "App\\Shown" true)), byReference := true },
      { name := "second", optional := true, default := some (.unresolved none) },
      { name := "others", variadic := true }]
    returnType := some (.union [.single (.builtin "int" false),
      .intersection [.named "App\\Shown" false, .named "Countable" false]]) }]
  classes := [{
    name := "App\\Base"
    isFinal := true
    parent := some "Old"
    interfaces := ["\\App\\Shown", "Countable"]
    traits := ["Helping"]
    constants := [⟨"LIMITS", .literal (.map [(.str "it's", .list [.null, .alien])])⟩]
    properties := [
      { name := "count", isStatic := true, type := some (.single (.builtin "static" false)) }]
    methods := [
      { name := "run", docComment := some "/**\n */", isAbstract := true,
        parameters := [{ name := "times" }] },
      { name := "rest", declaringClass := some "Old" }] }, {
    name := "App\\Shown"
    kind := .interface }]

theorem Stub.read_of_extension_mixed :
    Renderer.plain.IsWellFormed ∧ mixedExtension.IsWellFormed ∧
      Script.read (Stub.ofExtension Renderer.plain [] mixedExtension).text =
        some (.blocks [("App", [
            .constant "TRICKY",
            .classLike .ordinary "Base" ["Old"] ["App\\Shown", "Countable"]
              [.trait "Helping", .constant "LIMITS", .property "count", .method "run" ["times"]],
            .classLike .interface "Shown" [] [] []])]
          (some [.function "helper" ["first", "second", "others"]])) := by
  have printable : Renderer.plain.IsWellFormed := by
    have placeholder : Literal.ofValue (.ofFrames 1) (.str "<?>") = .ok "'<?>'" := rfl
    exact ⟨by decide, by decide, is_literal_of_value placeholder⟩
  have wellFormed : mixedExtension.IsWellFormed := by decide +kernel
  refine ⟨printable, wellFormed, ?_⟩
  rw [Stub.read_of_extension Renderer.plain printable mixedExtension wellFormed []]
  decide +kernel

end Stubwright
