import Stubwright.Rendering.Fragment

/-!
The stub of an extension. Fragments are collected by namespace, in the order in which the
namespaces first appear; constructs that fail are left out and recorded.
-/

namespace Stubwright

/-- Fragments sorted by scope. Nothing is reordered within a scope, and nothing is dropped. -/
structure Partition where
  scopes : List (Text × List Text) := []
  globals : List Text := []
  deriving DecidableEq

namespace Partition

def addTo (scope text : Text) : List (Text × List Text) → List (Text × List Text)
  | [] => [(scope, [text])]
  | (present, texts) :: rest =>
      if present = scope then (present, texts ++ [text]) :: rest
      else (present, texts) :: addTo scope text rest

def add (partition : Partition) (fragment : Fragment) : Partition :=
  match fragment.scope with
  | none => { partition with globals := partition.globals ++ [fragment.text] }
  | some scope => { partition with scopes := addTo scope fragment.text partition.scopes }

def ofFragments (fragments : List Fragment) : Partition := fragments.foldl add {}

def size (partition : Partition) : Nat :=
  partition.globals.length + (partition.scopes.map fun scope => scope.2.length).sum

def namespaces (partition : Partition) : List Text := partition.scopes.map Prod.fst

def header (settings : Settings) : Text :=
  "<?php\n/**\n * " ++ settings.notice ++ "\n */\n\n"

def joined (texts : List Text) : Text := Text.joinWith "\n\n" texts

def block (heading : Text) (texts : List Text) : Text :=
  heading ++ " \x7b\n" ++ joined texts ++ "\n\x7d"

/-- Code of the global scope stands bare only where no namespace block stands beside it. -/
def globalBlock (partition : Partition) : List Text :=
  if partition.globals.isEmpty then []
  else if partition.scopes.isEmpty then [joined partition.globals]
  else [block "namespace" partition.globals]

def blocks (partition : Partition) : List Text :=
  (partition.scopes.map fun scope => block ("namespace " ++ scope.1) scope.2) ++
    partition.globalBlock

def render (settings : Settings) (partition : Partition) : Text :=
  if partition.blocks.isEmpty then header settings
  else header settings ++ joined partition.blocks ++ "\n"

end Partition

structure Stub extends Journal where
  extension : Extension
  renderer : Renderer
  partition : Partition := {}

namespace Stub

def text (stub : Stub) : Text := stub.partition.render stub.renderer

def hasErrors (stub : Stub) : Bool :=
  stub.diagnostics.any fun diagnostic => diagnostic.severity = .error

/-- Takes one construct in. Where it fails, what it has added to the diagnostics is cut off again,
and one error takes its place. -/
def absorb (construct : Text) (rendering : Rendering Fragment) (stub : Stub) : Stub :=
  let firstNew := stub.diagnostics.length
  match rendering.run stub.toJournal with
  | (.ok fragment, journal) =>
      { stub with toJournal := journal, partition := stub.partition.add fragment }
  | (.error cause, journal) =>
      { stub with
        diagnostics := journal.diagnostics.take firstNew ++ [⟨.error, construct, cause.message⟩]
        records := journal.records ++
          [⟨.assembly, .error, "Skipping " ++ construct ++ ": " ++ cause.message⟩] }

def constructs (renderer : Renderer) (extension : Extension) :
    List (Text × Rendering Fragment) :=
  (extension.constants.map fun constant => (constant.name, constant.render renderer)) ++
    (extension.functions.map fun function => (function.name, function.render renderer)) ++
    (extension.classes.map fun declared => (declared.name, declared.render renderer))

def summary (stub : Stub) : Record :=
  ⟨.assembly, .debug, "Rendered " ++ Text.ofNat stub.partition.size ++
    " fragments for extension '" ++ stub.extension.name ++ "'"⟩

def start (renderer : Renderer) (earlier : List Diagnostic) (extension : Extension) : Stub :=
  { diagnostics := earlier, extension, renderer }

def ofExtension (renderer : Renderer) (earlier : List Diagnostic) (extension : Extension) : Stub :=
  let stub := (constructs renderer extension).foldl
    (fun stub construct => stub.absorb construct.1 construct.2) (start renderer earlier extension)
  { stub with records := stub.records ++ [stub.summary] }

end Stub

end Stubwright
