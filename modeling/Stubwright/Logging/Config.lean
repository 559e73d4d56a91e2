import Stubwright.Value

/-!
Logging configurations. A mapping of a configuration can stand at several places, also in itself,
and what is set in it is set wherever it stands. So the mappings are kept apart, by number, and
stand in each other as links.
-/

namespace Stubwright

namespace Value

mutual

def linked : Value → Value
  | .knot label (.map _) => .link label true
  | .knot label body => .knot label (linked body)
  | .list items => .list (linkedAll items)
  | .tuple items => .tuple (linkedAll items)
  | value => value

def linkedAll : List Value → List Value
  | [] => []
  | item :: items => linked item :: linkedAll items

end

mutual

def namedMappings : Value → List (Nat × List (Value × Value))
  | .knot label (.map entries) =>
      (label, entries.map fun entry => (entry.1, entry.2.linked)) :: namedInEntries entries
  | .knot _ body => namedMappings body
  | .list items => namedInAll items
  | .tuple items => namedInAll items
  | .map entries => namedInEntries entries
  | _ => []

def namedInAll : List Value → List (Nat × List (Value × Value))
  | [] => []
  | item :: items => namedMappings item ++ namedInAll items

def namedInEntries : List (Value × Value) → List (Nat × List (Value × Value))
  | [] => []
  | (_, value) :: entries => namedMappings value ++ namedInEntries entries

end

end Value

namespace Logging

@[ext]
structure Config where
  mappings : Nat → Option (List (Value × Value))
  /-- The number of the outermost mapping. -/
  top : Nat
  /-- The numbers of all mappings lie below. -/
  bound : Nat

namespace Config

/-- The configuration whose outermost mapping has a name, as all mappings in it have. -/
def ofNamed (top : Nat) (entries : List (Value × Value)) : Config :=
  let found := (Value.knot top (.map entries)).namedMappings
  { mappings := (List.lookup · found), top, bound := (found.map Prod.fst).foldl max 0 + 1 }

def ofValue? : Value → Option Config
  | .knot top (.map entries) => some (ofNamed top entries)
  | _ => none

def fields? (config : Config) : Value → Option (List (Value × Value))
  | .link number _ => config.mappings number
  | _ => none

def fieldsOf (config : Config) (number : Nat) : List (Value × Value) :=
  (config.mappings number).getD []

def entries (config : Config) : List (Value × Value) := config.fieldsOf config.top

def put (number : Nat) (fields : List (Value × Value)) (config : Config) : Config :=
  { config with
    mappings := fun other => if other = number then some fields else config.mappings other }

/-- A value with the mappings in their places again, except inside themselves. -/
def spelled (config : Config) : Nat → List Nat → Value → Value
  | 0, _, value => value
  | fuel + 1, around, value =>
      value.relinked fun number isMapping =>
        match config.mappings number with
        | none => .link number isMapping
        | some fields =>
            if number ∈ around then .link number isMapping
            else .map (fields.map fun entry =>
              (entry.1, spelled config fuel (number :: around) entry.2))

/-- Every step down leads into another mapping, so there are not more steps than numbers. -/
def spell (config : Config) (value : Value) : Value := config.spelled (config.bound + 1) [] value

end Config

end Logging

end Stubwright
