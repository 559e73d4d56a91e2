import Stubwright.Proofs.Logging.Override
import Stubwright.Proofs.Outcome

/-!
Which shapes of a configuration keep a level from being set in it. The mappings that are gone
through may change on the way, since a mapping can stand in itself.
-/

namespace Stubwright.Logging

def Fails {ε α : Type} (outcome : Except ε α) : Prop := ∃ error, outcome = .error error

theorem fails {ε α : Type} (error : ε) : Fails (.error error : Except ε α) := ⟨error, rfl⟩

namespace Config

/-- Whether an entry of a mapping can be given the level. Where the entry is the mapping itself, the
level must be one of the fields gone through so far: a new field would make the mapping grow, and
one that is still to come would be no mapping any more. -/
def Suits (config : Config) (number : Nat) (before : List (Value × Value)) (entry : Value × Value) :
    Prop :=
  (config.fields? entry.2).isSome ∧
    (number? entry.2 = some number → (Value.lookup? "level" (before ++ [entry])).isSome)

def IsEmpty : Value → Prop
  | .list items => items = []
  | .tuple items => items = []
  | .set items => items = []
  | .str text => text = []
  | .bytes octets => octets = []
  | _ => False

/-- Whether loggers can be gone through: mappings by name, or nothing of whatever kind. -/
def HoldsLoggers (config : Config) (loggers : Value) : Prop :=
  (∃ number fields, number? loggers = some number ∧ config.mappings number = some fields ∧
    ∀ before entry after, fields = before ++ entry :: after → config.Suits number before entry) ∨
  IsEmpty loggers.unfolded

/-- Whether a value is a handler with a level that cannot be weighed. -/
def IsUnweighable (config : Config) (handler : Value) : Prop :=
  ∃ fields held, config.fields? handler = some fields ∧
    Value.lookup? "level" fields = some held ∧ ∀ name, held = .str name → name ∈ reservedNames

/-- Whether handlers can be gone through and have levels that can be weighed. -/
def HoldsHandlers (config : Config) (value : Value) : Prop :=
  ∃ handlers, config.fields? value = some handlers ∧
    ∀ handler ∈ handlers, ¬config.IsUnweighable handler.2

def levelLoggers (level : Text) (config : Config) : Except ShapeError Config := do
  let config ← config.changeUnder "loggers" (setLoggers level)
  config.changeUnder "root" (setLevel level)

/-- How a configuration can be too misshapen for a level to be set in it. Handlers are looked at
once the loggers and the root have the level, which a handler may have got with them. -/
inductive IsMisshapen (level : Text) (config : Config) : Prop where
  | loggers {value : Value} (found : Value.lookup? "loggers" config.entries = some value)
      (unheld : ¬config.HoldsLoggers value)
  | root {value : Value} (found : Value.lookup? "root" config.entries = some value)
      (noMapping : config.fields? value = none)
  | handlers {leveled : Config} {value : Value} (given : config.levelLoggers level = .ok leveled)
      (found : Value.lookup? "handlers" leveled.entries = some value)
      (unheld : ¬leveled.HoldsHandlers value)

/-- A later configuration in which some mappings that suit have got the level. -/
structure Levels (level : Text) (suits : List (Value × Value) → Prop) (config later : Config) :
    Prop where
  top : later.top = config.top
  mappings : ∀ number, later.mappings number = config.mappings number ∨
    ∃ fields, config.mappings number = some fields ∧ suits fields ∧
      later.mappings number = some (putLevel level fields)

section

variable {level name : Text} {weight number left position index : Nat} {config later : Config}
  {value logger handler : Value} {items : List Value} {entry : Value × Value}
  {fields entries before after : List (Value × Value)} {suits : List (Value × Value) → Prop}
  {change : Value → Config → Except ShapeError Config}

namespace Levels

theorem refl : Levels level suits config config := ⟨rfl, fun _ => .inl rfl⟩

theorem put (held : config.mappings number = some fields) (suited : suits fields) :
    Levels level suits config (config.put number (putLevel level fields)) := by
  refine ⟨rfl, fun other => ?_⟩
  by_cases here : other = number
  · exact .inr ⟨fields, here ▸ held, suited, if_pos here⟩
  · exact .inl (if_neg here)

theorem trans {last : Config} (first : Levels level (fun _ => True) config later)
    (second : Levels level (fun _ => True) later last) :
    Levels level (fun _ => True) config last := by
  refine ⟨second.top.trans first.top, fun number => ?_⟩
  rcases second.mappings number with same | ⟨middle, held, _, put⟩
  · rw [same]
    exact first.mappings number
  · refine .inr ?_
    rcases first.mappings number with same | ⟨fields, there, _, was⟩
    · exact ⟨middle, same ▸ held, trivial, put⟩
    · rw [was] at held
      cases held
      exact ⟨fields, there, trivial, put.trans (congrArg some put_level_put_level)⟩

end Levels

end

end Config

end Stubwright.Logging
