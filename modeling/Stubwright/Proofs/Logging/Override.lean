import Stubwright.Logging.Shown
import Stubwright.Proofs.Value.Mapping

/-!
What setting one level does to a whole configuration, mapping by mapping: loggers and the root take
the level, a handler takes the less severe of its own and the new one, and all else stays. A mapping
that stands at several places is changed at all of them at once, so this holds where such a mapping
has one role only.
-/

namespace Stubwright.Logging

open Value (found?)

/-- The less severe of a handler's own level and another one; its own where both are the same. -/
def softer (level : Text) (weight : Nat) (own : Text) : Text :=
  if weight < (weight? own).getD defaultWeight then level else own

def softened (level : Text) (weight : Nat) (fields : List (Value × Value)) :
    List (Value × Value) :=
  match Value.lookup? "level" fields with
  | some (.str own) => putLevel (softer level weight own) fields
  | _ => fields

inductive Role where
  | logger
  | handler
  | other
  deriving DecidableEq

def Role.change (level : Text) (weight : Nat) : Role → List (Value × Value) → List (Value × Value)
  | .logger => putLevel level
  | .handler => softened level weight
  | .other => id

/-- The role of what stands at a place, which is given by the keys on the way there. -/
def role : List Value → Role
  | [.str name] => if name = Text.ofString "root" then .logger else .other
  | [.str name, _] =>
      if name = Text.ofString "loggers" then .logger
      else if name = Text.ofString "handlers" then .handler
      else .other
  | _ => .other

def number? : Value → Option Nat
  | .link number _ => some number
  | _ => none

def linkNumbers (entries : List (Value × Value)) : List Nat :=
  entries.filterMap fun entry => number? entry.2

/-- A level, if there is one, is known by name. -/
def IsWeighed (fields : List (Value × Value)) : Prop :=
  ∀ held, Value.lookup? "level" fields = some held →
    ∃ own weight, held = .str own ∧ weight? own = some weight

/-- Where a mapping stands in a value, by the positions in the lists around it. -/
inductive Holds : Value → List Value → Nat → Prop where
  | here {number : Nat} {isMapping : Bool} : Holds (.link number isMapping) [] number
  | list {items : List Value} {item : Value} {position number : Nat} {rest : List Value}
      (found : items[position]? = some item) (inner : Holds item rest number) :
      Holds (.list items) (.int position :: rest) number
  | tuple {items : List Value} {item : Value} {position number : Nat} {rest : List Value}
      (found : items[position]? = some item) (inner : Holds item rest number) :
      Holds (.tuple items) (.int position :: rest) number
  | knot {label number : Nat} {body : Value} {rest : List Value} (inner : Holds body rest number) :
      Holds (.knot label body) rest number

namespace Config

def numbersIn (config : Config) (key : Text) : List Nat :=
  linkNumbers (fieldsAt config key config.entries)

def rootNumbers (config : Config) : List Nat :=
  ((Value.lookup? "root" config.entries).bind number?).toList

def loggers (config : Config) : List Nat := config.numbersIn "loggers" ++ config.rootNumbers

def handlers (config : Config) : List Nat := config.numbersIn "handlers"

def roleOf (config : Config) (number : Nat) : Role :=
  if number ∈ config.loggers then .logger
  else if number ∈ config.handlers then .handler
  else .other

/-- A configuration with a level set in it: every mapping is changed as its role asks. -/
def adjusted (level : Text) (weight : Nat) (config : Config) : Config :=
  { config with
    mappings := fun number =>
      (config.mappings number).map ((config.roleOf number).change level weight) }

/-- Where the mappings of a configuration stand. One that stands in itself has no end of places. -/
inductive Stands (config : Config) : List Value → Nat → Prop where
  | top : Stands config [] config.top
  | under {place rest : List Value} {number inner : Nat} {key : Value} {entry : Value × Value}
      (around : Stands config place number)
      (found : found? key (config.fieldsOf number) = some entry)
      (held : Holds entry.2 rest inner) : Stands config (place ++ key :: rest) inner

/-- A mapping has one role at all its places, and is not both a logger and a handler. -/
structure SharesByRole (config : Config) : Prop where
  places : ∀ place number, config.Stands place number → config.roleOf number = role place
  apart : ∀ number ∈ config.loggers, number ∉ config.handlers

def HoldsMappings (config : Config) (holds : List (Value × Value) → Prop) (value : Value) : Prop :=
  ∃ entries, config.fields? value = some entries ∧
    ∀ entry ∈ entries, ∃ fields, config.fields? entry.2 = some fields ∧ holds fields

/-- Loggers and handlers are mappings of mappings, the root is one, and the levels of handlers are
known by name. -/
structure IsRegular (config : Config) : Prop where
  loggers : ∀ value, Value.lookup? "loggers" config.entries = some value →
    config.HoldsMappings (fun _ => True) value
  root : ∀ value, Value.lookup? "root" config.entries = some value →
    ∃ fields, config.fields? value = some fields
  handlers : ∀ value, Value.lookup? "handlers" config.entries = some value →
    config.HoldsMappings IsWeighed value

/-- The mappings on the way to loggers and handlers are neither. -/
structure IsApart (config : Config) : Prop where
  top : config.roleOf config.top = .other
  under : ∀ name value number, name ≠ Text.ofString "root" →
    Value.lookup? name config.entries = some value → number? value = some number →
      config.roleOf number = .other
  apart : ∀ number ∈ config.loggers, number ∉ config.handlers

def amended (numbers : List Nat) (change : List (Value × Value) → List (Value × Value))
    (config : Config) : Config :=
  { config with
    mappings := fun number =>
      if number ∈ numbers then (config.mappings number).map change else config.mappings number }

end Config

section

variable {level own : Text} {weight ownWeight : Nat} {fields : List (Value × Value)} {role : Role}

/-- The name of a level stands for nothing else. -/
theorem level_name_unreserved : ∀ name ∈ weights.map Prod.fst,
    name ∉ reservedNames ∧ name ∉ switchNames ∧ name ≠ momentName := by
  decide +kernel

theorem held_weight_known (known : weight? own = some weight) : heldWeight own = .ok weight := by
  have named : own ∈ weights.map Prod.fst := by
    obtain ⟨before, after, split, _⟩ := List.lookup_eq_some_iff.1 known
    rw [split]
    simp
  obtain ⟨unreserved, noSwitch, noMoment⟩ := level_name_unreserved own named
  rw [heldWeight, if_neg unreserved, if_neg noSwitch, if_neg noMoment, known]
  rfl

/-- The softer level is the less severe of the two. -/
theorem weight_softer (known : weight? level = some weight)
    (ownKnown : weight? own = some ownWeight) :
    weight? (softer level weight own) = some (min ownWeight weight) := by
  rw [softer, ownKnown, Option.getD_some]
  split
  next lower => rw [known, Nat.min_eq_right (Nat.le_of_lt lower)]
  next notLower => rw [ownKnown, Nat.min_eq_left (Nat.le_of_not_lt notLower)]

theorem softer_softer (known : weight? level = some weight) :
    softer level weight (softer level weight own) = softer level weight own := by
  by_cases lower : weight < (weight? own).getD defaultWeight
  · have soft : softer level weight own = level := if_pos lower
    rw [soft, softer, known, Option.getD_some, if_neg (Nat.lt_irrefl weight)]
  · have kept : softer level weight own = own := if_neg lower
    rw [kept, kept]

theorem lookup_put_level : Value.lookup? "level" (putLevel level fields) = some (.str level) := by
  rw [Value.lookup_eq_found, putLevel, Value.found_put_entry]
  rfl

theorem put_level_put_level : putLevel level (putLevel own fields) = putLevel level fields :=
  Value.put_entry_again

theorem put_level_weighed (known : weight? level = some weight) :
    IsWeighed (putLevel level fields) := by
  intro held found
  rw [lookup_put_level] at found
  exact ⟨level, weight, (Option.some.inj found).symm, known⟩

theorem softened_softened (known : weight? level = some weight) :
    softened level weight (softened level weight fields) = softened level weight fields := by
  cases held : Value.lookup? "level" fields with
  | none => simp only [softened, held]
  | some kept =>
      cases kept with
      | str own =>
          simp only [softened, held, lookup_put_level, softer_softer known]
          exact put_level_put_level
      | _ => simp only [softened, held]

theorem softened_weighed (known : weight? level = some weight) (weighed : IsWeighed fields) :
    IsWeighed (softened level weight fields) := by
  cases held : Value.lookup? "level" fields with
  | none =>
      simp only [softened, held]
      exact weighed
  | some kept =>
      obtain ⟨own, ownWeight, rfl, ownKnown⟩ := weighed kept held
      simp only [softened, held]
      exact put_level_weighed (weight_softer known ownKnown)

theorem change_change (known : weight? level = some weight) :
    role.change level weight (role.change level weight fields) =
      role.change level weight fields := by
  cases role with
  | logger => exact put_level_put_level
  | handler => exact softened_softened known
  | other => rfl

theorem change_weighed (known : weight? level = some weight) (weighed : IsWeighed fields) :
    IsWeighed (role.change level weight fields) := by
  cases role with
  | logger => exact put_level_weighed known
  | handler => exact softened_weighed known weighed
  | other => exact weighed

end

namespace Config

section

variable {level name : Text} {weight number : Nat} {config later : Config} {value : Value}
  {change : List (Value × Value) → List (Value × Value)} {numbers : List Nat}
  {step : Value → Config → Except ShapeError Config} {holds : List (Value × Value) → Prop}
  {fields before after : List (Value × Value)}

theorem fields_eq_some_iff : config.fields? value = some fields ↔
    ∃ number, number? value = some number ∧ config.mappings number = some fields := by
  cases value with
  | link number isMapping =>
      constructor
      · exact fun found => ⟨number, rfl, found⟩
      · rintro ⟨_, same, found⟩
        cases same
        exact found
  | _ =>
      refine iff_of_false ?_ ?_
      · rintro ⟨⟩
      · rintro ⟨_, ⟨⟩, _⟩

theorem amended_nil : config.amended [] change = config := by
  ext1
  · funext number
    simp [amended]
  · rfl
  · rfl

theorem amended_here (member : number ∈ numbers) :
    (config.amended numbers change).mappings number = (config.mappings number).map change :=
  if_pos member

theorem amended_elsewhere (outside : number ∉ numbers) :
    (config.amended numbers change).mappings number = config.mappings number :=
  if_neg outside

/-- A change that can be made again without effect is made once by amending twice. -/
theorem amended_append {later : List Nat}
    (again : ∀ fields, change (change fields) = change fields) :
    (config.amended numbers change).amended later change =
      config.amended (numbers ++ later) change := by
  ext1
  · funext number
    simp only [amended, List.mem_append]
    by_cases first : number ∈ numbers <;> by_cases second : number ∈ later
    · simp [first, second, Option.map_map, Function.comp_def, again]
    all_goals simp [first, second]
  · rfl
  · rfl

theorem amended_same (held : config.mappings number = some fields) (same : change fields = fields) :
    config.amended [number] change = config := by
  ext1
  · funext other
    by_cases here : other = number
    · rw [here, amended_here (List.mem_singleton_self number), held, Option.map_some, same]
    · exact amended_elsewhere (mt List.mem_singleton.1 here)
  · rfl
  · rfl

theorem put_eq_amended (held : config.mappings number = some fields) :
    config.put number (change fields) = config.amended [number] change := by
  ext1
  · funext other
    by_cases here : other = number
    · rw [here, amended_here (List.mem_singleton_self number), held]
      exact if_pos rfl
    · rw [amended_elsewhere (mt List.mem_singleton.1 here)]
      exact if_neg here
  · rfl
  · rfl

theorem set_level_eq (linked : number? value = some number)
    (held : config.mappings number = some fields) :
    setLevel level value config = .ok (config.amended [number] (putLevel level)) := by
  cases value with
  | link other isMapping =>
      cases linked
      rw [← put_eq_amended held]
      simp only [setLevel, held]
  | _ => cases linked

theorem lower_handler_eq (linked : number? value = some number)
    (held : config.mappings number = some fields) (weighed : IsWeighed fields) :
    lowerHandler level weight value config =
      .ok (config.amended [number] (softened level weight)) := by
  cases value with
  | link other isMapping =>
      cases linked
      have own : config.fieldsOf number = fields := by rw [fieldsOf, held, Option.getD_some]
      cases found : Value.lookup? "level" fields with
      | none =>
          rw [amended_same held (by simp only [softened, found])]
          simp only [lowerHandler, own, found]
      | some kept =>
          obtain ⟨name, ownWeight, rfl, known⟩ := weighed kept found
          have soft : softened level weight fields =
              putLevel (softer level weight name) fields := by
            simp only [softened, found]
          simp only [lowerHandler, own, found, held_weight_known known]
          by_cases lower : weight < ownWeight
          · have taken : softer level weight name = level := by
              rw [softer, known]
              exact if_pos lower
            rw [← put_eq_amended held, soft, taken]
            exact if_pos lower
          · have kept : softer level weight name = name := by
              rw [softer, known]
              exact if_neg lower
            rw [kept, putLevel, Value.put_entry_present found] at soft
            rw [amended_same held soft]
            exact if_neg lower
  | _ => cases linked

/-- The entries of a mapping are changed one after the other, if none of them is that mapping. -/
theorem change_each_eq (again : ∀ fields, change (change fields) = change fields)
    (keeps : ∀ fields, holds fields → holds (change fields))
    (steps : ∀ config value number fields, number? value = some number →
      config.mappings number = some fields → holds fields →
        step value config = .ok (config.amended [number] change))
    (here : config.fieldsOf number = before ++ after)
    (suits : ∀ entry ∈ after, ∃ inner fields, number? entry.2 = some inner ∧ inner ≠ number ∧
      config.mappings inner = some fields ∧ holds fields) :
    changeEach step number after.length before.length config =
      .ok (config.amended (linkNumbers after) change) := by
  induction after generalizing config before with
  | nil => exact congrArg Except.ok amended_nil.symm
  | cons entry after ih =>
      obtain ⟨inner, fields, linked, differs, held, holding⟩ := suits entry (List.mem_cons_self ..)
      have reached : (config.fieldsOf number)[before.length]? = some entry := by
        rw [here, List.getElem?_append_right (Nat.le_refl _), Nat.sub_self]
        rfl
      have still : (config.amended [inner] change).fieldsOf number = config.fieldsOf number := by
        rw [fieldsOf, amended_elsewhere fun member => differs (List.mem_singleton.1 member).symm]
        rfl
      have onward : changeEach step number after.length (before ++ [entry]).length
            (config.amended [inner] change) =
          .ok ((config.amended [inner] change).amended (linkNumbers after) change) := by
        refine ih ?_ fun other member => ?_
        · rw [still, here, List.append_assoc]
          rfl
        · obtain ⟨next, fields, linked, apart, held, holding⟩ :=
            suits other (List.mem_cons_of_mem _ member)
          by_cases same : next = inner
          · refine ⟨next, change fields, linked, apart, ?_, keeps fields holding⟩
            rw [amended_here (List.mem_singleton.2 same), held, Option.map_some]
          · refine ⟨next, fields, linked, apart, ?_, holding⟩
            rw [amended_elsewhere (mt List.mem_singleton.1 same), held]
      rw [amended_append again, List.length_append, List.length_singleton] at onward
      have split : linkNumbers (entry :: after) = [inner] ++ linkNumbers after :=
        List.filterMap_cons_some linked
      rw [split, ← onward]
      simp only [List.length_cons, changeEach, reached,
        steps config entry.2 inner fields linked held holding]
      exact if_neg fun grown => grown (congrArg List.length still)

theorem change_all_eq (again : ∀ fields, change (change fields) = change fields)
    (keeps : ∀ fields, holds fields → holds (change fields))
    (steps : ∀ config value number fields, number? value = some number →
      config.mappings number = some fields → holds fields →
        step value config = .ok (config.amended [number] change))
    (held : config.mappings number = some fields) (outside : number ∉ linkNumbers fields)
    (suits : ∀ entry ∈ fields, ∃ inner, config.fields? entry.2 = some inner ∧ holds inner) :
    changeAll step number config = .ok (config.amended (linkNumbers fields) change) := by
  have own : config.fieldsOf number = fields := by rw [fieldsOf, held, Option.getD_some]
  rw [changeAll, own]
  have whole : config.fieldsOf number = [] ++ fields := own
  refine change_each_eq again keeps steps whole fun entry member => ?_
  obtain ⟨inner, found, holding⟩ := suits entry member
  obtain ⟨other, linked, there⟩ := fields_eq_some_iff.1 found
  refine ⟨other, inner, linked, fun same => outside ?_, there, holding⟩
  exact List.mem_filterMap.2 ⟨entry, member, same ▸ linked⟩

theorem numbers_in_eq (found : Value.lookup? name config.entries = some value)
    (held : config.fields? value = some fields) : config.numbersIn name = linkNumbers fields := by
  rw [numbersIn, fieldsAt, found, Option.bind_some, held, Option.getD_some]

/-- All mappings in the mapping under a key are changed, if that mapping is not one of them. -/
theorem change_under_eq {whole : Value → Config → Except ShapeError Config}
    (again : ∀ fields, change (change fields) = change fields)
    (keeps : ∀ fields, holds fields → holds (change fields))
    (steps : ∀ config value number fields, number? value = some number →
      config.mappings number = some fields → holds fields →
        step value config = .ok (config.amended [number] change))
    (goes : ∀ value number fields, number? value = some number →
      config.mappings number = some fields → whole value config = changeAll step number config)
    (regular : ∀ value, Value.lookup? name config.entries = some value →
      config.HoldsMappings holds value)
    (outside : ∀ value number, Value.lookup? name config.entries = some value →
      number? value = some number → number ∉ config.numbersIn name) :
    config.changeUnder name whole = .ok (config.amended (config.numbersIn name) change) := by
  unfold changeUnder
  cases found : Value.lookup? name config.entries with
  | none =>
      have none : config.numbersIn name = [] := by
        rw [numbersIn, fieldsAt, found]
        rfl
      rw [none, amended_nil]
  | some value =>
      obtain ⟨fields, own, suits⟩ := regular value found
      obtain ⟨number, linked, held⟩ := fields_eq_some_iff.1 own
      have apart := outside value number found linked
      rw [numbers_in_eq found own] at apart ⊢
      refine (goes value number fields linked held).trans ?_
      exact change_all_eq again keeps steps held apart suits

theorem set_loggers_eq (linked : number? value = some number)
    (held : config.mappings number = some fields) :
    setLoggers level value config = changeAll (setLevel level) number config := by
  cases value with
  | link other isMapping =>
      cases linked
      simp only [setLoggers, held, Option.isSome_some, if_true]
  | _ => cases linked

theorem lower_handlers_eq (linked : number? value = some number)
    (held : config.mappings number = some fields) :
    lowerHandlers level weight value config =
      changeAll (lowerHandler level weight) number config := by
  cases value with
  | link other isMapping =>
      cases linked
      simp only [lowerHandlers, held, Option.isSome_some, if_true]
  | _ => cases linked

theorem set_root_eq (regular : config.IsRegular) :
    config.changeUnder "root" (setLevel level) =
      .ok (config.amended config.rootNumbers (putLevel level)) := by
  unfold changeUnder
  cases found : Value.lookup? "root" config.entries with
  | none =>
      have none : config.rootNumbers = [] := by rw [rootNumbers, found]; rfl
      rw [none, amended_nil]
  | some value =>
      obtain ⟨fields, own⟩ := regular.root value found
      obtain ⟨number, linked, held⟩ := fields_eq_some_iff.1 own
      have single : config.rootNumbers = [number] := by
        rw [rootNumbers, found, Option.bind_some, linked]
        rfl
      rw [single]
      exact set_level_eq linked held

theorem role_of_eq_other_iff :
    config.roleOf number = .other ↔ number ∉ config.loggers ∧ number ∉ config.handlers := by
  unfold roleOf
  by_cases logger : number ∈ config.loggers <;> by_cases handler : number ∈ config.handlers <;>
    simp [logger, handler]

theorem SharesByRole.is_apart (byRole : config.SharesByRole) : config.IsApart where
  top := byRole.places [] config.top .top
  under name value number notRoot found linked := by
    have held : Holds value [] number := by
      cases value with
      | link other isMapping =>
          cases linked
          exact .here
      | _ => cases linked
    rw [Value.lookup_eq_found, Option.map_eq_some_iff] at found
    obtain ⟨entry, found, rfl⟩ := found
    refine (byRole.places _ number (.under .top found held)).trans ?_
    exact if_neg notRoot
  apart := byRole.apart

end

/-- A later configuration in which only loggers and handlers differ, and have levels known by name
where they had such before. -/
structure Follows (config later : Config) : Prop where
  top : later.top = config.top
  kept : ∀ number, config.roleOf number = .other → later.mappings number = config.mappings number
  changed : ∀ number, ∃ change, (∀ fields, IsWeighed fields → IsWeighed (change fields)) ∧
    later.mappings number = (config.mappings number).map change

namespace Follows

variable {level name : Text} {weight number : Nat} {config later : Config} {value : Value}
  {fields : List (Value × Value)}

theorem entries_eq (apart : config.IsApart) (follows : Follows config later) :
    later.entries = config.entries := by
  rw [entries, follows.top, fieldsOf, follows.kept _ apart.top]
  rfl

/-- What stands under a key of the outermost mapping has the entries it had. -/
theorem fields_under (apart : config.IsApart) (follows : Follows config later)
    (notRoot : name ≠ Text.ofString "root")
    (found : Value.lookup? name config.entries = some value) :
    later.fields? value = config.fields? value := by
  cases value with
  | link number isMapping => exact follows.kept number (apart.under _ _ _ notRoot found rfl)
  | _ => rfl

theorem numbers_in_eq (apart : config.IsApart) (follows : Follows config later)
    (notRoot : name ≠ Text.ofString "root") : later.numbersIn name = config.numbersIn name := by
  rw [numbersIn, fieldsAt, follows.entries_eq apart, numbersIn, fieldsAt]
  cases found : Value.lookup? name config.entries with
  | none => rfl
  | some value => rw [Option.bind_some, Option.bind_some, follows.fields_under apart notRoot found]

theorem loggers_eq (apart : config.IsApart) (follows : Follows config later) :
    later.loggers = config.loggers := by
  rw [loggers, loggers, rootNumbers, rootNumbers, follows.entries_eq apart,
    follows.numbers_in_eq apart (by decide)]

theorem handlers_eq (apart : config.IsApart) (follows : Follows config later) :
    later.handlers = config.handlers :=
  follows.numbers_in_eq apart (by decide)

theorem role_of_eq (apart : config.IsApart) (follows : Follows config later) :
    later.roleOf = config.roleOf := by
  funext number
  rw [roleOf, roleOf, follows.loggers_eq apart, follows.handlers_eq apart]

theorem is_apart (apart : config.IsApart) (follows : Follows config later) : later.IsApart := by
  have roles := follows.role_of_eq apart
  refine ⟨?_, fun name value number notRoot found linked => ?_, ?_⟩
  · rw [roles, follows.top]
    exact apart.top
  · rw [follows.entries_eq apart] at found
    rw [roles]
    exact apart.under name value number notRoot found linked
  · rw [follows.loggers_eq apart, follows.handlers_eq apart]
    exact apart.apart

theorem holds_mappings (apart : config.IsApart) (follows : Follows config later)
    (notRoot : name ≠ Text.ofString "root")
    (found : Value.lookup? name config.entries = some value)
    {holds : List (Value × Value) → Prop}
    (keeps : ∀ change : List (Value × Value) → List (Value × Value),
      (∀ fields, IsWeighed fields → IsWeighed (change fields)) →
        ∀ fields, holds fields → holds (change fields))
    (before : config.HoldsMappings holds value) : later.HoldsMappings holds value := by
  obtain ⟨entries, own, suits⟩ := before
  refine ⟨entries, (follows.fields_under apart notRoot found).trans own, fun entry member => ?_⟩
  obtain ⟨fields, inner, holding⟩ := suits entry member
  obtain ⟨number, linked, held⟩ := fields_eq_some_iff.1 inner
  obtain ⟨change, weighed, changed⟩ := follows.changed number
  refine ⟨change fields, fields_eq_some_iff.2 ⟨number, linked, ?_⟩, keeps change weighed _ holding⟩
  rw [changed, held, Option.map_some]

theorem is_regular (apart : config.IsApart) (follows : Follows config later)
    (regular : config.IsRegular) : later.IsRegular := by
  have same := follows.entries_eq apart
  refine ⟨fun value found => ?_, fun value found => ?_, fun value found => ?_⟩ <;>
    rw [same] at found
  · exact follows.holds_mappings apart (by decide) found (fun _ _ _ _ => trivial)
      (regular.loggers value found)
  · obtain ⟨fields, own⟩ := regular.root value found
    obtain ⟨number, linked, held⟩ := fields_eq_some_iff.1 own
    obtain ⟨change, _, changed⟩ := follows.changed number
    refine ⟨change fields, fields_eq_some_iff.2 ⟨number, linked, ?_⟩⟩
    rw [changed, held, Option.map_some]
  · exact follows.holds_mappings apart (by decide) found (fun _ weighed => weighed)
      (regular.handlers value found)

end Follows

section

variable {level name : Text} {weight number : Nat} {config later : Config} {value : Value}

theorem follows_levelled (known : weight? level = some weight) {numbers : List Nat}
    (loggers : ∀ number ∈ numbers, number ∈ config.loggers) :
    Follows config (config.amended numbers (putLevel level)) where
  top := rfl
  kept number other := amended_elsewhere fun member =>
    (role_of_eq_other_iff.1 other).1 (loggers number member)
  changed number := by
    by_cases member : number ∈ numbers
    · exact ⟨_, fun _ _ => put_level_weighed known, amended_here member⟩
    · exact ⟨id, fun _ => id, (amended_elsewhere member).trans Option.map_id_apply.symm⟩

theorem follows_adjusted (known : weight? level = some weight) :
    Follows config (config.adjusted level weight) where
  top := rfl
  kept number other := by
    have changed : (config.adjusted level weight).mappings number =
        (config.mappings number).map ((config.roleOf number).change level weight) := rfl
    rw [changed, other]
    exact Option.map_id_apply
  changed number := ⟨_, fun _ => change_weighed known, rfl⟩

/-- Loggers and handlers are changed apart from each other. -/
theorem adjusted_eq (apart : config.IsApart) :
    (config.amended config.loggers (putLevel level)).amended config.handlers
      (softened level weight) = config.adjusted level weight := by
  ext1
  · funext number
    simp only [amended, adjusted, roleOf]
    by_cases logger : number ∈ config.loggers
    · simp only [if_pos logger, if_neg (apart.apart number logger)]
      rfl
    · by_cases handler : number ∈ config.handlers
      · simp only [if_neg logger, if_pos handler]
        rfl
      · simp only [if_neg logger, if_neg handler]
        exact Option.map_id_apply.symm
  · rfl
  · rfl

theorem override_eq (known : weight? level = some weight) (regular : config.IsRegular)
    (apart : config.IsApart) :
    config.override level weight = .ok (config.adjusted level weight) := by
  have loggersSet : config.changeUnder "loggers" (setLoggers level) =
      .ok (config.amended (config.numbersIn "loggers") (putLevel level)) :=
    change_under_eq (fun _ => put_level_put_level) (fun _ => id)
      (fun _ _ _ _ linked held _ => set_level_eq linked held)
      (fun _ _ _ => set_loggers_eq) regular.loggers fun value number found linked member =>
        (role_of_eq_other_iff.1 (apart.under _ value number (by decide) found linked)).1
          (List.mem_append_left _ member)
  have withLoggers : Follows config
      (config.amended (config.numbersIn "loggers") (putLevel level)) :=
    follows_levelled known fun _ => List.mem_append_left _
  have rootSet : (config.amended (config.numbersIn "loggers") (putLevel level)).changeUnder "root"
      (setLevel level) = .ok (config.amended config.loggers (putLevel level)) := by
    rw [set_root_eq (withLoggers.is_regular apart regular), rootNumbers,
      withLoggers.entries_eq apart, ← rootNumbers, amended_append fun _ => put_level_put_level,
      loggers]
  have withRoot : Follows config (config.amended config.loggers (putLevel level)) :=
    follows_levelled known fun _ => id
  have stillApart := withRoot.is_apart apart
  have handlersSet : (config.amended config.loggers (putLevel level)).changeUnder "handlers"
      (lowerHandlers level weight) = .ok (config.adjusted level weight) := by
    rw [← adjusted_eq apart, handlers, ← withRoot.numbers_in_eq apart (by decide)]
    have keeps : ∀ fields, IsWeighed fields → IsWeighed (softened level weight fields) :=
      fun _ => softened_weighed known
    exact change_under_eq (fun _ => softened_softened known) keeps
      (fun _ _ _ _ linked held weighed => lower_handler_eq linked held weighed)
      (fun _ _ _ => lower_handlers_eq) (withRoot.is_regular apart regular).handlers
      fun value number found linked member =>
        (role_of_eq_other_iff.1 (stillApart.under _ value number (by decide) found linked)).2 member
  rw [override, loggersSet]
  exact (congrArg (· >>= _) rootSet).trans handlersSet

/-- Setting a level a second time changes nothing. -/
theorem override_again (known : weight? level = some weight) (regular : config.IsRegular)
    (apart : config.IsApart) :
    (config.adjusted level weight).override level weight = .ok (config.adjusted level weight) := by
  have follows : Follows config (config.adjusted level weight) := follows_adjusted known
  rw [override_eq known (follows.is_regular apart regular) (follows.is_apart apart)]
  refine congrArg Except.ok ?_
  ext1
  · funext number
    rw [adjusted, follows.role_of_eq apart]
    simp only [adjusted, Option.map_map]
    exact Option.map_congr fun fields _ => change_change known
  · rfl
  · rfl

end

end Config

/-- Setting a level that is known by name, in whatever letters it is given: wherever a logger or the
root stands, it gets the level; a handler with a level gets the less severe of its own and the new
one; and all else stays as it stood. Doing it again changes nothing, and a setup puts the result
into effect. -/
theorem override_levels {level : Text} {weight : Nat} {config : Config}
    (known : weight? (capitals level) = some weight) (regular : config.IsRegular)
    (byRole : config.SharesByRole) :
    let result := config.adjusted (capitals level) weight
    withLevel level config = .ok result ∧
      withLevel level result = .ok result ∧
      (∀ place number, config.Stands place number → result.mappings number =
        (config.mappings number).map ((role place).change (capitals level) weight)) ∧
      (∀ own ownWeight, weight? own = some ownWeight →
        weight? (softer (capitals level) weight own) = some (min ownWeight weight) ∧
        (ownWeight ≤ weight → softer (capitals level) weight own = own)) ∧
      ∀ mark room folder place extended, load room folder place = .ok config →
        prepare folder result = (none, extended) →
          setup mark room folder place level =
            ⟨.ok (.file result), extended, [configured place]⟩ := by
  intro result
  have apart := byRole.is_apart
  have given : level.isEmpty = false := by
    cases level with
    | nil => cases known
    | cons point rest => rfl
  have levelled : ∀ config : Config, withLevel level config =
      (config.override (capitals level) weight).mapError (.trouble ∘ .shape) := fun config => by
    rw [withLevel, given, known]
    rfl
  have changed : withLevel level config = .ok result := by
    rw [levelled, Config.override_eq known regular apart]
    rfl
  refine ⟨changed, ?_, fun place number stands => ?_, fun own ownWeight ownKnown =>
    ⟨weight_softer known ownKnown, fun less => ?_⟩,
    fun mark room folder place extended read made => ?_⟩
  · rw [levelled, Config.override_again known regular apart]
    rfl
  · rw [← byRole.places place number stands]
    rfl
  · rw [softer, ownKnown]
    exact if_neg (Nat.not_lt.2 less)
  · rw [setup, read]
    simp only [changed, made]

namespace Override

def console : Value := named 3 [entry "level" (.str "WARNING"), entry "stream" (.str "stderr")]

def quiet : Value := named 5 [entry "level" (.str "ERROR"), entry "propagate" (.bool false)]

/-- A configuration in which two handlers are one mapping, and the root is one of the loggers. -/
def shared : Config :=
  .ofNamed 0 [entry "version" (.int 1),
    entry "handlers" (named 1 [entry "console" console, entry "copy" console,
      entry "all" (named 4 [])]),
    entry "loggers" (named 2 [entry "program" quiet, entry "other" (named 6 [])]),
    entry "root" quiet]

def places : List (List Text × Nat) :=
  [([], 0), (["handlers"], 1), (["loggers"], 2), (["root"], 5), (["handlers", "console"], 3),
    (["handlers", "copy"], 3), (["handlers", "all"], 4), (["loggers", "program"], 5),
    (["loggers", "other"], 6)]

/-- An entry of what stands at a place has no further mapping in it, or one that is listed. -/
def isListed (place : List Text) : Value × Value → Bool
  | (.str name, .link inner _) => (place ++ [name], inner) ∈ places
  | (_, .str _) => true
  | (_, .int _) => true
  | (_, .bool _) => true
  | _ => false

theorem entries_listed : ∀ found ∈ places, ∀ entry ∈ shared.fieldsOf found.2,
    isListed found.1 entry = true := by
  decide

theorem listed_holds {place : List Text} {entry : Value × Value} {rest : List Value} {inner : Nat}
    (listed : isListed place entry = true) (held : Holds entry.2 rest inner) :
    rest = [] ∧ ∃ name, entry.1 = .str name ∧ (place ++ [name], inner) ∈ places := by
  unfold isListed at listed
  split at listed
  next name other isMapping =>
    cases held
    exact ⟨rfl, name, rfl, of_decide_eq_true listed⟩
  next => cases held
  next => cases held
  next => cases held
  next => cases listed

theorem shared_places {place : List Value} {number : Nat} (stands : shared.Stands place number) :
    ∃ names, place = names.map .str ∧ (names, number) ∈ places := by
  induction stands with
  | top => exact ⟨[], rfl, List.mem_cons_self ..⟩
  | under around found held ih =>
      obtain ⟨names, rfl, member⟩ := ih
      obtain ⟨rfl, name, named, listed⟩ :=
        listed_holds (entries_listed _ member _ (Value.mem_of_found found)) held
      have same := Value.same_key_of_found found
      rw [named, Value.text_same_key_iff] at same
      refine ⟨names ++ [name], ?_, listed⟩
      rw [same, List.map_append]
      rfl

theorem shared_by_role : shared.SharesByRole where
  places place number stands := by
    obtain ⟨names, rfl, member⟩ := shared_places stands
    have roles : ∀ found ∈ places, shared.roleOf found.2 = role (found.1.map .str) := by decide
    exact roles _ member
  apart := by decide

theorem shared_regular : shared.IsRegular where
  loggers value found := by
    cases found
    refine ⟨[Logging.entry "program" (.link 5 true), Logging.entry "other" (.link 6 true)], rfl,
      fun entry member => ?_⟩
    simp only [List.mem_cons, List.not_mem_nil, or_false] at member
    rcases member with rfl | rfl <;> exact ⟨_, rfl, trivial⟩
  root value found := by
    cases found
    exact ⟨_, rfl⟩
  handlers value found := by
    cases found
    refine ⟨[Logging.entry "console" (.link 3 true), Logging.entry "copy" (.link 3 true),
      Logging.entry "all" (.link 4 true)], rfl, fun entry member => ?_⟩
    have weighed : IsWeighed [Logging.entry "level" (.str "WARNING"),
        Logging.entry "stream" (.str "stderr")] :=
      fun held found => ⟨"WARNING", 30, (Option.some.inj found).symm, by decide⟩
    simp only [List.mem_cons, List.not_mem_nil, or_false] at member
    rcases member with rfl | rfl | rfl
    · exact ⟨_, rfl, weighed⟩
    · exact ⟨_, rfl, weighed⟩
    · refine ⟨_, rfl, ?_⟩
      rintro _ ⟨⟩

end Override

theorem override_levels_shared :
    weight? (capitals "debug") = some 10 ∧
      withLevel "debug" Override.shared = .ok (Override.shared.adjusted (capitals "debug") 10) :=
  have known : weight? (capitals "debug") = some 10 := by decide
  ⟨known, (override_levels known Override.shared_regular Override.shared_by_role).1⟩

/-- A handler that is a logger too, by an alias, takes the level of the loggers even where that is
the more severe one. -/
theorem aliased_handler_raised :
    let folder : Folder := { entries := [(["log.yaml"], .octets
      "handlers: {h: &x {level: DEBUG}}\nloggers: {a: *x}\n".toUTF8.toList)] }
    let place := Place.asked (.ofText "log.yaml")
    let handlerWeight (config : Config) : Option Nat := setWeight? (handlerFields config "h")
    let room := Yaml.Room.ofDepth 100
    (load room folder place).toOption.bind handlerWeight = some 10 ∧
      ((setup Cause.mark room folder place "INFO").outcome.toOption.bind fun
        | .file config => handlerWeight config
        | _ => none) = some 20 := by
  decide +kernel

end Stubwright.Logging
