import Stubwright.Proofs.Logging.Shape

/-!
How a setup of logging ends: with the configuration of the file, with the plain one and a warning,
or, for the few contents that no step expects, with nothing in effect at all.
-/

namespace Stubwright.Logging

/-- Whether a handler stops the creation of directories altogether: what it names as its file is no
text, or the system does not create the directory. -/
def IsHindering (config : Config) (folder : Folder) (handler : Value) : Prop :=
  ∃ held, (config.fields? handler).bind (Value.lookup? "filename") = some held ∧
    ∀ name, held = .str name →
      (Path.ofText name).parent.unfit? = none ∧ Fails (folder.ensure (Path.ofText name).parent)

inductive IsObstructed (folder : Folder) (config : Config) : Prop where
  | handlers {value : Value} (found : Value.lookup? "handlers" config.entries = some value)
      (noMapping : config.fields? value = none)
  | handler {value : Value} {before after : List (Value × Value)} {entry : Value × Value}
      {reached : Folder} (found : Value.lookup? "handlers" config.entries = some value)
      (mapping : config.fields? value = some (before ++ entry :: after))
      (made : makeDirectories config folder before = (none, reached))
      (hindering : IsHindering config reached entry.2)

def BreaksReader (room : Yaml.Room) (folder : Folder) (place : Place) : Prop :=
  ∃ path cause, (place = .asked path ∨ place = .named path ∧ folder.isOverlong path = false) ∧
    path.unfit? = none ∧ (folder.find path).namedYaml room = .error cause ∧ cause.isFatal = true

/-- The environment names a path of which the system does not even say that nothing is there. -/
def NamesOverlong (folder : Folder) (place : Place) : Prop :=
  ∃ path, place = .named path ∧ path.unfit? = none ∧ folder.isOverlong path = true

section

variable {room : Yaml.Room} {folder extended : Folder} {handler : Value}
  {handlers : List (Value × Value)} {obstacle : Obstacle} {place : Place} {level : Text}
  {config : Config}

end

inductive HasFault (room : Yaml.Room) (folder : Folder) (place : Place) (level : Text) :
    ConfigFault → Prop where
  | reading {fault : ConfigFault} (read : load room folder place = .error (.fault fault)) :
      HasFault room folder place level fault
  | level {fault : ConfigFault} {config : Config} (read : load room folder place = .ok config)
      (unknown : withLevel level config = .error (.fault fault)) :
      HasFault room folder place level fault
  | directory {fault : ConfigFault} {config result : Config} {extended : Folder}
      (read : load room folder place = .ok config) (leveled : withLevel level config = .ok result)
      (stopped : prepare folder result = (some (.fault fault), extended)) :
      HasFault room folder place level fault
  | version {fault : ConfigFault} {config result : Config} {extended : Folder}
      (read : load room folder place = .ok config) (leveled : withLevel level config = .ok result)
      (made : prepare folder result = (none, extended))
      (refused : versionFault? result = some fault) : HasFault room folder place level fault

/-- The ways in which a setup ends without any configuration. -/
inductive Breaks (room : Yaml.Room) (folder : Folder) (place : Place) (level : Text) : Prop where
  | path (overlong : NamesOverlong folder place)
  | reading (broken : BreaksReader room folder place)
  | shape {config : Config} (read : load room folder place = .ok config) (given : level ≠ [])
      (known : weight? (capitals level) ≠ none) (misshapen : config.IsMisshapen (capitals level))
  | directory {config result : Config} (read : load room folder place = .ok config)
      (leveled : withLevel level config = .ok result)
      (obstructed : IsObstructed folder result)
  /-- The plain configuration is asked for a level that names something else. -/
  | level {fault : ConfigFault} (faulty : HasFault room folder place level fault)
      (stray : strays.lookup (capitals (levelOr level)) ≠ none)

section

variable {mark : Cause → Text} {room : Yaml.Room} {folder extended : Folder} {place : Place}
  {level : Text} {fault : ConfigFault} {ended : Setup}

end

end Stubwright.Logging
