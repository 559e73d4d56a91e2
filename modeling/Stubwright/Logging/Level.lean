import Stubwright.Decimal.Double
import Stubwright.Text.Basic

/-!
Levels of severity by their names, and the names that mean something else in the place of a level.
-/

namespace Stubwright.Logging

inductive ShapeError where
  /-- A value is of a kind that the step cannot use. -/
  | wrongKind
  /-- A value has no entries to go through. -/
  | noEntries
  /-- A list has no such position. -/
  | outOfRange
  /-- A mapping has grown while it was gone through. -/
  | grown
  deriving DecidableEq

def weights : List (Text × Nat) :=
  [("CRITICAL", 50), ("FATAL", 50), ("ERROR", 40), ("WARNING", 30), ("WARN", 30), ("INFO", 20),
    ("DEBUG", 10), ("NOTSET", 0)]

def weight? (level : Text) : Option Nat := weights.lookup level

def defaultWeight : Nat := 20

/-- Letters beyond ASCII whose capitals are ASCII letters. Others cannot become part of the name of
a level. -/
def foreignCapitals : List (Char × String) :=
  [('ß', "SS"), ('ı', "I"), ('ſ', "S"), ('\ufb00', "FF"), ('\ufb01', "FI"), ('\ufb02', "FL"),
    ('\ufb03', "FFI"), ('\ufb04', "FFL"), ('\ufb05', "ST"), ('\ufb06', "ST")]

def capital (c : Char) : Text :=
  match foreignCapitals.lookup c with
  | some letters => .ofString letters
  | none => [.char c.toUpper]

def capitals (level : Text) : Text :=
  level.flatMap fun point =>
    match point with
    | .char c => capital c
    | .half offset => [.half offset]

/-- Names with two underscores at either end, and these left out. -/
def innerNames : List Text :=
  List.map .ofString [
    "all", "annotations", "author", "builtins", "cached", "class", "date", "delattr", "dict", "dir",
    "doc", "eq", "file", "format", "ge", "getattribute", "getstate", "gt", "hash", "init",
    "init_subclass", "le", "loader", "lt", "name", "ne", "new", "package", "path", "reduce",
    "reduce_ex", "repr", "setattr", "sizeof", "spec", "status", "str", "subclasshook", "version"]

def outerNames : List Text :=
  List.map .ofString [
    "BASIC_FORMAT", "BufferingFormatter", "FileHandler", "Filter", "Filterer", "Formatter",
    "GenericAlias", "Handler", "LogRecord", "Logger", "LoggerAdapter", "Manager", "NullHandler",
    "PercentStyle", "PlaceHolder", "RootLogger", "StrFormatStyle", "StreamHandler",
    "StringTemplateStyle", "Template", "_STYLES", "_StderrHandler", "_acquireLock",
    "_addHandlerRef", "_after_at_fork_child_reinit_locks", "_at_fork_reinit_lock_weakset",
    "_checkLevel", "_defaultFormatter", "_defaultLastResort", "_handlerList", "_handlers",
    "_is_internal_frame", "_levelToName", "_lock", "_logRecordFactory", "_loggerClass",
    "_nameToLevel", "_register_at_fork_reinit_lock", "_releaseLock", "_removeHandlerRef",
    "_showwarning", "_srcfile", "_str_formatter", "_warnings_showwarning", "addLevelName",
    "atexit", "basicConfig", "captureWarnings", "collections", "config", "critical",
    "currentframe", "debug", "disable", "error", "exception", "fatal", "getLevelName",
    "getLevelNamesMapping", "getLogRecordFactory", "getLogger", "getLoggerClass", "handlers",
    "info", "io", "lastResort", "log", "makeLogRecord", "os", "re", "root", "setLogRecordFactory",
    "setLoggerClass", "shutdown", "sys", "threading", "time", "traceback", "warn", "warning",
    "warnings", "weakref"]

/-- Names that stand for something else in the place of a level, and cannot be compared. -/
def reservedNames : List Text :=
  outerNames ++ innerNames.map fun name => Text.ofString "__" ++ name ++ Text.ofString "__"

/-- Switches, which count as one where a level is expected. -/
def switchNames : List Text :=
  ["raiseExceptions", "logThreads", "logMultiprocessing", "logProcesses"]

/-- The name of a moment in time, which as a level lies above all others. -/
def momentName : Text := "_startTime"

def momentWeight : Nat := 10 ^ (9 : Nat)

/-- The weight of a handler's own level. A word that means nothing weighs what is usual. -/
def heldWeight (level : Text) : Except ShapeError Nat :=
  if level ∈ reservedNames then .error .wrongKind
  else if level ∈ switchNames then .ok 1
  else if level = momentName then .ok momentWeight
  else .ok ((weight? level).getD defaultWeight)

end Stubwright.Logging
