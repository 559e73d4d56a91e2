import Stubwright.Text.Basic

/-!
Problems found while a stub is made, and the records that report its progress.
-/

namespace Stubwright

/-- A warning marks degraded output; an error marks a construct that was left out. -/
inductive Severity where
  | warning
  | error
  deriving DecidableEq

def Severity.word : Severity → Text
  | .warning => "warning"
  | .error => "error"

structure Diagnostic where
  severity : Severity
  construct : Text
  message : Text
  deriving DecidableEq

inductive Level where
  | debug
  | info
  | warning
  | error
  | critical
  deriving DecidableEq

namespace Level

def word : Level → Text
  | .debug => "DEBUG"
  | .info => "INFO"
  | .warning => "WARNING"
  | .error => "ERROR"
  | .critical => "CRITICAL"

def weight : Level → Nat
  | .debug => 10
  | .info => 20
  | .warning => 30
  | .error => 40
  | .critical => 50

end Level

inductive Origin where
  | assembly
  | members
  | dump
  | reflection
  | logging
  | generateCommand
  | checkCommand
  | failures
  deriving DecidableEq

structure Record where
  origin : Origin
  level : Level
  message : Text
  deriving DecidableEq

end Stubwright
