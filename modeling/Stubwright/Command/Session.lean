import Stubwright.Command.Failure
import Stubwright.Folder

/-!
The run of a command. It leaves text on the standard output, files, displays and records behind,
also when it ends early; failures are reported before it exits.
-/

namespace Stubwright.Command

structure Session where
  folder : Folder
  output : List Char := []
  displays : List Display := []
  records : List Record := []

inductive Stop where
  | exit (code : Int)
  | failure (failure : Failure)
  deriving DecidableEq

abbrev Steps := EStateM Stop Session

namespace Steps

def report (records : List Record) : Steps Unit :=
  modify fun session => { session with records := session.records ++ records }

def display (displays : List Display) : Steps Unit :=
  modify fun session => { session with displays := session.displays ++ displays }

def print (chars : List Char) : Steps Unit :=
  modify fun session => { session with output := session.output ++ chars }

def fail {α : Type} (failure : Failure) : Steps α := throw (.failure failure)

def ofExcept {ε α : Type} (describe : ε → Failure) : Except ε α → Steps α
  | .ok value => pure value
  | .error cause => fail (describe cause)

def encodable (text : Text) : Steps (List Char) :=
  ofExcept (fun halves => .unexpected halves.message) (Text.encodable text)

/-- Changes the files of the session; what the system refuses is a failure that nothing explains. -/
def change (edit : Folder → Except Blockage Folder) : Steps Unit := do
  match edit (← get).folder with
  | .ok folder => modify fun session => { session with folder := folder }
  | .error _ => fail (.unexpected FileError.unreadable.message)

def reported (command title : Text) (failure : Failure) (session : Session) : Session :=
  { session with
    displays := session.displays ++ failure.displays title
    records := session.records ++ [failure.record command] }

/-- Runs the steps of a command and reports its failure. A command that comes to its end has no
exit code of its own. -/
def guarded (command title : Text) (steps : Steps Unit) (session : Session) :
    Option Int × Session :=
  match steps.run session with
  | .ok _ after => (none, after)
  | .error (.exit code) after => (some code, after)
  | .error (.failure failure) after => (some 1, reported command title failure after)

end Steps

end Stubwright.Command
