import Stubwright.Dump
import Stubwright.Reflection
import Stubwright.Stub

/-!
The stub of an extension that is looked up by name. An extension that cannot be reflected is not
fatal: its stub is empty, and one error says why.
-/

namespace Stubwright

inductive Source where
  | stored (dump : Dump)
  | live (reflector : Reflector) (run : Run)

namespace Source

def reflect (extension : Text) :
    Source → Except SourceFailure Extension × List Record
  | .stored dump =>
      let (outcome, _, records) := dump.reflect extension
      (outcome, records)
  | .live reflector run =>
      (reflector.reflect extension run, [reflector.announcement extension])

end Source

namespace Stub

def unreflected (renderer : Renderer) (extension : Text) (error : SourceError) : Stub :=
  let message := error.message
  let failure : Record :=
    ⟨.assembly, .error, "Cannot reflect extension '" ++ extension ++ "': " ++ message⟩
  let stub := ofExtension renderer [⟨.error, extension, message⟩] (.empty extension)
  { stub with records := failure :: stub.records }

/-- The stub of a reflected extension, and what was reported up to it. Only a source that breaks
leaves no stub. -/
def ofSource (renderer : Renderer) (extension : Text) (source : Source) :
    Except Breakage Stub × List Record :=
  let (outcome, records) := source.reflect extension
  match outcome with
  | .ok metadata =>
      let stub := ofExtension renderer [] metadata
      (.ok stub, records ++ stub.records)
  | .error (.known error) =>
      let stub := unreflected renderer extension error
      (.ok stub, records ++ stub.records)
  | .error (.broken cause) => (.error cause, records)

end Stub

end Stubwright
