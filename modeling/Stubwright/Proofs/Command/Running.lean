import Stubwright.Command.Run

/-!
How commands run: what each kind of step does to a session, how a failure is reported, and what a
command line leaves behind once logging is set up.
-/

namespace Stubwright.Command

namespace Steps

variable {α β : Type} {steps : Steps α} {next : α → Steps β} {before between : Session}

theorem run_bind_ok {value : α} (first : steps.run before = .ok value between) :
    (steps >>= next).run before = (next value).run between := by
  rw [EStateM.run_bind, first]

theorem run_bind_error {stop : Stop} (first : steps.run before = .error stop between) :
    (steps >>= next).run before = .error stop between := by
  rw [EStateM.run_bind, first]

theorem of_except_ok {ε : Type} {describe : ε → Failure} {result : Except ε α} {value : α}
    (good : result = .ok value) : (ofExcept describe result).run before = .ok value before := by
  rw [good]
  rfl

theorem of_except_error {ε : Type} {describe : ε → Failure} {result : Except ε α} {cause : ε}
    (bad : result = .error cause) :
    (ofExcept describe result).run before = .error (.failure (describe cause)) before := by
  rw [bad]
  rfl

theorem change_ok {edit : Folder → Except Blockage Folder} {folder : Folder}
    (edited : edit before.folder = .ok folder) :
    (change edit).run before = .ok () { before with folder := folder } := by
  unfold change
  rw [run_bind_ok (EStateM.run_get _), edited]
  rfl

theorem guarded_done {steps : Steps Unit} {after : Session} (command title : Text)
    (done : steps.run before = .ok () after) :
    guarded command title steps before = (none, after) := by
  rw [guarded, done]

theorem guarded_failed {steps : Steps Unit} {failure : Failure} {after : Session}
    (command title : Text) (failed : steps.run before = .error (.failure failure) after) :
    guarded command title steps before = (some 1, reported command title failure after) := by
  rw [guarded, failed]

end Steps

def isPanel : Display → Bool
  | .panel _ _ => true
  | _ => false

/-- Issues of bad syntax are no panel, so a failure is shown in one panel whatever it is. -/
theorem Failure.panels (title : Text) (failure : Failure) :
    (failure.displays title).filter isPanel = [failure.panel title] := by
  cases failure with
  | incomplete command message => rfl
  | known area message => rfl
  | unexpected message => rfl
  | badSyntax findings message =>
      unfold displays
      dsimp only
      cases clean : findings.isClean with
      | true => rfl
      | false =>
          have table : isPanel (.ofFindings "generated stub" findings) = false := by
            rw [Display.ofFindings, clean]
            rfl
          rw [if_neg Bool.false_ne_true, List.filter_cons, table]
          rfl

/-- A session that has gone on without doing anything but report. -/
structure Session.Kept (before after : Session) : Prop where
  folder : after.folder = before.folder
  output : after.output = before.output
  displays : after.displays = before.displays

def Surroundings.logging (surroundings : Surroundings) (request : Request) : Logging.Setup :=
  (Logging.setup Cause.mark surroundings.rooms.logging surroundings.folder
    (.ofEnvironment surroundings.logConfig) request.logLevel).enforce Cause.mark request.logLevel

theorem perform_ready {surroundings : Surroundings} {arguments : List String} {request : Request}
    {applied : Logging.Applied}
    (asked : Request.ofArguments surroundings.folder arguments = .ok request)
    (ready : (surroundings.logging request).outcome = .ok applied) :
    ∃ session code after, session.folder = (surroundings.logging request).folder ∧
      session.output = [] ∧ session.displays = [] ∧
      execute surroundings request session = (code, after) ∧
      (perform surroundings arguments).exit = code.getD 0 ∧
      (perform surroundings arguments).session = after := by
  unfold perform
  rw [asked]
  unfold Surroundings.logging at ready
  dsimp only
  rw [ready]
  exact ⟨_, _, _, rfl, rfl, rfl, rfl, rfl, rfl⟩

end Stubwright.Command
