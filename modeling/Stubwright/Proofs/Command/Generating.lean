import Stubwright.Proofs.Command.Running
import Stubwright.Proofs.Folder.Writing
import Stubwright.Proofs.Source.Degraded
import Stubwright.Proofs.Text.Styling

/-!
What becomes of a request for a stub. Each stage of the command either leaves nothing behind but
records or stops it with a failure, so a stub is put out as a whole or not at all.
-/

namespace Stubwright.Command

namespace Generation

variable (surroundings : Surroundings) (folder : Folder) (generation : Generation)

/-- The settings that a stub is made with. A name given for the interpreter replaces the one in the
settings, unless it is empty, and nothing else in them. -/
def settings : Except SettingsError Settings := do
  let loaded ← match generation.config with
    | none => .ok (Settings.defaults surroundings.phpBinary)
    | some path =>
        Settings.ofFile surroundings.phpBinary surroundings.rooms.settings path.text
          (folder.find path)
  match generation.php with
  | none => return loaded
  | some binary =>
      return { loaded with phpBinary := if binary.isEmpty then loaded.phpBinary else binary }

def source (settings : Settings) : Source :=
  match generation.dump with
  | none =>
      .live { binary := settings.phpBinary, room := surroundings.rooms.output } surroundings.run
  | some path =>
      .stored { path := path.text, room := surroundings.rooms.dump, file := folder.find path }

def assembled (settings : Settings) : Except Breakage Stub :=
  let renderer : Renderer := { settings with room := surroundings.rooms.literal }
  (Stub.ofSource renderer generation.extension
    (generation.source surroundings folder settings)).1

theorem assembled_error_iff {settings : Settings} {cause : Breakage} :
    generation.assembled surroundings folder settings = .error cause ↔
      ((generation.source surroundings folder settings).reflect generation.extension).1 =
        .error (.broken cause) :=
  Stub.of_source_unmade_iff ..

end Generation

def Surroundings.Passes (surroundings : Surroundings) (text : Text) : Prop :=
  ∃ chars findings, Text.encodable text = .ok chars ∧ surroundings.check chars = .ok findings ∧
    findings.isClean = true

structure Generation.Makes (surroundings : Surroundings) (folder : Folder) (generation : Generation)
    (settings : Settings) (stub : Stub) : Prop where
  loaded : generation.settings surroundings folder = .ok settings
  assembled : generation.assembled surroundings folder settings = .ok stub
  passes : generation.checkSyntax = true → surroundings.Passes stub.text

/-- How a request comes to no stub: the settings cannot be loaded, the source breaks, or the stub
does not pass the check that was asked for. -/
inductive Generation.Fails (surroundings : Surroundings) (folder : Folder)
    (generation : Generation) : Prop where
  | settings {error : SettingsError}
      (refused : generation.settings surroundings folder = .error error)
  | source {settings : Settings} {cause : Breakage}
      (loaded : generation.settings surroundings folder = .ok settings)
      (broken : ((generation.source surroundings folder settings).reflect generation.extension).1 =
        .error (.broken cause))
  | stub {settings : Settings} {stub : Stub}
      (loaded : generation.settings surroundings folder = .ok settings)
      (assembled : generation.assembled surroundings folder settings = .ok stub)
      (checked : generation.checkSyntax = true) (refused : ¬ surroundings.Passes stub.text)

/-- Whether the output takes a text: it can be encoded, and if it goes to a file, that can be
opened. -/
def Admits (folder : Folder) (output : Option Path) (text : Text) : Prop :=
  (∃ chars, Text.encodable text = .ok chars) ∧
    ∀ path ∈ output, ∃ extended opened, folder.ensure path.parent = .ok extended ∧
      extended.write path [] = .ok opened

/-- What a delivered text has done: it stands on the standard output, without the control sequences
in it, or it is all that the file holds. -/
def Delivered (output : Option Path) (text : Text) (before after : Folder) (shown : List Char) :
    Prop :=
  match output with
  | none =>
      Text.encodable text.unstyled = .ok shown ∧
        (Text.encodable text = .ok shown ↔ ¬ text.HasSequence) ∧ after = before
  | some path =>
      shown = [] ∧ ∃ chars, Text.encodable text = .ok chars ∧
        after.find path = .octets (Text.encodeChars chars)

def putOut (generation : Generation) (stub : Stub) : Steps Unit := do
  deliver generation.output stub.text
  Steps.display [.ofDiagnostics stub.diagnostics]
  if generation.strict && stub.hasErrors then
    Steps.fail (.incomplete "generate" "Stub is incomplete, see diagnostics above")

def conclude (surroundings : Surroundings) (generation : Generation)
    (made : Except Breakage Stub) : Steps Unit := do
  let stub ← Steps.ofExcept (fun cause => .unexpected cause.message) made
  if generation.checkSyntax then ensureValid surroundings generation.extension stub.text
  putOut generation stub

section

open Steps

variable {surroundings : Surroundings} {generation : Generation} {session : Session}

theorem load_settings_run (surroundings : Surroundings) (generation : Generation)
    (session : Session) :
    (loadSettings surroundings generation.config generation.php).run session =
      match generation.settings surroundings session.folder with
      | .ok settings => .ok settings session
      | .error error => .error (.failure (Failure.ofSettings error)) session := by
  unfold loadSettings Generation.settings
  cases generation.config with
  | none =>
      cases generation.php with
      | none => rfl
      | some binary => cases binary <;> rfl
  | some path =>
      dsimp only
      rw [run_bind_ok (EStateM.run_get _)]
      cases read : Settings.ofFile surroundings.phpBinary surroundings.rooms.settings path.text
          (session.folder.find path) with
      | error error =>
          rw [run_bind_error (of_except_error rfl)]
          rfl
      | ok loaded =>
          rw [run_bind_ok (of_except_ok rfl)]
          cases generation.php with
          | none => rfl
          | some binary => cases binary <;> rfl

theorem open_source_run (surroundings : Surroundings) (generation : Generation)
    (session : Session) (settings : Settings) :
    ∃ after, (openSource surroundings generation.dump settings).run session =
        .ok (generation.source surroundings session.folder settings) after ∧
      session.Kept after := by
  unfold openSource Generation.source
  cases generation.dump with
  | none => exact ⟨_, rfl, rfl, rfl, rfl⟩
  | some path => exact ⟨_, rfl, rfl, rfl, rfl⟩

/-- A text that passes the check is only reported to have passed. -/
theorem ensure_valid_passes {text : Text} (session : Session) (extension : Text)
    (passes : surroundings.Passes text) :
    ∃ after, (ensureValid surroundings extension text).run session = .ok () after ∧
      session.Kept after := by
  obtain ⟨chars, findings, encoded, checked, clean⟩ := passes
  unfold ensureValid encodable
  rw [run_bind_ok (of_except_ok encoded), run_bind_ok (of_except_ok checked), if_pos clean]
  exact ⟨_, rfl, rfl, rfl, rfl⟩

theorem ensure_valid_refuses {text : Text} (session : Session) (extension : Text)
    (refused : ¬ surroundings.Passes text) :
    ∃ failure, (ensureValid surroundings extension text).run session =
      .error (.failure failure) session := by
  unfold ensureValid encodable
  cases encoded : Text.encodable text with
  | error halves => exact ⟨_, run_bind_error (of_except_error rfl)⟩
  | ok chars =>
      rw [run_bind_ok (of_except_ok rfl)]
      cases checked : surroundings.check chars with
      | error reason => exact ⟨_, run_bind_error (of_except_error rfl)⟩
      | ok findings =>
          have unclean : ¬ findings.isClean = true :=
            fun clean => refused ⟨chars, findings, encoded, checked, clean⟩
          rw [run_bind_ok (of_except_ok rfl), if_neg unclean]
          exact ⟨_, rfl⟩

theorem deliver_run {output : Option Path} {text : Text} (fresh : session.output = [])
    (admits : Admits session.folder output text) :
    ∃ after, (deliver output text).run session = .ok () after ∧
      Delivered output text session.folder after.folder after.output := by
  obtain ⟨encodes, opens⟩ := admits
  cases output with
  | none =>
      obtain ⟨chars, encoded⟩ := Text.encodable_unstyled encodes
      unfold deliver encodable
      dsimp only
      rw [run_bind_ok (of_except_ok encoded)]
      refine ⟨_, rfl, ?_⟩
      dsimp only
      rw [fresh, List.nil_append]
      exact ⟨encoded, Text.encodable_unstyled_iff encoded, rfl⟩
  | some path =>
      obtain ⟨chars, encoded⟩ := encodes
      obtain ⟨extended, opened, ensured, written⟩ := opens path rfl
      -- The file is opened, and thereby emptied, before the text is encoded: there are two writes.
      obtain ⟨after, again⟩ := Folder.write_again written chars
      unfold deliver encodable
      dsimp only
      rw [run_bind_ok (change_ok ensured), run_bind_ok (change_ok written),
        run_bind_ok (of_except_ok encoded), run_bind_ok (change_ok again)]
      exact ⟨_, rfl, fresh, chars, encoded, Folder.find_write again⟩

theorem generate_refused {error : SettingsError}
    (refused : generation.settings surroundings session.folder = .error error) :
    (generate surroundings generation).run session =
      .error (.failure (Failure.ofSettings error)) session := by
  have stopped := load_settings_run surroundings generation session
  rw [refused] at stopped
  unfold generate
  rw [run_bind_error stopped]

/-- Loaded settings lead to the end of the command with what the source gives; on the way nothing is
done but report. -/
theorem generate_loaded {settings : Settings}
    (loaded : generation.settings surroundings session.folder = .ok settings) :
    ∃ between, session.Kept between ∧
      (generate surroundings generation).run session =
        (conclude surroundings generation
          (generation.assembled surroundings session.folder settings)).run between := by
  have settled := load_settings_run surroundings generation session
  rw [loaded] at settled
  obtain ⟨opened, opens, kept⟩ := open_source_run surroundings generation session settings
  unfold generate
  rw [run_bind_ok settled, run_bind_ok opens]
  unfold Generation.assembled
  dsimp only
  cases Stub.ofSource { settings with room := surroundings.rooms.literal } generation.extension
    (generation.source surroundings session.folder settings) with
  | mk made records =>
      have reported : (report records).run opened =
          .ok () { opened with records := opened.records ++ records } := rfl
      dsimp only
      rw [run_bind_ok reported]
      refine ⟨_, ?_, rfl⟩
      exact ⟨kept.folder, kept.output, kept.displays⟩

theorem conclude_made {made : Except Breakage Stub} {stub : Stub} (session : Session)
    (assembled : made = .ok stub)
    (passes : generation.checkSyntax = true → surroundings.Passes stub.text) :
    ∃ between, session.Kept between ∧
      (conclude surroundings generation made).run session =
        (putOut generation stub).run between := by
  unfold conclude
  rw [run_bind_ok (of_except_ok assembled)]
  cases checking : generation.checkSyntax with
  | false => exact ⟨session, ⟨rfl, rfl, rfl⟩, rfl⟩
  | true =>
      obtain ⟨between, passed, kept⟩ :=
        ensure_valid_passes session generation.extension (passes checking)
      exact ⟨between, kept, run_bind_ok passed⟩

theorem conclude_broken {made : Except Breakage Stub} {cause : Breakage}
    (broken : made = .error cause) :
    (conclude surroundings generation made).run session =
      .error (.failure (.unexpected cause.message)) session := by
  unfold conclude
  rw [run_bind_error (of_except_error broken)]

theorem conclude_refused {made : Except Breakage Stub} {stub : Stub} (session : Session)
    (assembled : made = .ok stub) (checking : generation.checkSyntax = true)
    (refused : ¬ surroundings.Passes stub.text) :
    ∃ failure, (conclude surroundings generation made).run session =
      .error (.failure failure) session := by
  obtain ⟨failure, stopped⟩ := ensure_valid_refuses session generation.extension refused
  unfold conclude
  rw [run_bind_ok (of_except_ok assembled), if_pos checking]
  exact ⟨failure, run_bind_error stopped⟩

/-- A stub is put out before its errors make a strict request fail. -/
theorem put_out_run {stub : Stub} (fresh : session.output = [])
    (admits : Admits session.folder generation.output stub.text) :
    ∃ after, Delivered generation.output stub.text session.folder after.folder after.output ∧
      (putOut generation stub).run session =
        if generation.strict && stub.hasErrors then
          .error
            (.failure (.incomplete "generate" "Stub is incomplete, see diagnostics above")) after
        else .ok () after := by
  obtain ⟨between, delivers, delivered⟩ := deliver_run fresh admits
  unfold putOut
  rw [run_bind_ok delivers]
  refine ⟨{ between with
    displays := between.displays ++ [.ofDiagnostics stub.diagnostics] }, delivered, ?_⟩
  cases generation.strict && stub.hasErrors <;> rfl

theorem execute_makes {settings : Settings} {stub : Stub} (fresh : session.output = [])
    (makes : generation.Makes surroundings session.folder settings stub)
    (admits : Admits session.folder generation.output stub.text) :
    ∃ code after, execute surroundings (.generate generation) session = (code, after) ∧
      Delivered generation.output stub.text session.folder after.folder after.output ∧
      code.getD 0 = if generation.strict && stub.hasErrors then 1 else 0 := by
  obtain ⟨opened, before, loads⟩ := generate_loaded makes.loaded
  obtain ⟨passed, during, concludes⟩ := conclude_made opened makes.assembled makes.passes
  have folder : passed.folder = session.folder := during.folder.trans before.folder
  have output : passed.output = [] := (during.output.trans before.output).trans fresh
  rw [← folder] at admits ⊢
  obtain ⟨after, delivered, puts⟩ := put_out_run output admits
  have runs := (loads.trans concludes).trans puts
  unfold execute
  dsimp only
  cases incomplete : generation.strict && stub.hasErrors with
  | true =>
      rw [incomplete] at runs
      exact ⟨_, _, guarded_failed _ _ runs, delivered, rfl⟩
  | false =>
      rw [incomplete] at runs
      exact ⟨_, _, guarded_done _ _ runs, delivered, rfl⟩

theorem generate_fails (fails : generation.Fails surroundings session.folder) :
    ∃ failure after, session.Kept after ∧
      (generate surroundings generation).run session = .error (.failure failure) after := by
  cases fails with
  | settings refused => exact ⟨_, session, ⟨rfl, rfl, rfl⟩, generate_refused refused⟩
  | @source settings cause loaded broken =>
      obtain ⟨opened, kept, loads⟩ := generate_loaded loaded
      have unmade := (generation.assembled_error_iff surroundings session.folder).2 broken
      exact ⟨_, opened, kept, loads.trans (conclude_broken unmade)⟩
  | stub loaded assembled checked refused =>
      obtain ⟨opened, kept, loads⟩ := generate_loaded loaded
      obtain ⟨failure, stopped⟩ := conclude_refused opened assembled checked refused
      exact ⟨failure, opened, kept, loads.trans stopped⟩

theorem execute_fails (fails : generation.Fails surroundings session.folder) :
    ∃ failure after, session.Kept after ∧
      execute surroundings (.generate generation) session =
        (some 1, reported "generate" "Stub generation failed" failure after) := by
  obtain ⟨failure, after, kept, failed⟩ := generate_fails fails
  exact ⟨failure, after, kept, guarded_failed _ _ failed⟩

/-- A request comes to a stub or fails, and not both. -/
theorem makes_iff {folder : Folder} :
    (∃ settings stub, generation.Makes surroundings folder settings stub) ↔
      ¬ generation.Fails surroundings folder := by
  constructor
  · rintro ⟨settings, stub, loaded, assembled, passes⟩ fails
    cases fails with
    | settings refused =>
        rw [loaded] at refused
        cases refused
    | source again broken =>
        rw [loaded] at again
        cases again
        have unmade := (generation.assembled_error_iff surroundings folder).2 broken
        cases unmade.symm.trans assembled
    | stub again other checked refused =>
        rw [loaded] at again
        cases again
        rw [assembled] at other
        cases other
        exact refused (passes checked)
  · intro whole
    cases loaded : generation.settings surroundings folder with
    | error error => exact absurd (.settings loaded) whole
    | ok settings =>
        cases made : generation.assembled surroundings folder settings with
        | error cause =>
            exact absurd (.source loaded ((generation.assembled_error_iff _ _).1 made)) whole
        | ok stub =>
            refine ⟨settings, stub, loaded, made, ?_⟩
            intro checked
            exact Classical.byContradiction fun refused =>
              whole (.stub loaded made checked refused)

end

section

variable {surroundings : Surroundings} {arguments : List String} {generation : Generation}
  {applied : Logging.Applied}

theorem perform_makes {settings : Settings} {stub : Stub}
    (asked : Request.ofArguments surroundings.folder arguments = .ok (.generate generation))
    (ready : (surroundings.logging (.generate generation)).outcome = .ok applied)
    (makes : generation.Makes surroundings (surroundings.logging (.generate generation)).folder
      settings stub)
    (admits : Admits (surroundings.logging (.generate generation)).folder generation.output
      stub.text) :
    Delivered generation.output stub.text (surroundings.logging (.generate generation)).folder
        (perform surroundings arguments).session.folder
        (perform surroundings arguments).session.output ∧
      (perform surroundings arguments).exit =
        if generation.strict && stub.hasErrors then 1 else 0 := by
  obtain ⟨session, code, after, folder, silent, -, executes, exits, ends⟩ :=
    perform_ready asked ready
  rw [exits, ends]
  rw [← folder] at makes admits ⊢
  obtain ⟨_, _, executes', delivered, status⟩ := execute_makes silent makes admits
  rw [executes] at executes'
  cases executes'
  exact ⟨delivered, status⟩

theorem perform_fails
    (asked : Request.ofArguments surroundings.folder arguments = .ok (.generate generation))
    (ready : (surroundings.logging (.generate generation)).outcome = .ok applied)
    (fails : generation.Fails surroundings
      (surroundings.logging (.generate generation)).folder) :
    (perform surroundings arguments).session.output = [] ∧
      (perform surroundings arguments).session.folder =
        (surroundings.logging (.generate generation)).folder ∧
      (perform surroundings arguments).exit = 1 ∧
      ∃ failure : Failure, (perform surroundings arguments).session.displays.filter isPanel =
        [failure.panel "Stub generation failed"] := by
  obtain ⟨session, code, after, folder, silent, blank, executes, exits, ends⟩ :=
    perform_ready asked ready
  rw [exits, ends]
  rw [← folder] at fails ⊢
  obtain ⟨failure, stopped, kept, executes'⟩ := execute_fails fails
  rw [executes] at executes'
  cases executes'
  refine ⟨kept.output.trans silent, kept.folder, rfl, failure, ?_⟩
  rw [Steps.reported, kept.displays, blank, List.nil_append]
  exact failure.panels _

/-- Once logging is set up, a request comes to a stub exactly if the settings load, the source does
not break and the stub passes the check that may have been asked for. The stub is then put out as it
is, on the standard output without control sequences, and only a strict request fails on its errors.
If there is no stub, nothing is put out or written, and one panel shows why. -/
theorem perform_generate
    (asked : Request.ofArguments surroundings.folder arguments = .ok (.generate generation))
    (ready : (surroundings.logging (.generate generation)).outcome = .ok applied) :
    let folder := (surroundings.logging (.generate generation)).folder
    let outcome := perform surroundings arguments
    ((∃ settings stub, generation.Makes surroundings folder settings stub) ↔
        ¬ generation.Fails surroundings folder) ∧
      (∀ settings stub, generation.Makes surroundings folder settings stub →
        Admits folder generation.output stub.text →
        Delivered generation.output stub.text folder outcome.session.folder
            outcome.session.output ∧
          outcome.exit = if generation.strict && stub.hasErrors then 1 else 0) ∧
      (generation.Fails surroundings folder →
        outcome.session.output = [] ∧ outcome.session.folder = folder ∧ outcome.exit = 1 ∧
          ∃ failure : Failure, outcome.session.displays.filter isPanel =
            [failure.panel "Stub generation failed"]) :=
  ⟨makes_iff, fun _ _ => perform_makes asked ready, perform_fails asked ready⟩

end

/-- The stub of an extension that no interpreter is there for: it is written to the file, and then
the strict request fails. -/
theorem perform_generate_strict :
    let surroundings : Surroundings :=
      { run := .notFound, logConfig := some "none.yaml", check := .ok ∘ .ofSource, rooms := .usual }
    let arguments := ["generate", "m", "--output", "out/m.php", "--strict"]
    let path := Path.ofText "out/m.php"
    let generation : Generation := { extension := "m", output := some path, strict := true }
    ∃ settings stub chars, generation.Makes surroundings {} settings stub ∧
      Admits {} (some path) stub.text ∧ stub.hasErrors = true ∧
      (perform surroundings arguments).session.output = [] ∧
      Text.encodable stub.text = .ok chars ∧
      (perform surroundings arguments).session.folder.find path =
        .octets (Text.encodeChars chars) ∧
      (perform surroundings arguments).exit = 1 := by
  intro surroundings arguments path generation
  have asked : Request.ofArguments surroundings.folder arguments = .ok (.generate generation) := rfl
  have ready : (surroundings.logging (.generate generation)).outcome = .ok (.basic 20) := rfl
  have folder : (surroundings.logging (.generate generation)).folder = {} := rfl
  let settings := Settings.defaults none
  let renderer : Renderer := { settings with room := surroundings.rooms.literal }
  let stub := Stub.unreflected renderer "m" (.noBinary "php")
  have makes : generation.Makes surroundings {} settings stub := ⟨rfl, rfl, nofun⟩
  have admits : Admits {} (some path) stub.text := by
    refine ⟨⟨_, rfl⟩, ?_⟩
    rintro _ ⟨⟩
    exact ⟨_, _, rfl, rfl⟩
  have errors : stub.hasErrors = true := rfl
  have delivers := (perform_generate asked ready).2.1 settings stub
  rw [folder, errors] at delivers
  obtain ⟨⟨silent, chars, encoded, written⟩, exit⟩ := delivers makes admits
  exact ⟨settings, stub, chars, makes, admits, errors, silent, encoded, written, exit⟩

/-- A constant that resets the colour of a terminal loses its value on the standard output, although
the stub has it. -/
theorem perform_generate_unstyles :
    let printed := "\x7b\"name\":\"m\",\"constants\":\x7b\"A\":\"\\u001b[0m\"\x7d\x7d".toList
    let surroundings : Surroundings :=
      { run := .finished 0 printed [], logConfig := some "none.yaml", check := .ok ∘ .ofSource,
        rooms := .usual }
    let generation : Generation := { extension := "m" }
    ∃ stub chars, generation.assembled surroundings {} (Settings.defaults none) = .ok stub ∧
      Text.encodable stub.text = .ok chars ∧
      (perform surroundings ["generate", "m"]).exit = 0 ∧
      (perform surroundings ["generate", "m"]).session.output ≠ chars := by
  intro printed surroundings generation
  let before : Text :=
    "<?php\n/**\n * Generated stub file for code completion purposes\n */\n\nconst A='"
  let text : Text := before ++ "\x1b[0m';\n"
  -- Only the text of the stub is evaluated; what the command does with it is not run.
  have written : (generation.assembled surroundings {} (Settings.defaults none)).toOption.map
      Stub.text = some text := by decide +kernel
  cases made : generation.assembled surroundings {} (Settings.defaults none) with
  | error cause =>
      rw [made] at written
      cases written
  | ok stub =>
      rw [made] at written
      have same : stub.text = text := Option.some.inj written
      have encoded : Text.encodable stub.text = .ok text.replaced := by
        rw [same]
        rfl
      have styled : stub.text.HasSequence := by
        rw [same]
        exact ⟨before, _, _, rfl, rfl⟩
      have asked : Request.ofArguments surroundings.folder ["generate", "m"] =
          .ok (.generate generation) := rfl
      have ready : (surroundings.logging (.generate generation)).outcome = .ok (.basic 20) := rfl
      have makes : generation.Makes surroundings
          (surroundings.logging (.generate generation)).folder (Settings.defaults none) stub :=
        ⟨rfl, made, nofun⟩
      have complete : (generation.strict && stub.hasErrors) = false := rfl
      obtain ⟨⟨-, whole_iff, -⟩, exit⟩ := perform_makes asked ready makes ⟨⟨_, encoded⟩, nofun⟩
      rw [complete, if_neg Bool.false_ne_true] at exit
      refine ⟨stub, text.replaced, rfl, encoded, exit, ?_⟩
      intro unchanged
      rw [unchanged] at whole_iff
      exact whole_iff.1 encoded styled

end Stubwright.Command
