import Stubwright.Proofs.Stub.Isolation
import Stubwright.Stub.Reflected

/-!
Sources that fail. A source that fails for a reason of its own leaves an empty stub with one error.
It breaks only where the bytes that it reads are no text, where the readers of YAML and JSON give a
text up without calling it malformed, or where the system cannot start a run or wait for it; then
there is no stub.
-/

namespace Stubwright

namespace Dump

theorem extension_values_known (path : Text) (value : Value) (cause : Breakage) :
    extensionValues path value ≠ .error (.broken cause) := by
  intro broken
  unfold extensionValues at broken
  split at broken
  · split at broken <;> cases broken
  · cases broken

/-- Metadata that is not valid is refused, whatever is wrong with it. -/
theorem read_extensions_known (path : Text) (values : List Value) (cause : Breakage) :
    readExtensions path values ≠ .error (.broken cause) := by
  induction values with
  | nil =>
      intro broken
      cases broken
  | cons value values ih =>
      intro broken
      rw [readExtensions] at broken
      split at broken
      · cases broken
      · cases later : readExtensions path values with
        | error failure =>
            rw [later] at broken ih
            cases broken
            exact ih rfl
        | ok extensions =>
            rw [later] at broken
            cases broken

theorem find_known (path extension : Text) (extensions : List Extension) (cause : Breakage) :
    find path extension extensions ≠ .error (.broken cause) := by
  intro broken
  unfold find at broken
  split at broken
  · cases broken
  · split at broken
    · split at broken <;> cases broken
    · cases broken

/-- Only the reader of the file can break, and it does so with every failure that is neither the
system's nor called malformed. -/
theorem read_file_broken_iff (path : Text) (room : Yaml.Room) (file : FileContent)
    (cause : Breakage) :
    readFile path room file = .error (.broken cause) ↔
      ∃ fault, file.yaml room = .error fault ∧ fault ≠ .unreadable ∧ fault ≠ .document .malformed ∧
        cause = .file fault := by
  unfold readFile
  split
  case h_1 malformed =>
    rw [malformed]
    simp
  case h_2 unreadable =>
    rw [unreadable]
    simp
  case h_3 fault formed readable broken =>
    rw [broken]
    constructor
    · intro same
      cases same
      exact ⟨fault, rfl, readable, formed, rfl⟩
    · rintro ⟨other, same, -, -, rfl⟩
      cases same
      rfl
  case h_4 value read =>
    constructor
    · intro broken
      cases values : extensionValues path value with
      | error failure =>
          rw [values] at broken
          cases broken
          exact absurd values (extension_values_known path value cause)
      | ok values' =>
          rw [values] at broken
          exact absurd broken (read_extensions_known path values' cause)
    · rintro ⟨fault, failed, -⟩
      rw [read] at failed
      cases failed

/-- A dump that was read once is not read again, so it cannot break any more. -/
theorem reflect_broken_iff (extension : Text) (dump : Dump) (cause : Breakage) :
    (dump.reflect extension).1 = .error (.broken cause) ↔
      dump.loaded = none ∧ readFile dump.path dump.room dump.file = .error (.broken cause) := by
  rw [reflect, extensions]
  cases dump.loaded with
  | some known => simp [Except.bind, find_known]
  | none =>
      cases readFile dump.path dump.room dump.file with
      | ok known => simp [Except.bind, find_known]
      | error failure => simp [Except.bind]

end Dump

namespace Reflector

variable {reflector : Reflector} {extension : Text} {run : Run} {cause : Breakage}

theorem read_output_broken_iff {room : Nat} {output : List Char} :
    readOutput room extension output = .error (.broken cause) ↔
      ∃ fault, Json.ofChars room output = .error fault ∧ fault ≠ .malformed ∧
        cause = .output fault := by
  unfold readOutput
  split
  case h_1 malformed =>
    rw [malformed]
    simp
  case h_2 fault formed broken =>
    rw [broken]
    constructor
    · intro same
      cases same
      exact ⟨fault, rfl, formed, rfl⟩
    · rintro ⟨other, same, -, rfl⟩
      cases same
      rfl
  case h_3 value read =>
    rw [read]
    split <;> simp

inductive RunBreaks (reflector : Reflector) : Run → Breakage → Prop where
  | text (flaw : Text.Flaw) : RunBreaks reflector (.undecodable flaw) (.file (.undecodable flaw))
  | waiting (reason : Text) : RunBreaks reflector (.unwaited reason) (.waiting reason)
  | output {output errors : List Char} {fault : Json.Fault}
      (broken : Json.ofChars reflector.room output = .error fault) (formed : fault ≠ .malformed) :
      RunBreaks reflector (.finished 0 output errors) (.output fault)

theorem read_run_broken_iff :
    reflector.readRun extension run = .error (.broken cause) ↔ reflector.RunBreaks run cause := by
  constructor
  · intro broken
    cases run with
    | notFound => cases broken
    | timedOut => cases broken
    | failed reason => cases broken
    | unwaited reason =>
        cases broken
        exact .waiting reason
    | undecodable flaw =>
        cases broken
        exact .text flaw
    | finished code output errors =>
        rw [readRun] at broken
        split at broken
        next => cases broken
        next =>
          split at broken
          next => cases broken
          next succeeded =>
            obtain ⟨fault, failed, formed, rfl⟩ := read_output_broken_iff.1 broken
            rw [Decidable.not_not.1 succeeded]
            exact .output failed formed
  · rintro (⟨flaw⟩ | ⟨reason⟩ | ⟨failed, formed⟩)
    · rfl
    · rfl
    · exact read_output_broken_iff.2 ⟨_, failed, formed, rfl⟩

/-- Nothing is run under a name that is none for the system. -/
theorem reflect_broken_iff :
    reflector.reflect extension run = .error (.broken cause) ↔
      (∃ unfit, reflector.unfit? extension = some unfit ∧ cause = .argument unfit) ∨
        (reflector.unfit? extension = none ∧ reflector.RunBreaks run cause) := by
  rw [reflect]
  cases reflector.unfit? extension with
  | some unfit => simp [eq_comm]
  | none => simp [read_run_broken_iff]

end Reflector

namespace Source

inductive Breaks (extension : Text) : Source → Breakage → Prop where
  | file {dump : Dump} {fault : FileError} (unread : dump.loaded = none)
      (broken : dump.file.yaml dump.room = .error fault) (readable : fault ≠ .unreadable)
      (formed : fault ≠ .document .malformed) : Breaks extension (.stored dump) (.file fault)
  | argument {reflector : Reflector} {run : Run} {unfit : Text.Unfit}
      (refused : reflector.unfit? extension = some unfit) :
      Breaks extension (.live reflector run) (.argument unfit)
  | run {reflector : Reflector} {run : Run} {cause : Breakage}
      (started : reflector.unfit? extension = none) (breaks : reflector.RunBreaks run cause) :
      Breaks extension (.live reflector run) cause

theorem reflect_broken_iff (extension : Text) (source : Source) (cause : Breakage) :
    (source.reflect extension).1 = .error (.broken cause) ↔ source.Breaks extension cause := by
  cases source with
  | stored dump =>
      change (dump.reflect extension).1 = _ ↔ _
      rw [Dump.reflect_broken_iff, Dump.read_file_broken_iff]
      constructor
      · rintro ⟨unread, fault, broken, readable, formed, rfl⟩
        exact .file unread broken readable formed
      · rintro ⟨unread, broken, readable, formed⟩
        exact ⟨unread, _, broken, readable, formed, rfl⟩
  | live reflector run =>
      change reflector.reflect extension run = _ ↔ _
      rw [Reflector.reflect_broken_iff]
      constructor
      · rintro (⟨unfit, refused, rfl⟩ | ⟨started, breaks⟩)
        · exact .argument refused
        · exact .run started breaks
      · intro breaks
        cases breaks with
        | argument refused => exact .inl ⟨_, refused, rfl⟩
        | run started breaks => exact .inr ⟨started, breaks⟩

end Source

namespace Stub

/-- An extension that nothing is known of has no constructs, so its stub is the header and holds the
diagnostics that were there before. -/
theorem of_extension_empty (renderer : Renderer) (earlier : List Diagnostic) (name : Text) :
    (ofExtension renderer earlier (.empty name)).text = Partition.header renderer ∧
      (ofExtension renderer earlier (.empty name)).extension = .empty name ∧
      (ofExtension renderer earlier (.empty name)).diagnostics = earlier :=
  ⟨rfl, rfl, rfl⟩

theorem of_source_outcome (renderer : Renderer) (extension : Text) (source : Source) :
    (ofSource renderer extension source).1 =
      match (source.reflect extension).1 with
      | .ok metadata => .ok (ofExtension renderer [] metadata)
      | .error (.known error) => .ok (unreflected renderer extension error)
      | .error (.broken cause) => .error cause := by
  unfold ofSource
  rcases source.reflect extension with ⟨(error | cause) | metadata, records⟩ <;> rfl

theorem of_source_unmade_iff (renderer : Renderer) (extension : Text) (source : Source)
    (cause : Breakage) :
    (ofSource renderer extension source).1 = .error cause ↔
      (source.reflect extension).1 = .error (.broken cause) := by
  rw [of_source_outcome]
  rcases (source.reflect extension).1 with (error | other) | metadata <;> simp

/-- There is no stub exactly if the source breaks. Otherwise the stub is that of the metadata, or if
the source has none for any reason of its own, it is the header, of an extension that nothing but
the name is known of, with one error that names the extension. -/
theorem of_source_degrades (renderer : Renderer) (extension : Text) (source : Source) :
    (∀ cause, (ofSource renderer extension source).1 = .error cause ↔
        source.Breaks extension cause) ∧
      (∀ metadata, (source.reflect extension).1 = .ok metadata →
        (ofSource renderer extension source).1 = .ok (ofExtension renderer [] metadata)) ∧
      ((∀ cause, ¬ source.Breaks extension cause) →
        (∀ metadata, (source.reflect extension).1 ≠ .ok metadata) →
        ∃ stub error, (ofSource renderer extension source).1 = .ok stub ∧
          stub.text = Partition.header renderer ∧ stub.extension = .empty extension ∧
          (source.reflect extension).1 = .error (.known error) ∧
          stub.diagnostics = [⟨.error, extension, error.message⟩]) := by
  have breaks := fun cause => source.reflect_broken_iff extension cause
  rw [of_source_outcome]
  cases reflected : (source.reflect extension).1 with
  | ok metadata =>
      refine ⟨?_, ?_, ?_⟩
      · intro cause
        rw [← breaks, reflected]
        simp
      · rintro _ ⟨⟩
        rfl
      · intro _ missing
        exact absurd rfl (missing metadata)
  | error failure =>
      cases failure with
      | known error =>
          refine ⟨?_, ?_, ?_⟩
          · intro cause
            rw [← breaks, reflected]
            simp
          · rintro _ ⟨⟩
          · intro _ _
            obtain ⟨header, nothing, alone⟩ :=
              of_extension_empty renderer [⟨.error, extension, error.message⟩] extension
            exact ⟨unreflected renderer extension error, error, rfl, header, nothing, rfl, alone⟩
      | broken cause =>
          refine ⟨?_, ?_, ?_⟩
          · intro other
            rw [← breaks, reflected]
            simp
          · rintro _ ⟨⟩
          · intro whole
            exact absurd ((breaks cause).1 reflected) (whole cause)

/-- A dump that starts with a byte that starts no character breaks, and there is no stub for it. -/
theorem undecodable_dump_breaks :
    let dump : Dump := { path := "dump.yaml", room := .ofDepth 100, file := .octets [0xff] }
    let renderer : Renderer := { Settings.defaults none with room := fun _ => .ofFrames 900 }
    (ofSource renderer "m" (.stored dump)).1 =
      .error (.file (.undecodable ⟨.badStart, 0, [0xff]⟩)) := by
  rfl

end Stub

end Stubwright
