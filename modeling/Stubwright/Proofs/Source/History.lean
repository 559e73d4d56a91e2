import Stubwright.Dump

/-!
A dump over time. While its file cannot be read, every question is answered as by a dump that was
opened just now. The first question that is asked while the file can be read settles the extensions,
and all later answers follow from these alone, whatever becomes of the file.
-/

namespace Stubwright.Dump

/-- What can happen to a dump: it is asked for one extension or for the names of all, or its file is
replaced. -/
inductive Action where
  | reflect (extension : Text)
  | available
  | replace (file : FileContent)

namespace Action

def asks : Action → Bool
  | reflect _ => true
  | available => true
  | replace _ => false

def leaves (found : FileContent) : Action → FileContent
  | reflect _ => found
  | available => found
  | replace file => file

end Action

inductive Answer where
  | extension (outcome : Except SourceFailure Extension)
  | names (outcome : Except SourceFailure (List Text))
  | replaced

def perform (action : Action) (dump : Dump) : Answer × Dump × List Record :=
  match action with
  | .reflect extension =>
      let (outcome, after, records) := dump.reflect extension
      (.extension outcome, after, records)
  | .available =>
      let (outcome, after, records) := dump.available
      (.names outcome, after, records)
  | .replace file => (.replaced, dump.write file, [])

def run : List Action → Dump → List Answer × Dump × List Record
  | [], dump => ([], dump, [])
  | action :: actions, dump =>
      let (answer, next, records) := dump.perform action
      let (answers, last, later) := run actions next
      (answer :: answers, last, records ++ later)

def answerFrom (path : Text) (contents : Except SourceFailure (List Extension)) :
    Action → Answer
  | .reflect extension => .extension (contents.bind (find path extension))
  | .available => .names (contents.map fun extensions => extensions.map (·.name))
  | .replace _ => .replaced

def attended : FileContent → List Action → List (FileContent × Action)
  | _, [] => []
  | found, action :: actions => (found, action) :: attended (action.leaves found) actions

def fileAfter (file : FileContent) (actions : List Action) : FileContent :=
  actions.foldl Action.leaves file

/-- Whether every question is asked while the file cannot be read. -/
def NeverLoads (path : Text) (room : Yaml.Room) (file : FileContent) (actions : List Action) :
    Prop :=
  ∀ entry ∈ attended file actions, entry.2.asks = true →
    ∃ failure, readFile path room entry.1 = .error failure

def afresh (path : Text) (room : Yaml.Room) (file : FileContent) (actions : List Action) :
    List Answer :=
  (attended file actions).map fun entry => (perform entry.2 { path, room, file := entry.1 }).1

/-- The two courses that actions on an unread dump can take. Either no question comes upon a
readable file, and the dump stays unread; or the first that does settles the extensions, and the
file is not read again. -/
inductive Course (path : Text) (room : Yaml.Room) (file : FileContent) :
    List Action → List Answer × Dump × List Record → Prop where
  | unread {actions : List Action} (never : NeverLoads path room file actions) :
      Course path room file actions
        (afresh path room file actions, { path, room, file := fileAfter file actions }, [])
  | settled {before after : List Action} {question : Action} {extensions : List Extension}
      (never : NeverLoads path room file before) (asks : question.asks = true)
      (read : readFile path room (fileAfter file before) = .ok extensions) :
      Course path room file (before ++ question :: after)
        (afresh path room file before ++ (question :: after).map (answerFrom path (.ok extensions)),
          { path, room, file := fileAfter file (before ++ question :: after),
            loaded := some extensions },
          [loadedRecord path extensions])

/-- What a name is looked up as: the first extension of that name in any letter case; or else a lone
extension without a name, which takes this one; or else all the names that there are. -/
inductive LookedUp (path extension : Text) :
    List Extension → Except SourceFailure Extension → Prop where
  | first {before after : List Extension} {found : Extension}
      (others : ∀ other ∈ before, Text.lowercase other.name ≠ Text.lowercase extension)
      (same : Text.lowercase found.name = Text.lowercase extension) :
      LookedUp path extension (before ++ found :: after) (.ok found)
  | unnamed {only : Extension} (other : Text.lowercase only.name ≠ Text.lowercase extension)
      (nameless : only.name = []) :
      LookedUp path extension [only] (.ok { only with name := extension })
  | missing {extensions : List Extension}
      (others : ∀ other ∈ extensions, Text.lowercase other.name ≠ Text.lowercase extension)
      (named : ∀ only, extensions = [only] → only.name ≠ []) :
      LookedUp path extension extensions
        (.error (.known (.notInDump extension path (extensions.map (·.name)))))

theorem find_none_iff (extension : Text) (extensions : List Extension) :
    (extensions.find? fun candidate => sameExtensionName candidate.name extension) = none ↔
      ∀ other ∈ extensions, Text.lowercase other.name ≠ Text.lowercase extension := by
  simp [sameExtensionName]

theorem find_some_iff (extension : Text) (extensions : List Extension) (found : Extension) :
    (extensions.find? fun candidate => sameExtensionName candidate.name extension) = some found ↔
      Text.lowercase found.name = Text.lowercase extension ∧
        ∃ before after, extensions = before ++ found :: after ∧
          ∀ other ∈ before, Text.lowercase other.name ≠ Text.lowercase extension := by
  simp [List.find?_eq_some_iff_append, sameExtensionName]

theorem find_eq_iff (path extension : Text) (extensions : List Extension)
    (outcome : Except SourceFailure Extension) :
    find path extension extensions = outcome ↔ LookedUp path extension extensions outcome := by
  constructor
  · rintro rfl
    unfold find
    split
    case h_1 found among =>
      obtain ⟨same, before, after, rfl, others⟩ :=
        (find_some_iff extension extensions found).1 among
      exact .first others same
    case h_2 absent =>
      have others := (find_none_iff extension extensions).1 absent
      dsimp only
      split
      case h_1 only =>
        split
        case isTrue nameless => exact .unnamed (others only (by simp)) nameless
        case isFalse named =>
          refine .missing others ?_
          rintro _ ⟨⟩
          exact named
      case h_2 several => exact .missing others fun only lone => absurd lone (several only)
  · intro looked
    cases looked with
    | first others same =>
        rw [find, (find_some_iff extension _ _).2 ⟨same, _, _, rfl, others⟩]
    | @unnamed only other nameless =>
        have absent := (find_none_iff extension [only]).2 (by simpa using other)
        rw [find, absent]
        dsimp only
        rw [if_pos nameless]
    | missing others named =>
        rw [find, (find_none_iff extension extensions).2 others]
        dsimp only
        split
        case h_1 only => rw [if_neg (named only rfl)]
        case h_2 => rfl

section

variable (action : Action) (dump : Dump)

/-- A dump that has been read answers from what it holds, and no look-up changes it. -/
theorem perform_loaded {extensions : List Extension} (loaded : dump.loaded = some extensions) :
    dump.perform action =
      (answerFrom dump.path (.ok extensions) action,
        { dump with file := action.leaves dump.file }, []) := by
  obtain ⟨path, room, file, known⟩ := dump
  cases loaded
  cases action <;> rfl

theorem perform_failing (asks : action.asks = true) (unread : dump.loaded = none)
    {failure : SourceFailure} (failed : readFile dump.path dump.room dump.file = .error failure) :
    dump.perform action = (answerFrom dump.path (.error failure) action, dump, []) := by
  cases action with
  | reflect extension => simp [perform, reflect, extensions, unread, failed, answerFrom]
  | available => simp [perform, available, extensions, unread, failed, answerFrom]
  | replace file => cases asks

theorem perform_loading (asks : action.asks = true) (unread : dump.loaded = none)
    {extensions : List Extension} (read : readFile dump.path dump.room dump.file = .ok extensions) :
    dump.perform action =
      (answerFrom dump.path (.ok extensions) action, { dump with loaded := some extensions },
        [loadedRecord dump.path extensions]) := by
  cases action with
  | reflect extension => simp [perform, reflect, Dump.extensions, unread, read, answerFrom]
  | available => simp [perform, available, Dump.extensions, unread, read, answerFrom]
  | replace file => cases asks

end

theorem Action.leaves_of_asks {action : Action} (asks : action.asks = true) (file : FileContent) :
    action.leaves file = file := by
  cases action with
  | reflect extension => rfl
  | available => rfl
  | replace file => cases asks

/-- An action that does not come upon a readable file leaves the dump unread. -/
theorem perform_unread (path : Text) (room : Yaml.Room) (file : FileContent) (action : Action)
    (fails : action.asks = true → ∃ failure, readFile path room file = .error failure) :
    perform action { path, room, file } =
      ((perform action { path, room, file }).1, { path, room, file := action.leaves file },
        []) := by
  cases asks : action.asks with
  | true =>
      obtain ⟨failure, failed⟩ := fails asks
      have step := perform_failing action { path, room, file } asks rfl failed
      rw [step, Action.leaves_of_asks asks]
  | false =>
      cases action with
      | reflect extension => cases asks
      | available => cases asks
      | replace file => rfl

theorem run_loaded (actions : List Action) (dump : Dump) {extensions : List Extension}
    (loaded : dump.loaded = some extensions) :
    run actions dump =
      (actions.map (answerFrom dump.path (.ok extensions)),
        { dump with file := fileAfter dump.file actions }, []) := by
  induction actions generalizing dump with
  | nil => rfl
  | cons action actions ih =>
      rw [run, perform_loaded action dump loaded]
      dsimp only
      rw [ih { dump with file := action.leaves dump.file } loaded]
      rfl

theorem never_loads_cons (path : Text) (room : Yaml.Room) (file : FileContent) (action : Action)
    (actions : List Action) :
    NeverLoads path room file (action :: actions) ↔
      (action.asks = true → ∃ failure, readFile path room file = .error failure) ∧
        NeverLoads path room (action.leaves file) actions := by
  simp [NeverLoads, attended]

/-- An action that does not come upon a readable file only goes before the course of the others. -/
theorem Course.cons {path : Text} {room : Yaml.Room} {file : FileContent} {action : Action}
    {actions : List Action} {answers : List Answer} {last : Dump} {records : List Record}
    (fails : action.asks = true → ∃ failure, readFile path room file = .error failure)
    (course : Course path room (action.leaves file) actions (answers, last, records)) :
    Course path room file (action :: actions)
      ((perform action { path, room, file }).1 :: answers, last, records) := by
  cases course with
  | unread never =>
      exact .unread ((never_loads_cons path room file action actions).2 ⟨fails, never⟩)
  | @settled before _ _ _ never asks read =>
      exact .settled ((never_loads_cons path room file action before).2 ⟨fails, never⟩) asks read

theorem run_course (path : Text) (room : Yaml.Room) (file : FileContent) (actions : List Action) :
    Course path room file actions (run actions { path, room, file }) := by
  induction actions generalizing file with
  | nil => exact .unread (by simp [NeverLoads, attended])
  | cons action actions ih =>
      by_cases loads : action.asks = true ∧ ∃ extensions, readFile path room file = .ok extensions
      · obtain ⟨asks, extensions, read⟩ := loads
        have kept : fileAfter file (action :: actions) = fileAfter file actions := by
          rw [fileAfter, List.foldl_cons, Action.leaves_of_asks asks]
          rfl
        have never : NeverLoads path room file [] := by simp [NeverLoads, attended]
        have course : Course path room file ([] ++ action :: actions) _ := .settled never asks read
        rw [List.nil_append, kept] at course
        rw [run, perform_loading action { path, room, file } asks rfl read]
        dsimp only
        rw [run_loaded actions _ rfl]
        exact course
      · have fails : action.asks = true → ∃ failure, readFile path room file = .error failure := by
          intro asks
          cases read : readFile path room file with
          | ok extensions => exact absurd ⟨asks, extensions, read⟩ loads
          | error failure => exact ⟨failure, rfl⟩
        rw [run, perform_unread path room file action fails]
        exact .cons fails (ih (action.leaves file))

/-- A dump over time, from an unread one. As long as no question comes upon a readable file, every
answer is that of a dump that was opened just now, which is the failure of the file, and the dump
stays unread. The first question that does come upon one settles the extensions: from there on all
answers follow from them alone. Looked up in them is the first of the name, or else a lone one
without a name, or else there is an error that lists them all. -/
theorem run_answers (path : Text) (room : Yaml.Room) (file : FileContent) (actions : List Action) :
    Course path room file actions (run actions { path, room, file }) ∧
      (∀ found question failure, question.asks = true → readFile path room found = .error failure →
        perform question { path, room, file := found } =
          (answerFrom path (.error failure) question, { path, room, file := found }, [])) ∧
      ∀ extension extensions outcome,
        find path extension extensions = outcome ↔ LookedUp path extension extensions outcome := by
  refine ⟨run_course path room file actions, ?_, find_eq_iff path⟩
  intro found question failure asks failed
  exact perform_failing question { path, room, file := found } asks rfl failed

/-- A file that comes too late for the first question, and goes before the last. -/
example :
    (run [.available, .replace (.octets (Text.encodeChars "\x7b\x7d".toList)), .reflect "b",
        .replace .missing, .available] { path := "d", room := .ofDepth 1, file := .missing }).1 =
      [.names (.error (.known (.unreadableDump "d"))), .replaced, .extension (.ok (.empty "b")),
        .replaced, .names (.ok [""])] := by
  cbv

end Stubwright.Dump
