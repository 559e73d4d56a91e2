import Stubwright.Declaration
import Stubwright.Diagnostic
import Stubwright.Literal
import Stubwright.Settings

/-!
A rendering either yields text or fails, and gives warnings on the way. It writes them into the
journal that the whole stub shares, behind what is there already; what it does depends on nothing
in the journal, and it can only add to it.
-/

namespace Stubwright

/-- The places where literals stand. The calls around them differ from one to the other. -/
inductive Site where
  | constant
  | default
  | classConstant
  | methodDefault

structure Renderer extends Settings where
  room : Site → Literal.Room

instance : Coe Renderer Settings := ⟨Renderer.toSettings⟩

/-- What is written down while a stub is made: its diagnostics, and what was reported. -/
structure Journal where
  diagnostics : List Diagnostic := []
  records : List Record := []

namespace Journal

instance : Append Journal where
  append earlier later :=
    ⟨earlier.diagnostics ++ later.diagnostics, earlier.records ++ later.records⟩

@[simp] theorem append_diagnostics (earlier later : Journal) :
    (earlier ++ later).diagnostics = earlier.diagnostics ++ later.diagnostics := rfl

@[simp] theorem append_records (earlier later : Journal) :
    (earlier ++ later).records = earlier.records ++ later.records := rfl

theorem append_assoc (first second third : Journal) :
    first ++ second ++ third = first ++ (second ++ third) := by
  change mk _ _ = mk _ _
  rw [append_diagnostics, append_records, List.append_assoc, List.append_assoc]
  rfl

theorem append_empty (journal : Journal) : journal ++ ({} : Journal) = journal := by
  change mk (_ ++ []) (_ ++ []) = journal
  rw [List.append_nil, List.append_nil]

/-- A warning is also reported as it is given. -/
def warned (construct message : Text) (journal : Journal) : Journal where
  diagnostics := journal.diagnostics ++ [⟨.warning, construct, message⟩]
  records := journal.records ++ [⟨.members, .warning, construct ++ ": " ++ message⟩]

end Journal

structure Rendering (α : Type) where
  run : Journal → Except RenderError α × Journal
  /-- A journal that was begun is continued like an empty one. -/
  frame : ∀ journal, run journal = ((run {}).1, journal ++ (run {}).2)
  only_warns : ∀ diagnostic ∈ (run {}).2.diagnostics, diagnostic.severity = .warning

namespace Rendering

variable {α β : Type}

def outcome (rendering : Rendering α) : Except RenderError α := (rendering.run {}).1

def warnings (rendering : Rendering α) : List Diagnostic := (rendering.run {}).2.diagnostics

def records (rendering : Rendering α) : List Record := (rendering.run {}).2.records

def lift (outcome : Except RenderError α) : Rendering α where
  run journal := (outcome, journal)
  frame journal := by rw [journal.append_empty]
  only_warns _ member := by cases member

def warn (construct message : Text) : Rendering Unit where
  run journal := (.ok (), journal.warned construct message)
  frame _ := rfl
  only_warns diagnostic member := by
    rw [List.mem_singleton.1 member]

/-- What was written before a failure stays written. -/
def continueWith (next : α → Rendering β) :
    Except RenderError α × Journal → Except RenderError β × Journal
  | (.ok value, journal) => (next value).run journal
  | (.error cause, journal) => (.error cause, journal)

def bind (first : Rendering α) (next : α → Rendering β) : Rendering β where
  run journal := continueWith next (first.run journal)
  frame journal := by
    rw [first.frame journal]
    rcases first.run {} with ⟨cause | value, written⟩
    · rfl
    · simp only [continueWith]
      rw [(next value).frame (journal ++ written), (next value).frame written,
        Journal.append_assoc]
  only_warns := by
    have before := first.only_warns
    generalize first.run {} = reached at before ⊢
    obtain ⟨cause | value, written⟩ := reached
    · exact before
    · simp only [continueWith]
      rw [(next value).frame written]
      intro diagnostic member
      rcases List.mem_append.1 member with earlier | later
      · exact before diagnostic earlier
      · exact (next value).only_warns diagnostic later

instance : Monad Rendering where
  pure value := lift (.ok value)
  bind := bind

theorem run_eq (rendering : Rendering α) (journal : Journal) :
    rendering.run journal =
      (rendering.outcome, journal ++ ⟨rendering.warnings, rendering.records⟩) :=
  rendering.frame journal

@[simp] theorem pure_outcome (value : α) : (pure value : Rendering α).outcome = .ok value := rfl

@[simp] theorem lift_outcome (outcome : Except RenderError α) :
    (lift outcome).outcome = outcome := rfl

@[simp] theorem warn_outcome (construct message : Text) :
    (warn construct message).outcome = .ok () := rfl

/-- Whether a rendering succeeds, and with what, has nothing to do with its warnings. -/
@[simp] theorem bind_outcome (first : Rendering α) (next : α → Rendering β) :
    (first >>= next).outcome = first.outcome >>= fun value => (next value).outcome := by
  change (continueWith next (first.run {})).1 = Except.bind (first.run {}).1 _
  rcases first.run {} with ⟨cause | value, written⟩
  · rfl
  · simp only [continueWith, Except.bind]
    rw [(next value).frame written]
    rfl

end Rendering

end Stubwright
