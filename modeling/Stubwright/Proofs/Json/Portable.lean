import Stubwright.Proofs.Json.Syntax
import Stubwright.Yaml.Node
import Stubwright.Yaml.Stream

/-!
The JSON texts that mean the same as YAML. YAML knows only numbers with a point and a signed
exponent, keeps the halves of a surrogate pair apart, ends lines at more characters, separates
tokens by no tabs, and has bounds of its own on the length of a key and on the nesting.
-/

namespace Stubwright

/-- There is room for that many collections in each other, whatever they hold. -/
def Yaml.Room.Admits (room : Room) (deepest : Nat) : Prop :=
  ∀ depth < deepest, ∀ tokens, room depth tokens = true

theorem Yaml.Room.of_depth_admits (deepest : Nat) : (Room.ofDepth deepest).Admits deepest :=
  fun _ below _ => decide_eq_true below

namespace Json

def Gap.IsPortable (gap : Gap) : Prop := ∀ c ∈ gap.chars, c = ' ' ∨ c = '\n'

def Letter.IsPortable : Letter → Prop
  | .plain c _ => Yaml.isAllowed c = true ∧ Yaml.isBreak c = false
  | .short _ _ _ => True
  | .numbered _ _ _ _ _ _ => True

/-- No half of a surrogate pair stands right before the other half. -/
def AreUnpaired : List Nat → Prop
  | high :: low :: rest =>
      (isHighSurrogate high && isLowSurrogate low) = false ∧ AreUnpaired (low :: rest)
  | _ => True

structure Letters.IsPortable (letters : Letters) : Prop where
  each : ∀ letter ∈ letters, letter.IsPortable
  unpaired : AreUnpaired (letters.map Letter.unit)

def Numeral.IsPortable (numeral : Numeral) : Prop :=
  ∀ exponent ∈ numeral.exponent, numeral.fraction ≠ [] ∧ exponent.sign ≠ none

/-- How far behind its start the colon after a key may stand. -/
def longestKey : Nat := 1024

/-- A key and its colon stand on one line. -/
structure Key.IsPortable (key : Key) : Prop where
  letters : key.letters.IsPortable
  before : ∀ c ∈ key.before.chars, c = ' '
  after : key.after.IsPortable
  short : key.letters.text.length + key.before.chars.length ≤ longestKey

mutual

def Tree.IsPortable : Tree → Prop
  | .word _ value _ => value = .null ∨ ∃ truth, value = .bool truth
  | .number numeral => numeral.IsPortable
  | .string letters => letters.IsPortable
  | .emptyArray gap => gap.IsPortable
  | .array gap items => gap.IsPortable ∧ items.IsPortable
  | .emptyObject gap => gap.IsPortable
  | .object gap members => gap.IsPortable ∧ members.IsPortable

def Items.IsPortable : Items → Prop
  | .last item after => item.IsPortable ∧ after.IsPortable
  | .more item after next rest =>
      item.IsPortable ∧ after.IsPortable ∧ next.IsPortable ∧ rest.IsPortable

def Members.IsPortable : Members → Prop
  | .last key value after => key.IsPortable ∧ value.IsPortable ∧ after.IsPortable
  | .more key value after next rest =>
      key.IsPortable ∧ value.IsPortable ∧ after.IsPortable ∧ next.IsPortable ∧ rest.IsPortable

end

structure Document.IsPortable (deepest : Nat) (document : Document) : Prop where
  before : document.before.IsPortable
  root : document.root.IsPortable
  after : document.after.IsPortable
  shallow : document.root.depth ≤ deepest

def IsPortable (deepest : Nat) (text : List Char) : Prop :=
  ∃ document : Document, document.text = text ∧ document.IsPortable deepest

/-! ### Characters of a portable text -/

/-- A character that YAML leaves as it is wherever it stands on a line. -/
structure IsInline (c : Char) : Prop where
  allowed : Yaml.isAllowed c = true
  onLine : Yaml.isBreak c = false
  notReturn : c ≠ '\r'

def IsPrintable (c : Char) : Prop := 0x20 ≤ c.toNat ∧ c.toNat ≤ 0x7e

instance (c : Char) : Decidable (IsPrintable c) := inferInstanceAs (Decidable (_ ∧ _))

section

variable {c : Char}

theorem IsPrintable.ne (printable : IsPrintable c) {other : Char} (isOther : ¬IsPrintable other) :
    c ≠ other := by
  rintro rfl
  exact isOther printable

theorem IsPrintable.inline (printable : IsPrintable c) : IsInline c where
  allowed := by simp [Yaml.isAllowed, printable.1, printable.2]
  onLine := by
    have others : c ≠ '\n' ∧ c ≠ '\x85' ∧ c ≠ '\u2028' ∧ c ≠ '\u2029' :=
      ⟨printable.ne (by decide), printable.ne (by decide), printable.ne (by decide),
        printable.ne (by decide)⟩
    simp [Yaml.isBreak, others]
  notReturn := printable.ne (by decide)

/-- The escapes of one letter. -/
theorem short_known {unit : Nat} (known : simpleEscape? c = some unit) :
    (c, unit) ∈ [('"', 0x22), ('\\', 0x5c), ('/', 0x2f), ('b', 0x08), ('f', 0x0c), ('n', 0x0a),
      ('r', 0x0d), ('t', 0x09)] := by
  obtain ⟨before, after, entries, _⟩ := List.lookup_eq_some_iff.1 known
  rw [entries]
  exact List.mem_append_right _ (List.mem_cons_self ..)

theorem short_printable {unit : Nat} (known : simpleEscape? c = some unit) : IsPrintable c := by
  have all : ∀ entry ∈ [('"', 0x22), ('\\', 0x5c), ('/', 0x2f), ('b', 0x08), ('f', 0x0c),
      ('n', 0x0a), ('r', 0x0d), ('t', 0x09)], IsPrintable entry.1 := by decide
  exact all (c, unit) (short_known known)

theorem digit_printable {base value : Nat} (digit : Text.asciiDigit? base c = some value) :
    IsPrintable c := by
  have found := (Option.filter_eq_some_iff.1 digit).1
  have within (first last : Char) (bounds : first ≤ c ∧ c ≤ last) :
      first.toNat ≤ c.toNat ∧ c.toNat ≤ last.toNat := bounds
  rw [IsPrintable]
  split at found
  · have bounds := within _ _ ‹_›
    simp only [Char.reduceToNat] at bounds
    omega
  · split at found
    · have bounds := within _ _ ‹_›
      simp only [Char.reduceToNat] at bounds
      omega
    · split at found
      · have bounds := within _ _ ‹_›
        simp only [Char.reduceToNat] at bounds
        omega
      · cases found

/-- The four digits of a code unit. -/
theorem unit_digits {a b c d : Char} {unit : Nat} (known : unit? a b c d = some unit) :
    ∃ first second third fourth, Text.asciiDigit? 16 a = some first ∧
      Text.asciiDigit? 16 b = some second ∧ Text.asciiDigit? 16 c = some third ∧
        Text.asciiDigit? 16 d = some fourth ∧
          unit = Decimal.ofDigitValues 16 [first, second, third, fourth] := by
  obtain ⟨digits, read, same⟩ := Option.bind_eq_some_iff.1 known
  cases same
  simp only [List.mapM_cons, List.mapM_nil, bind, Option.bind_eq_some_iff, pure,
    Option.some.injEq] at read
  obtain ⟨first, ofA, _, ⟨second, ofB, _, ⟨third, ofC, _, ⟨fourth, ofD, _, rfl, rfl⟩, rfl⟩, rfl⟩,
    rfl⟩ := read
  exact ⟨first, second, third, fourth, ofA, ofB, ofC, ofD, rfl⟩

theorem numbered_printable {a b c d : Char} {unit : Nat} (known : unit? a b c d = some unit) :
    ∀ digit ∈ [a, b, c, d], IsPrintable digit := by
  obtain ⟨_, _, _, _, ofA, ofB, ofC, ofD, _⟩ := unit_digits known
  simp [digit_printable ofA, digit_printable ofB, digit_printable ofC, digit_printable ofD]

end

theorem Letter.inline {letter : Letter} (portable : letter.IsPortable) :
    ∀ c ∈ letter.text, IsInline c := by
  have backslash : IsPrintable '\\' := by decide
  cases letter with
  | plain c ordinary =>
      have notReturn : c ≠ '\r' := by
        rintro rfl
        exact absurd ordinary.2.2 (by decide)
      exact List.forall_mem_singleton.2 ⟨portable.1, portable.2, notReturn⟩
  | short c unit known =>
      exact List.forall_mem_cons.2 ⟨backslash.inline,
        List.forall_mem_singleton.2 (short_printable known).inline⟩
  | numbered a b c d unit known =>
      have u : IsPrintable 'u' := by decide
      exact List.forall_mem_cons.2 ⟨backslash.inline, List.forall_mem_cons.2 ⟨u.inline,
        fun c among => (numbered_printable known c among).inline⟩⟩

theorem Letters.inline {letters : Letters} (portable : letters.IsPortable) :
    ∀ c ∈ letters.text, IsInline c := by
  have quote : IsPrintable '"' := by decide
  intro c among
  simp only [text, body, List.mem_cons, List.mem_append, List.mem_flatMap, List.not_mem_nil,
    or_false] at among
  rcases among with rfl | ⟨letter, among, part⟩ | rfl
  · exact quote.inline
  · exact Letter.inline (portable.each letter among) c part
  · exact quote.inline

/-! ### Strings of printable characters -/

/-- A string in which nothing is escaped. -/
def Letters.spelled (chars : List Char)
    (ordinary : ∀ c ∈ chars, IsPrintable c ∧ c ≠ '"' ∧ c ≠ '\\') : Letters :=
  chars.attach.map fun c =>
    .plain c.1 ⟨(ordinary c.1 c.2).2.1, (ordinary c.1 c.2).2.2, (ordinary c.1 c.2).1.1⟩

theorem unpaired_of_low (units : List Nat) (low : ∀ unit ∈ units, unit < 0xd800) :
    AreUnpaired units := by
  induction units with
  | nil => trivial
  | cons unit units ih =>
      cases units with
      | nil => trivial
      | cons next units =>
          have below := low unit (by simp)
          refine ⟨?_, ih fun other among => low other (by simp [among])⟩
          simp [isHighSurrogate, Nat.not_le.2 below]

theorem Letters.spelled_portable {chars : List Char}
    (ordinary : ∀ c ∈ chars, IsPrintable c ∧ c ≠ '"' ∧ c ≠ '\\') :
    (Letters.spelled chars ordinary).IsPortable where
  each := by
    intro letter among
    obtain ⟨c, _, rfl⟩ := List.mem_map.1 among
    have inline := (ordinary c.1 c.2).1.inline
    exact ⟨inline.allowed, inline.onLine⟩
  unpaired := by
    refine unpaired_of_low _ fun unit among => ?_
    rw [spelled, List.map_map] at among
    obtain ⟨c, _, rfl⟩ := List.mem_map.1 among
    exact Nat.lt_of_le_of_lt (ordinary c.1 c.2).1.2 (by decide)

theorem Key.spelled_portable {chars : List Char} {before after : Gap}
    (ordinary : ∀ c ∈ chars, IsPrintable c ∧ c ≠ '"' ∧ c ≠ '\\') (none : before.chars = [])
    (portable : after.IsPortable)
    (short : (Letters.spelled chars ordinary).text.length ≤ longestKey) :
    Key.IsPortable ⟨.spelled chars ordinary, before, after⟩ where
  letters := Letters.spelled_portable ordinary
  before := by simp [none]
  after := portable
  short := by simpa [none] using short

end Json

end Stubwright
