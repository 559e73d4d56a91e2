import Stubwright.Literal
import Stubwright.Proofs.Outcome

/-!
Which values have a literal: everything they hold is of a kind that is written, the keys are whole
numbers or texts, and there is room for every value and key inside those around it. Where numbers
are short and there is room for all, only the kind of a value can keep it from being written.
-/

namespace Stubwright.Literal

def isShort (number : Int) : Bool := number = leastInt || !Decimal.isTooLong number

theorem is_short_of_small (number : Int) (small : number.natAbs < 10 ^ (20 : Nat)) :
    isShort number = true := by
  have larger : (10 : Nat) ^ (20 : Nat) ≤ 10 ^ Decimal.mostDigits :=
    Nat.pow_le_pow_right (by decide) (by decide)
  have short : Decimal.isTooLong number = false :=
    decide_eq_false (Nat.not_le.2 (Nat.lt_of_lt_of_le small larger))
  rw [isShort, short]
  exact Bool.or_true _

theorem int_of_small {number : Int} (other : number ≠ leastInt)
    (small : number.natAbs < 10 ^ (20 : Nat)) : ofInt number = .ok (.ofInt number) := by
  have short := is_short_of_small number small
  rw [isShort, decide_eq_false other, Bool.false_or, Bool.not_eq_true'] at short
  rw [ofInt, if_neg other, short]
  rfl

def isKey : Value → Bool
  | .int number => isShort number
  | .str _ => true
  | _ => false

mutual

/-- Whether a value and all that it holds is of a kind that is written. -/
def isExportable : Value → Bool
  | .null => true
  | .bool _ => true
  | .int number => isShort number
  | .float _ => true
  | .str _ => true
  | .bytes _ => true
  | .list items => areExportable items
  | .tuple items => areExportable items
  | .map entries => entriesExportable entries
  | .set _ => false
  | .date _ => false
  | .moment _ => false
  | .alien => false
  | .knot _ _ => false
  | .link _ _ => false

def areExportable : List Value → Bool
  | [] => true
  | item :: items => isExportable item && areExportable items

def entriesExportable : List (Value × Value) → Bool
  | [] => true
  | (key, value) :: entries => isKey key && isExportable value && entriesExportable entries

end

mutual

/-- Whether there is room for a value and for all that it holds, inside the calls around it. -/
def hasRoom (room : Room) (around : List Call) : Value → Bool
  | .list items =>
      room.holds (.value (.list items) :: around) &&
        haveRoom room (.value (.list items) :: around) items
  | .tuple items =>
      room.holds (.value (.tuple items) :: around) &&
        haveRoom room (.value (.tuple items) :: around) items
  | .map entries =>
      room.holds (.value (.map entries) :: around) &&
        entriesHaveRoom room (.value (.map entries) :: around) entries
  | value => room.holds (.value value :: around)

def haveRoom (room : Room) (around : List Call) : List Value → Bool
  | [] => true
  | item :: items => hasRoom room around item && haveRoom room around items

def entriesHaveRoom (room : Room) (around : List Call) : List (Value × Value) → Bool
  | [] => true
  | (key, value) :: entries =>
      room.holds (.key key :: around) && hasRoom room around value &&
        entriesHaveRoom room around entries

end

section

variable {α β γ : Type} {room : Room} {calls : List Call} {outcome : Except RenderError α}

theorem allow_ok_iff {result : α} :
    room.allow calls outcome = .ok result ↔ room.holds calls = true ∧ outcome = .ok result := by
  rw [Room.allow]
  split
  next held => simp [held]
  next full => simp [full]

theorem allow_accepted : (∃ result, room.allow calls outcome = .ok result) ↔
    room.holds calls = true ∧ ∃ result, outcome = .ok result := by
  simp only [allow_ok_iff, exists_and_left]

theorem contents_ok_iff {contents : Except RenderError α} {write : α → β} {result : β} :
    (do return write (← contents)) = Except.ok result ↔
      ∃ found, contents = .ok found ∧ write found = result := by
  cases contents with
  | error cause => simp [Bind.bind, Except.bind]
  | ok found => simp [Bind.bind, Except.bind, Pure.pure, Except.pure]

/-- A collection is written if what it holds is. -/
theorem contents_accepted {contents : Except RenderError α} {write : α → β} :
    (∃ result, (do return write (← contents)) = Except.ok result) ↔
      ∃ found, contents = .ok found := by
  simp only [contents_ok_iff]
  exact ⟨fun ⟨_, found, same, _⟩ => ⟨found, same⟩, fun ⟨found, same⟩ => ⟨_, found, same, rfl⟩⟩

/-- Neither of two parts depends on the other, so both have to be accepted. -/
theorem both_accepted (first : Except RenderError α) (second : Except RenderError β)
    (write : α → β → γ) :
    (∃ result, (do return write (← first) (← second)) = Except.ok result) ↔
      (∃ left, first = .ok left) ∧ ∃ right, second = .ok right := by
  rw [exists_bind_ok_iff]
  simp only [contents_accepted, exists_and_right]

end

theorem int_accepted (number : Int) :
    (∃ text, ofInt number = .ok text) ↔ isShort number = true := by
  rw [ofInt, isShort]
  split
  · rename_i least
    simp [least]
  split
  · rename_i other long
    simp [other, long]
  · rename_i other short
    simp [other, short]

theorem int_of_long {number : Nat} (long : 10 ^ Decimal.mostDigits ≤ number) :
    ofInt number = .error .longNumber := by
  have negative : leastInt < 0 := by decide
  have other : (number : Int) ≠ leastInt := by omega
  have tooLong : Decimal.isTooLong number = true := decide_eq_true long
  rw [ofInt, if_neg other, if_pos tooLong]

theorem is_short_of_long {number : Nat} (long : 10 ^ Decimal.mostDigits ≤ number) :
    isShort number = false := by
  refine Bool.eq_false_iff.2 fun short => ?_
  obtain ⟨text, written⟩ := (int_accepted number).2 short
  rw [int_of_long long] at written
  cases written

theorem key_accepted (key : Value) : (∃ text, ofKey key = .ok text) ↔ isKey key = true := by
  cases key with
  | int number => exact int_accepted number
  | str content => simp [ofKey, isKey]
  | _ => simp [ofKey, isKey]

mutual

theorem value_accepted (room : Room) : ∀ (around : List Call) (value : Value),
    (∃ text, ofValueWithin room around value = .ok text) ↔
      isExportable value = true ∧ hasRoom room around value = true
  | around, .null => by simp [ofValueWithin, isExportable, hasRoom, allow_accepted]
  | around, .bool truth => by simp [ofValueWithin, isExportable, hasRoom, allow_accepted]
  | around, .int number => by
      have accepted := int_accepted number
      simp [ofValueWithin, isExportable, hasRoom, allow_accepted, accepted, and_comm]
  | around, .float number => by simp [ofValueWithin, isExportable, hasRoom, allow_accepted]
  | around, .str content => by simp [ofValueWithin, isExportable, hasRoom, allow_accepted]
  | around, .bytes octets => by simp [ofValueWithin, isExportable, hasRoom, allow_accepted]
  | around, .list items => by
      rw [ofValueWithin, allow_accepted, contents_accepted, items_accepted, isExportable, hasRoom,
        Bool.and_eq_true, and_left_comm]
  | around, .tuple items => by
      rw [ofValueWithin, allow_accepted, contents_accepted, items_accepted, isExportable, hasRoom,
        Bool.and_eq_true, and_left_comm]
  | around, .map entries => by
      rw [ofValueWithin, allow_accepted, contents_accepted, entries_accepted, isExportable, hasRoom,
        Bool.and_eq_true, and_left_comm]
  | around, .set items => by simp [ofValueWithin, isExportable, allow_accepted]
  | around, .date day => by simp [ofValueWithin, isExportable, allow_accepted]
  | around, .moment time => by simp [ofValueWithin, isExportable, allow_accepted]
  | around, .alien => by simp [ofValueWithin, isExportable, allow_accepted]
  | around, .knot label body => by simp [ofValueWithin, isExportable, exists_bind_ok_iff]
  | around, .link label isMapping => by simp [ofValueWithin, isExportable]

theorem items_accepted (room : Room) : ∀ (around : List Call) (items : List Value),
    (∃ texts, ofItems room around items = .ok texts) ↔
      areExportable items = true ∧ haveRoom room around items = true
  | around, [] => by simp [ofItems, areExportable, haveRoom]
  | around, item :: items => by
      have first := value_accepted room around item
      have later := items_accepted room around items
      rw [ofItems, areExportable, haveRoom, Bool.and_eq_true, Bool.and_eq_true, both_accepted,
        first, later, and_and_and_comm]

theorem entries_accepted (room : Room) : ∀ (around : List Call) (entries : List (Value × Value)),
    (∃ texts, ofEntries room around entries = .ok texts) ↔
      entriesExportable entries = true ∧ entriesHaveRoom room around entries = true
  | around, [] => by simp [ofEntries, entriesExportable, entriesHaveRoom]
  | around, (key, value) :: entries => by
      have keyed : (∃ text, room.allow (.key key :: around) (ofKey key) = .ok text) ↔
          isKey key = true ∧ room.holds (.key key :: around) = true := by
        rw [allow_accepted, key_accepted, and_comm]
      have first := value_accepted room around value
      have later := entries_accepted room around entries
      rw [ofEntries, exists_bind_ok_iff]
      simp only [both_accepted, exists_and_right, keyed, first, later, entriesExportable,
        entriesHaveRoom, Bool.and_eq_true]
      constructor
      · rintro ⟨⟨isKey, keyHeld⟩, ⟨holds, held⟩, othersHold, othersHeld⟩
        exact ⟨⟨⟨isKey, holds⟩, othersHold⟩, ⟨keyHeld, held⟩, othersHeld⟩
      · rintro ⟨⟨⟨isKey, holds⟩, othersHold⟩, ⟨keyHeld, held⟩, othersHeld⟩
        exact ⟨⟨isKey, keyHeld⟩, ⟨holds, held⟩, othersHold, othersHeld⟩

end

/-- A key that is neither a number nor a text is of the wrong kind, whatever it holds. -/
def isBoundedKey : Value → Bool
  | .int number => isShort number
  | _ => true

mutual

/-- Whether the numbers in a value are short, and nothing in it is a part of itself. -/
def isBounded : Value → Bool
  | .int number => isShort number
  | .list items => areBounded items
  | .tuple items => areBounded items
  | .map entries => entriesBounded entries
  | .knot _ _ => false
  | .link _ _ => false
  | _ => true

def areBounded : List Value → Bool
  | [] => true
  | item :: items => isBounded item && areBounded items

def entriesBounded : List (Value × Value) → Bool
  | [] => true
  | (key, value) :: entries => isBoundedKey key && isBounded value && entriesBounded entries

end

/-- What fails only for the want of a written form. -/
def LacksForm {α : Type} (outcome : Except RenderError α) : Prop :=
  ∀ cause, outcome = .error cause → cause.isFormless = true

namespace LacksForm

variable {α β : Type}

theorem ok (value : α) : LacksForm (.ok value) := by
  intro cause failed
  cases failed

theorem formless (cause : RenderError) (lacks : cause.isFormless = true) :
    LacksForm (.error cause : Except RenderError α) := by
  rintro _ ⟨⟩
  exact lacks

theorem bind {first : Except RenderError α} {next : α → Except RenderError β}
    (before : LacksForm first) (after : ∀ value, first = .ok value → LacksForm (next value)) :
    LacksForm (first >>= next) := by
  intro cause failed
  cases reached : first with
  | error other =>
      rw [reached] at failed
      cases failed
      exact before _ reached
  | ok value =>
      rw [reached] at failed
      exact after value reached cause failed

/-- What there is room for fails only through itself. -/
theorem allow {room : Room} {calls : List Call} {outcome : Except RenderError α}
    (held : room.holds calls = true) (lacks : LacksForm outcome) :
    LacksForm (room.allow calls outcome) := by
  rw [Room.allow, if_pos held]
  exact lacks

theorem map {outcome : Except RenderError α} (write : α → β) (lacks : LacksForm outcome) :
    LacksForm (do return write (← outcome)) :=
  lacks.bind fun _ _ => ok _

end LacksForm

theorem int_lacks_form {number : Int} (short : isShort number = true) :
    LacksForm (ofInt number) := by
  obtain ⟨text, written⟩ := (int_accepted number).2 short
  rw [written]
  exact .ok text

theorem key_lacks_form {key : Value} (bounded : isBoundedKey key = true) :
    LacksForm (ofKey key) := by
  cases key with
  | int number => exact int_lacks_form bounded
  | str content => exact .ok _
  | _ => exact .formless _ rfl

section

variable {room : Room}

mutual

theorem value_lacks_form : ∀ (around : List Call) (value : Value), isBounded value = true →
    hasRoom room around value = true → LacksForm (ofValueWithin room around value)
  | _, .null, _, held => .allow held (.ok _)
  | _, .bool _, _, held => .allow held (.ok _)
  | _, .int _, bounded, held => .allow held (int_lacks_form bounded)
  | _, .float _, _, held => .allow held (.ok _)
  | _, .str _, _, held => .allow held (.ok _)
  | _, .bytes _, _, held => .allow held (.ok _)
  | _, .list items, bounded, held => by
      rw [hasRoom, Bool.and_eq_true] at held
      exact .allow held.1 (.map bracketed (items_lack_form _ items bounded held.2))
  | _, .tuple items, bounded, held => by
      rw [hasRoom, Bool.and_eq_true] at held
      exact .allow held.1 (.map bracketed (items_lack_form _ items bounded held.2))
  | _, .map entries, bounded, held => by
      rw [hasRoom, Bool.and_eq_true] at held
      exact .allow held.1 (.map bracketed (entries_lack_form _ entries bounded held.2))
  | _, .set items, _, held => .allow held (.formless (.noLiteral (.set items)) rfl)
  | _, .date day, _, held => .allow held (.formless (.noLiteral (.date day)) rfl)
  | _, .moment time, _, held => .allow held (.formless (.noLiteral (.moment time)) rfl)
  | _, .alien, _, held => .allow held (.formless (.noLiteral .alien) rfl)

theorem items_lack_form : ∀ (around : List Call) (items : List Value), areBounded items = true →
    haveRoom room around items = true → LacksForm (ofItems room around items)
  | _, [], _, _ => .ok _
  | around, item :: items, bounded, held => by
      rw [areBounded, Bool.and_eq_true] at bounded
      rw [haveRoom, Bool.and_eq_true] at held
      have here := value_lacks_form around item bounded.1 held.1
      have later := items_lack_form around items bounded.2 held.2
      rw [ofItems]
      exact here.bind fun _ _ => later.bind fun _ _ => .ok _

theorem entries_lack_form : ∀ (around : List Call) (entries : List (Value × Value)),
    entriesBounded entries = true → entriesHaveRoom room around entries = true →
      LacksForm (ofEntries room around entries)
  | _, [], _, _ => .ok _
  | around, (key, value) :: entries, bounded, held => by
      rw [entriesBounded, Bool.and_eq_true, Bool.and_eq_true] at bounded
      rw [entriesHaveRoom, Bool.and_eq_true, Bool.and_eq_true] at held
      have keyed := LacksForm.allow held.1.1 (key_lacks_form bounded.1.1)
      have here := value_lacks_form around value bounded.1.2 held.1.2
      have later := entries_lack_form around entries bounded.2 held.2
      rw [ofEntries]
      exact keyed.bind fun _ _ => here.bind fun _ _ => later.bind fun _ _ => .ok _

end

end

end Stubwright.Literal
