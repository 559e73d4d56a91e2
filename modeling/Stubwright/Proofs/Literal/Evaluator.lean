import Stubwright.Literal
import Stubwright.Proofs.Literal.Reader
import Stubwright.Proofs.Script.Token

/-!
What a literal comes to when the script is run. Whole numbers have 64 bits, and a numeral beyond
them is a float; an array keeps one value for each key, and a text that is the numeral of a whole
number is that number as a key.
-/

namespace Stubwright.Literal

open Decimal Script

@[match_pattern] abbrev minus : Text := [.char '-']

@[match_pattern] abbrev comma : Text := [.char ',']

@[match_pattern] abbrev arrow : Text := [.char '=', .char '>']

@[match_pattern] abbrev opening : Text := [.char '[']

@[match_pattern] abbrev closing : Text := [.char ']']

def greatestInt : Int := 9223372036854775807

def isWordSized (number : Int) : Bool := leastInt ≤ number && number ≤ greatestInt

inductive ArrayKey where
  | int (number : Int)
  | text (content : Text)
  deriving DecidableEq

inductive Datum where
  | null
  | bool (truth : Bool)
  | int (number : Int)
  | float (number : Double)
  | text (content : Text)
  | array (entries : List (ArrayKey × Datum))

/-- The number that a text is the numeral of, without needless zeros or signs. -/
def integer? (text : Text) : Option Int :=
  let (negative, unsigned) := takeSign text
  let magnitude : Int := Nat.ofDigitChars 10 (takeDigits unsigned).1 0
  let number := if negative then -magnitude else magnitude
  if Text.ofInt number = text ∧ isWordSized number then some number else none

namespace ArrayKey

def ofText (text : Text) : ArrayKey :=
  match integer? text with
  | some number => .int number
  | none => .text text

/-- Other keys are converted in ways that are not followed here. -/
def ofDatum? : Datum → Option ArrayKey
  | .int number => some (.int number)
  | .text content => some (.ofText content)
  | _ => none

end ArrayKey

/-- A later entry takes the place of an earlier one with the same key. -/
def put (key : ArrayKey) (datum : Datum) :
    List (ArrayKey × Datum) → List (ArrayKey × Datum)
  | [] => [(key, datum)]
  | (present, old) :: rest =>
      if present = key then (present, datum) :: rest else (present, old) :: put key datum rest

abbrev Item := Option ArrayKey × Datum

/-- Takes items into an array, one after the other. An item without a key gets the next number above
all numbers before it, as long as there is one. -/
def arrange : List (ArrayKey × Datum) → Int → List Item → Option (List (ArrayKey × Datum))
  | entries, _, [] => some entries
  | entries, next, (none, datum) :: items =>
      if next ≤ greatestInt then arrange (put (.int next) datum entries) (next + 1) items else none
  | entries, next, (some (.int number), datum) :: items =>
      arrange (put (.int number) datum entries) (max next (number + 1)) items
  | entries, next, (some key, datum) :: items => arrange (put key datum entries) next items

def numeral? (token : Text) : Option Datum :=
  match readNumber token with
  | some (.int number, []) =>
      some (if isWordSized number then .int number
        else .float (Double.ofDecimal false number.toNat 0))
  | some (.float number, []) => some (.float number)
  | _ => none

def operand? (token : Text) : Option Datum :=
  (numeral? token).or <| match constant? token with
    | some .null => some .null
    | some (.bool truth) => some (.bool truth)
    | some (.float number) => some (.float number)
    | _ => none

/-- What does not fit in 64 bits any more is not followed. -/
def wholeNumber? (number : Int) : Option Datum :=
  if isWordSized number then some (.int number) else none

def opposite? : Datum → Option Datum
  | .int number => wholeNumber? (-number)
  | .float number => some (.float number.negate)
  | _ => none

def quotation? : Text → Option Text
  | .char '\'' :: rest =>
      match readQuoted rest with
      | some (content, []) => some content
      | _ => none
  | .char '"' :: rest =>
      match readPlainlyQuoted rest with
      | some (content, []) => some content
      | _ => none
  | _ => none

def evaluateSigned : List Text → Option (Datum × List Text)
  | minus :: token :: rest => do
      let datum ← operand? token
      let negative ← opposite? datum
      some (negative, rest)
  | token :: rest => (operand? token).map fun datum => (datum, rest)
  | [] => none

def evaluateScalar (found : List Text) : Option (Datum × List Text) :=
  match evaluateSigned found with
  | some (left, minus :: token :: rest) =>
      match left, numeral? token with
      | .int left, some (.int right) => (wholeNumber? (left - right)).map fun datum => (datum, rest)
      | _, _ => none
  | result => result

mutual

def evaluateWithin : Nat → List Text → Option (Datum × List Text)
  | 0, _ => none
  | _, [] => none
  | room + 1, token :: rest =>
      if token = opening then do
        let (items, after) ← evaluateItems room rest
        let entries ← arrange [] 0 items
        some (.array entries, after)
      else match quotation? token with
        | some content => some (.text content, rest)
        | none => evaluateScalar (token :: rest)

/-- Items up to the closing bracket. A comma may stand after the last one. -/
def evaluateItems : Nat → List Text → Option (List Item × List Text)
  | 0, _ => none
  | _ + 1, closing :: rest => some ([], rest)
  | room + 1, found => do
      let (item, rest) ← evaluateItem room found
      match rest with
      | comma :: more => do
          let (items, after) ← evaluateItems room more
          some (item :: items, after)
      | closing :: after => some ([item], after)
      | _ => none

def evaluateItem : Nat → List Text → Option (Item × List Text)
  | 0, _ => none
  | room + 1, found => do
      let (first, rest) ← evaluateWithin room found
      match rest with
      | arrow :: more => do
          let key ← ArrayKey.ofDatum? first
          let (datum, after) ← evaluateWithin room more
          some ((some key, datum), after)
      | _ => some ((none, first), rest)

end

/-- What a text that is one literal comes to. Two steps for each token are room enough. -/
def evaluate (text : Text) : Option Datum :=
  match evaluateWithin (2 * (tokens text).length) (tokens text) with
  | some (datum, []) => some datum
  | _ => none

def ArrayKey.fits : ArrayKey → Bool
  | .int number => isWordSized number
  | .text _ => true

mutual

/-- Whether the script can hold a value: its numbers have 64 bits, and no key is there twice. -/
def Datum.fits : Datum → Bool
  | .int number => isWordSized number
  | .array entries => decide (entries.map Prod.fst).Nodup && entriesFit entries
  | _ => true

def entriesFit : List (ArrayKey × Datum) → Bool
  | [] => true
  | (key, datum) :: entries => key.fits && datum.fits && entriesFit entries

end

theorem entries_fit_iff (entries : List (ArrayKey × Datum)) :
    entriesFit entries = true ↔
      ∀ entry ∈ entries, entry.1.fits = true ∧ entry.2.fits = true := by
  induction entries with
  | nil => simp [entriesFit]
  | cons entry entries ih => simp [entriesFit, ih]

def ItemFits (item : Item) : Prop :=
  (∀ key, item.1 = some key → key.fits = true) ∧ item.2.fits = true

section

variable (key : ArrayKey) (datum : Datum) (entries : List (ArrayKey × Datum))

theorem put_keys :
    (put key datum entries).map Prod.fst =
      if key ∈ entries.map Prod.fst then entries.map Prod.fst
      else entries.map Prod.fst ++ [key] := by
  induction entries with
  | nil => rfl
  | cons entry entries ih =>
      rw [put, List.map_cons]
      by_cases same : entry.1 = key
      · rw [if_pos same, if_pos (by simp [same])]
        rfl
      · rw [if_neg same, List.map_cons, ih]
        simp only [List.mem_cons, Ne.symm same, false_or, List.cons_append]
        split
        · rfl
        · rfl

theorem mem_put {entry : ArrayKey × Datum} (member : entry ∈ put key datum entries) :
    entry = (key, datum) ∨ entry ∈ entries := by
  induction entries with
  | nil => exact .inl (List.mem_singleton.1 member)
  | cons present entries ih =>
      rw [put] at member
      split at member
      · rename_i same
        rcases List.mem_cons.1 member with here | later
        · exact .inl (by rw [here, same])
        · exact .inr (List.mem_cons_of_mem _ later)
      · rcases List.mem_cons.1 member with here | later
        · exact .inr (by simp [here])
        · exact (ih later).imp_right (List.mem_cons_of_mem _)

variable {key datum entries}

theorem put_fits (distinct : (entries.map Prod.fst).Nodup) (fit : entriesFit entries = true)
    (keyFits : key.fits = true) (datumFits : datum.fits = true) :
    ((put key datum entries).map Prod.fst).Nodup ∧ entriesFit (put key datum entries) = true := by
  constructor
  · rw [put_keys]
    split
    · exact distinct
    · rename_i fresh
      refine List.nodup_append.2 ⟨distinct, List.pairwise_singleton _ _, ?_⟩
      intro other member last among same
      rw [same, List.mem_singleton.1 among] at member
      exact fresh member
  · rw [entries_fit_iff]
    intro entry member
    rcases mem_put key datum entries member with rfl | earlier
    · exact ⟨keyFits, datumFits⟩
    · exact (entries_fit_iff entries).1 fit entry earlier

end

theorem arrange_fits (items : List Item) (entries result : List (ArrayKey × Datum)) (next : Int)
    (distinct : (entries.map Prod.fst).Nodup) (fit : entriesFit entries = true) (counted : 0 ≤ next)
    (each : ∀ item ∈ items, ItemFits item) (arranged : arrange entries next items = some result) :
    (result.map Prod.fst).Nodup ∧ entriesFit result = true := by
  induction items generalizing entries next with
  | nil =>
      rw [← Option.some.inj arranged]
      exact ⟨distinct, fit⟩
  | cons item items ih =>
      obtain ⟨keyFits, datumFits⟩ := each item (by simp)
      have others : ∀ other ∈ items, ItemFits other :=
        fun other member => each other (by simp [member])
      obtain ⟨key, datum⟩ := item
      match key with
      | none =>
          rw [arrange] at arranged
          split at arranged
          · rename_i room
            have nextFits : (ArrayKey.int next).fits = true := by
              simp only [ArrayKey.fits, isWordSized, Bool.and_eq_true, decide_eq_true_eq]
              exact ⟨Int.le_trans (by decide) counted, room⟩
            obtain ⟨still, fitting⟩ := put_fits distinct fit nextFits datumFits
            exact ih _ (next + 1) still fitting (by omega) others arranged
          · cases arranged
      | some (.int number) =>
          rw [arrange] at arranged
          obtain ⟨still, fitting⟩ := put_fits distinct fit (keyFits _ rfl) datumFits
          exact ih _ _ still fitting (Int.le_trans counted (Int.le_max_left _ _)) others arranged
      | some (.text content) =>
          rw [arrange] at arranged
          · obtain ⟨still, fitting⟩ := put_fits distinct fit (keyFits _ rfl) datumFits
            exact ih _ next still fitting counted others arranged
          · exact nofun

theorem whole_number_fits {number : Int} {datum : Datum}
    (found : wholeNumber? number = some datum) : datum.fits = true := by
  unfold wholeNumber? at found
  split at found
  · rename_i fits
    rw [← Option.some.inj found]
    exact fits
  · cases found

theorem numeral_fits {token : Text} {datum : Datum} (found : numeral? token = some datum) :
    datum.fits = true := by
  unfold numeral? at found
  split at found
  · rw [← Option.some.inj found]
    split
    · rename_i fits
      exact fits
    · rfl
  · rw [← Option.some.inj found]
    rfl
  · cases found

theorem operand_fits {token : Text} {datum : Datum} (found : operand? token = some datum) :
    datum.fits = true := by
  rcases Option.or_eq_some_iff.1 found with number | ⟨_, constant⟩
  · exact numeral_fits number
  · split at constant
    · rw [← Option.some.inj constant]; rfl
    · rw [← Option.some.inj constant]; rfl
    · rw [← Option.some.inj constant]; rfl
    · cases constant

theorem opposite_fits {datum negative : Datum} (found : opposite? datum = some negative) :
    negative.fits = true := by
  unfold opposite? at found
  split at found
  · exact whole_number_fits found
  · rw [← Option.some.inj found]; rfl
  · cases found

theorem signed_fits {found rest : List Text} {datum : Datum}
    (evaluated : evaluateSigned found = some (datum, rest)) : datum.fits = true := by
  unfold evaluateSigned at evaluated
  split at evaluated
  · obtain ⟨operand, _, remaining⟩ := Option.bind_eq_some_iff.1 evaluated
    obtain ⟨negative, opposite, same⟩ := Option.bind_eq_some_iff.1 remaining
    rw [← (Prod.mk.inj (Option.some.inj same)).1]
    exact opposite_fits opposite
  · obtain ⟨operand, taken, same⟩ := Option.map_eq_some_iff.1 evaluated
    rw [← (Prod.mk.inj same).1]
    exact operand_fits taken
  · cases evaluated

theorem scalar_fits {found rest : List Text} {datum : Datum}
    (evaluated : evaluateScalar found = some (datum, rest)) : datum.fits = true := by
  unfold evaluateScalar at evaluated
  split at evaluated
  · split at evaluated
    · obtain ⟨difference, taken, same⟩ := Option.map_eq_some_iff.1 evaluated
      rw [← (Prod.mk.inj same).1]
      exact whole_number_fits taken
    · cases evaluated
  · exact signed_fits evaluated

theorem integer_spec {text : Text} {number : Int} (found : integer? text = some number) :
    Text.ofInt number = text ∧ isWordSized number = true := by
  obtain ⟨written, same⟩ := Option.ite_none_right_eq_some.1 found
  rw [← Option.some.inj same]
  exact written

theorem ArrayKey.of_text_fits (text : Text) : (ofText text).fits = true := by
  unfold ofText
  cases found : integer? text with
  | none => rfl
  | some number => exact (integer_spec found).2

theorem ArrayKey.of_datum_fits {datum : Datum} {key : ArrayKey}
    (found : ofDatum? datum = some key) (fits : datum.fits = true) : key.fits = true := by
  unfold ofDatum? at found
  split at found
  · rw [← Option.some.inj found]
    exact fits
  · rw [← Option.some.inj found]
    exact of_text_fits _
  · cases found

section

variable {room : Nat}

theorem evaluate_within_fits
    (itemsFit : ∀ found items rest, evaluateItems room found = some (items, rest) →
      ∀ item ∈ items, ItemFits item)
    {found rest : List Text} {datum : Datum}
    (evaluated : evaluateWithin (room + 1) found = some (datum, rest)) : datum.fits = true := by
  cases found with
  | nil => cases evaluated
  | cons token found =>
      rw [evaluateWithin] at evaluated
      split at evaluated
      · obtain ⟨⟨items, after⟩, inside, remaining⟩ := Option.bind_eq_some_iff.1 evaluated
        obtain ⟨entries, arranged, same⟩ := Option.bind_eq_some_iff.1 remaining
        obtain ⟨distinct, fit⟩ := arrange_fits items [] entries 0 List.nodup_nil rfl
          (Int.le_refl 0) (itemsFit found items after inside) arranged
        rw [← (Prod.mk.inj (Option.some.inj same)).1, Datum.fits, fit, Bool.and_true]
        exact decide_eq_true distinct
      · split at evaluated
        · rw [← (Prod.mk.inj (Option.some.inj evaluated)).1]
          rfl
        · exact scalar_fits evaluated

theorem evaluate_items_fit
    (itemFits : ∀ found item rest, evaluateItem room found = some (item, rest) → ItemFits item)
    (itemsFit : ∀ found items rest, evaluateItems room found = some (items, rest) →
      ∀ item ∈ items, ItemFits item)
    {found rest : List Text} {items : List Item}
    (evaluated : evaluateItems (room + 1) found = some (items, rest)) :
    ∀ item ∈ items, ItemFits item := by
  unfold evaluateItems at evaluated
  split at evaluated
  · cases evaluated
  · rw [← (Prod.mk.inj (Option.some.inj evaluated)).1]
    exact nofun
  · rename_i less sameRoom _
    obtain rfl : room = less := Nat.succ.inj sameRoom
    obtain ⟨⟨item, after⟩, first, remaining⟩ := Option.bind_eq_some_iff.1 evaluated
    have firstFits := itemFits _ item after first
    dsimp only at remaining
    split at remaining
    · obtain ⟨⟨others, last⟩, later, same⟩ := Option.bind_eq_some_iff.1 remaining
      rw [← (Prod.mk.inj (Option.some.inj same)).1]
      exact List.forall_mem_cons.2 ⟨firstFits, itemsFit _ others last later⟩
    · rw [← (Prod.mk.inj (Option.some.inj remaining)).1]
      exact List.forall_mem_singleton.2 firstFits
    · cases remaining

theorem evaluate_item_fits
    (valueFits : ∀ found datum rest, evaluateWithin room found = some (datum, rest) →
      datum.fits = true)
    {found rest : List Text} {item : Item}
    (evaluated : evaluateItem (room + 1) found = some (item, rest)) : ItemFits item := by
  unfold evaluateItem at evaluated
  obtain ⟨⟨first, after⟩, taken, remaining⟩ := Option.bind_eq_some_iff.1 evaluated
  have firstFits := valueFits _ first after taken
  dsimp only at remaining
  split at remaining
  · obtain ⟨key, isKey, rest⟩ := Option.bind_eq_some_iff.1 remaining
    obtain ⟨⟨datum, last⟩, value, same⟩ := Option.bind_eq_some_iff.1 rest
    rw [← (Prod.mk.inj (Option.some.inj same)).1]
    refine ⟨?_, valueFits _ datum last value⟩
    intro other sameKey
    rw [← Option.some.inj sameKey]
    exact ArrayKey.of_datum_fits isKey firstFits
  · rw [← (Prod.mk.inj (Option.some.inj remaining)).1]
    exact ⟨nofun, firstFits⟩

end

/-- Evaluation gives nothing but what the script can hold, at every depth. -/
theorem evaluated_fits (room : Nat) :
    (∀ found datum rest, evaluateWithin room found = some (datum, rest) → datum.fits = true) ∧
      (∀ found items rest, evaluateItems room found = some (items, rest) →
        ∀ item ∈ items, ItemFits item) ∧
      ∀ found item rest, evaluateItem room found = some (item, rest) → ItemFits item := by
  induction room with
  | zero => exact ⟨nofun, nofun, nofun⟩
  | succ room ih =>
      obtain ⟨valueFits, itemsFit, itemFits⟩ := ih
      exact ⟨fun _ _ _ => evaluate_within_fits itemsFit,
        fun _ _ _ => evaluate_items_fit itemFits itemsFit,
        fun _ _ _ => evaluate_item_fits valueFits⟩

end Stubwright.Literal
