import Stubwright.Value.Key

/-!
Mappings as lists of entries: what a key finds, and what it finds after a value was put under a key.
-/

namespace Stubwright.Value

variable {name : Text} {key step value put : Value} {entries fields : List (Value × Value)}
  {entry : Value × Value}

@[simp]
theorem same_key_text_iff : sameKey key (.str name) = true ↔ key = .str name := by
  cases key <;> simp [sameKey, keyInt?]

@[simp]
theorem text_same_key_iff : sameKey (.str name) key = true ↔ key = .str name := by
  cases key <;> simp [sameKey, keyInt?, eq_comm]

def found? (key : Value) (entries : List (Value × Value)) : Option (Value × Value) :=
  entries.find? fun entry => sameKey entry.1 key

theorem found_cons (same : sameKey entry.1 key = true) :
    found? key (entry :: entries) = some entry :=
  List.find?_cons_of_pos same

theorem found_cons_other (differs : ¬sameKey entry.1 key = true) :
    found? key (entry :: entries) = found? key entries :=
  List.find?_cons_of_neg differs

theorem lookup_eq_found : lookup? name entries = (found? (.str name) entries).map Prod.snd := by
  induction entries with
  | nil => rfl
  | cons entry entries ih =>
      obtain ⟨key, value⟩ := entry
      by_cases same : key = .str name
      · rw [found_cons (same_key_text_iff.2 same), same, lookup?, if_pos rfl]
        rfl
      · rw [found_cons_other (mt same_key_text_iff.1 same), ← ih]
        cases key with
        | str other => exact if_neg fun named => same (congrArg Value.str named)
        | _ => rfl

theorem mem_of_found (found : found? key entries = some entry) : entry ∈ entries :=
  List.mem_of_find?_eq_some found

theorem same_key_of_found (found : found? key entries = some entry) :
    sameKey entry.1 key = true := by
  have holds := List.find?_some found
  exact holds

/-- What a key finds after an entry was put. -/
theorem found_put_entry : found? (.str name) (putEntry (.str name) put fields) =
    some (.str name, put) := by
  induction fields with
  | nil => exact found_cons (text_same_key_iff.2 rfl)
  | cons first fields ih =>
      by_cases same : sameKey first.1 (.str name) = true
      · rw [putEntry, if_pos same, same_key_text_iff.1 same]
        exact found_cons (text_same_key_iff.2 rfl)
      · rw [putEntry, if_neg same, found_cons_other same]
        exact ih

theorem put_entry_again : putEntry (.str name) put (putEntry (.str name) value fields) =
    putEntry (.str name) put fields := by
  induction fields with
  | nil => exact if_pos (text_same_key_iff.2 rfl)
  | cons first fields ih =>
      by_cases same : sameKey first.1 (.str name) = true
      · rw [putEntry, if_pos same, putEntry, if_pos same, putEntry, if_pos same]
      · rw [putEntry, if_neg same, putEntry, if_neg same, putEntry, if_neg same, ih]

theorem put_entry_present (found : lookup? name fields = some value) :
    putEntry (.str name) value fields = fields := by
  rw [lookup_eq_found] at found
  induction fields with
  | nil => cases found
  | cons first fields ih =>
      by_cases same : sameKey first.1 (.str name) = true
      · rw [found_cons same] at found
        rw [putEntry, if_pos same, ← Option.some.inj found]
      · rw [found_cons_other same] at found
        rw [putEntry, if_neg same, ih found]

end Stubwright.Value
