import Stubwright.Proofs.Literal.Accepted
import Stubwright.Proofs.Literal.Scalar

/-!
Reading a literal gives the value that was written, and leaves what follows it. Sequences are read
as lists and the empty mapping as the empty list; apart from that no two values share a literal.
-/

namespace Stubwright.Literal

open Decimal Script

mutual

/-- The value that a literal stands for: every sequence is a list, and so is a mapping without
entries. -/
def meaning : Value → Value
  | .bytes octets => .list (octets.map fun octet => .int octet.toNat)
  | .list items => .list (meanings items)
  | .tuple items => .list (meanings items)
  | .map entries => if entries.isEmpty then .list [] else .map (entryMeanings entries)
  | value => value

def meanings : List Value → List Value
  | [] => []
  | item :: items => meaning item :: meanings items

def entryMeanings : List (Value × Value) → List (Value × Value)
  | [] => []
  | (key, value) :: entries => (key, meaning value) :: entryMeanings entries

end

/-- An element is followed by a comma or by the closing bracket. -/
def EndsElement (suffix : Text) : Prop :=
  ∃ rest, suffix = .char ',' :: rest ∨ suffix = .char ']' :: rest

theorem EndsElement.ends {suffix : Text} (ends : EndsElement suffix) : Ends suffix := by
  intro point first
  obtain ⟨rest, rfl | rfl⟩ := ends
  · rw [← Option.some.inj first]
    decide
  · rw [← Option.some.inj first]
    decide

theorem after_spaces_of_opens {text : Text} (suffix : Text)
    (opens : ∃ first rest, text = first :: rest ∧ isSpace first = false ∧ first ≠ .char ']') :
    afterSpaces (text ++ suffix) = text ++ suffix := by
  obtain ⟨first, rest, rfl, visible, _⟩ := opens
  rw [afterSpaces, List.cons_append, List.dropWhile_cons, visible]
  rfl

theorem EndsElement.after_spaces {suffix : Text} (ends : EndsElement suffix) :
    afterSpaces suffix = suffix := by
  obtain ⟨rest, rfl | rfl⟩ := ends
  · rfl
  · rfl

/-- What reading owes to the text of an array's element. -/
structure ReadsElement (text : Text) (element : Element) : Prop where
  opens : ∃ first rest, text = first :: rest ∧ isSpace first = false ∧ first ≠ .char ']'
  reads : ∀ room suffix, 2 * text.length + 1 ≤ room → EndsElement suffix →
    readElement room (text ++ suffix) = some (element, suffix)

theorem Reads.element {text : Text} {value : Value} (value_reads : Reads text value) :
    ReadsElement text (none, value) := by
  refine ⟨value_reads.opens, ?_⟩
  intro room suffix enough ends
  obtain ⟨less, rfl⟩ : ∃ less, room = less + 1 := ⟨room - 1, by omega⟩
  have taken := value_reads.reads less suffix (by omega) ends.ends
  rw [readElement, taken]
  simp only [Option.bind_eq_bind, Option.bind_some, ends.after_spaces]
  obtain ⟨rest, rfl | rfl⟩ := ends
  · rfl
  · rfl

theorem Reads.entry {keyText text : Text} {key value : Value} (key_reads : Reads keyText key)
    (isKey : isArrayKey key = true) (value_reads : Reads text value) :
    ReadsElement (keyText ++ " => " ++ text) (some key, value) := by
  constructor
  · obtain ⟨first, rest, rfl, visible, unclosed⟩ := key_reads.opens
    exact ⟨first, rest ++ " => " ++ text, rfl, visible, unclosed⟩
  · intro room suffix enough ends
    have arrow : (keyText ++ " => " ++ text).length = keyText.length + 4 + text.length := by
      rw [List.length_append, List.length_append]
      rfl
    rw [arrow] at enough
    obtain ⟨less, rfl⟩ : ∃ less, room = less + 1 := ⟨room - 1, by omega⟩
    have split : keyText ++ " => " ++ text ++ suffix = keyText ++
        (.char ' ' :: .char '=' :: .char '>' :: .char ' ' :: (text ++ suffix)) := by
      rw [List.append_assoc, List.append_assoc]
      rfl
    have keyTaken := key_reads.reads less
      (.char ' ' :: .char '=' :: .char '>' :: .char ' ' :: (text ++ suffix)) (by omega)
      (by
        intro point first
        rw [← Option.some.inj first]
        decide)
    have valueTaken := value_reads.reads less suffix (by omega) ends.ends
    have spaces : afterSpaces (.char ' ' :: (text ++ suffix)) = text ++ suffix :=
      after_spaces_of_opens suffix value_reads.opens
    rw [split, readElement, keyTaken]
    change (if isArrayKey key then
      (readWithin less (afterSpaces (.char ' ' :: (text ++ suffix)))).bind _ else none) = _
    rw [if_pos isKey, spaces, valueTaken]
    rfl

/-- A blank before an element means nothing. -/
theorem read_elements_blank (room : Nat) (text : Text) :
    readElements room (.char ' ' :: text) = readElements room text := by
  cases room with
  | zero => rfl
  | succ room => rfl

/-- An element is taken when what follows it has been read up to the closing bracket. -/
theorem read_elements_last {text : Text} {element : Element}
    (element_reads : ReadsElement text element) (room : Nat) (suffix : Text)
    (enough : 2 * text.length + 2 ≤ room) :
    readElements room (text ++ .char ']' :: suffix) = some ([element], suffix) := by
  obtain ⟨less, rfl⟩ : ∃ less, room = less + 1 := ⟨room - 1, by omega⟩
  have taken := element_reads.reads less (.char ']' :: suffix) (by omega) ⟨suffix, .inr rfl⟩
  have spaces := after_spaces_of_opens (.char ']' :: suffix) element_reads.opens
  rw [readElements, spaces]
  obtain ⟨first, rest, rfl, _, unclosed⟩ := element_reads.opens
  rw [List.cons_append] at taken ⊢
  split
  · rename_i same
    exact absurd (List.cons.inj same).1 unclosed
  · rw [taken]
    rfl

theorem read_elements_before {text : Text} {element : Element}
    (element_reads : ReadsElement text element) (room : Nat) (more suffix : Text)
    (elements : List Element) (enough : 2 * text.length + 1 ≤ room)
    (later : readElements room more = some (elements, suffix)) :
    readElements (room + 1) (text ++ .char ',' :: more) = some (element :: elements, suffix) := by
  have taken := element_reads.reads room (.char ',' :: more) enough ⟨more, .inl rfl⟩
  have spaces := after_spaces_of_opens (.char ',' :: more) element_reads.opens
  rw [readElements, spaces]
  obtain ⟨first, rest, rfl, _, unclosed⟩ := element_reads.opens
  rw [List.cons_append] at taken ⊢
  split
  · rename_i same
    exact absurd (List.cons.inj same).1 unclosed
  · rw [taken]
    change (readElements room more).bind _ = _
    rw [later]
    rfl

theorem read_elements_joined (texts : List Text) (elements : List Element)
    (each : List.Forall₂ ReadsElement texts elements) (room : Nat) (suffix : Text)
    (enough : 2 * (Text.joinWith ", " texts).length + 2 ≤ room) :
    readElements room (Text.joinWith ", " texts ++ .char ']' :: suffix) =
      some (elements, suffix) := by
  induction each generalizing room with
  | nil =>
      obtain ⟨less, rfl⟩ : ∃ less, room = less + 1 := ⟨room - 1, by omega⟩
      rfl
  | @cons text element texts elements first later ih =>
      cases later with
      | nil =>
          rw [Text.joinWith, List.intercalate_singleton] at enough ⊢
          exact read_elements_last first room suffix enough
      | @cons next _ others _ _ _ =>
          have joined : Text.joinWith ", " (text :: next :: others) =
              text ++ .char ',' :: .char ' ' :: Text.joinWith ", " (next :: others) := by
            rw [Text.joinWith, List.intercalate_cons_cons, List.append_assoc]
            rfl
          rw [joined, List.length_append, List.length_cons, List.length_cons] at enough
          obtain ⟨less, rfl⟩ : ∃ less, room = less + 1 := ⟨room - 1, by omega⟩
          rw [joined, List.append_assoc, List.cons_append, List.cons_append]
          apply read_elements_before first less _ suffix _ (by omega)
          rw [read_elements_blank]
          exact ih less (by omega)

theorem Reads.array {texts : List Text} {elements : List Element}
    (each : List.Forall₂ ReadsElement texts elements) :
    Reads (bracketed texts) (ofElements elements) := by
  refine ⟨⟨.char '[', _, rfl, rfl, by decide⟩, ?_⟩
  intro room suffix enough ends
  have size : (bracketed texts).length = (Text.joinWith ", " texts).length + 2 := by
    rw [bracketed, List.length_append, List.length_append]
    change 1 + _ + 1 = _
    omega
  obtain ⟨less, rfl⟩ : ∃ less, room = less + 1 := ⟨room - 1, by omega⟩
  have written : bracketed texts ++ suffix =
      .char '[' :: (Text.joinWith ", " texts ++ .char ']' :: suffix) := by
    rw [bracketed, List.append_assoc, List.append_assoc]
    rfl
  have taken := read_elements_joined texts elements each less suffix (by omega)
  rw [written, readWithin, taken]
  rfl

theorem of_elements_list (items : List Value) :
    ofElements (items.map fun item => (none, item)) = .list items := by
  rw [ofElements, if_pos (by simp)]
  simp [Function.comp_def]

theorem keyed_entries (next : Int) (entries : List (Value × Value)) :
    keyed next (entries.map fun entry => (some entry.1, entry.2)) = entries := by
  induction entries generalizing next with
  | nil => rfl
  | cons entry entries ih =>
      obtain ⟨key, value⟩ := entry
      cases key <;> simp [keyed, ih]

theorem of_elements_map (entries : List (Value × Value)) :
    ofElements (entries.map fun entry => (some entry.1, entry.2)) =
      if entries.isEmpty then .list [] else .map entries := by
  cases entries with
  | nil => rfl
  | cons entry entries =>
      rw [ofElements, if_neg (by simp), keyed_entries]
      rfl

theorem reads_key (key : Value) (text : Text) (accepted : ofKey key = .ok text) :
    Reads text key ∧ isArrayKey key = true := by
  cases key with
  | int number => exact ⟨reads_int number text accepted, rfl⟩
  | str content =>
      rw [← Except.ok.inj accepted]
      exact ⟨reads_text content, rfl⟩
  | _ => exact absurd accepted (by simp [ofKey])

theorem reads_octets (octets : List UInt8) :
    List.Forall₂ ReadsElement (octets.map fun octet => Text.ofNat octet.toNat)
      ((octets.map fun octet => Value.int octet.toNat).map fun item => (none, item)) := by
  induction octets with
  | nil => exact .nil
  | cons octet octets ih =>
      have digits := (reads_whole octet.toNat).1
      rw [← of_nat_eq] at digits
      exact .cons digits.element ih

mutual

/-- Every text that is accepted reads back, by the recursion that wrote it. -/
theorem reads_value (room : Room) : ∀ (around : List Call) (value : Value) (text : Text),
    ofValueWithin room around value = .ok text → Reads text (meaning value)
  | _, .null, text, accepted => by
      rw [← Except.ok.inj (allow_ok_iff.1 accepted).2]
      exact reads_null
  | _, .bool truth, text, accepted => by
      rw [← Except.ok.inj (allow_ok_iff.1 accepted).2]
      exact reads_bool truth
  | _, .int number, text, accepted => reads_int number text (allow_ok_iff.1 accepted).2
  | _, .float number, text, accepted => by
      rw [← Except.ok.inj (allow_ok_iff.1 accepted).2]
      exact reads_double number
  | _, .str content, text, accepted => by
      rw [← Except.ok.inj (allow_ok_iff.1 accepted).2]
      exact reads_text content
  | _, .bytes octets, text, accepted => by
      rw [← Except.ok.inj (allow_ok_iff.1 accepted).2, meaning, ← of_elements_list]
      exact Reads.array (reads_octets octets)
  | _, .list items, text, accepted => by
      obtain ⟨texts, itemsAccepted, rfl⟩ := contents_ok_iff.1 (allow_ok_iff.1 accepted).2
      rw [meaning, ← of_elements_list]
      exact Reads.array (reads_items room _ items texts itemsAccepted)
  | _, .tuple items, text, accepted => by
      obtain ⟨texts, itemsAccepted, rfl⟩ := contents_ok_iff.1 (allow_ok_iff.1 accepted).2
      rw [meaning, ← of_elements_list]
      exact Reads.array (reads_items room _ items texts itemsAccepted)
  | _, .map entries, text, accepted => by
      obtain ⟨texts, entriesAccepted, rfl⟩ := contents_ok_iff.1 (allow_ok_iff.1 accepted).2
      have array := Reads.array (reads_entries room _ entries texts entriesAccepted)
      have empty : (entryMeanings entries).isEmpty = entries.isEmpty := by
        cases entries <;> rfl
      rw [of_elements_map, empty] at array
      have same : meaning (.map entries) =
          if entries.isEmpty then .list [] else .map (entryMeanings entries) := by
        rw [meaning]
      rw [same]
      exact array
  | _, .set items, text, rejected => nomatch (allow_ok_iff.1 rejected).2
  | _, .date day, text, rejected => nomatch (allow_ok_iff.1 rejected).2
  | _, .moment time, text, rejected => nomatch (allow_ok_iff.1 rejected).2
  | _, .alien, text, rejected => nomatch (allow_ok_iff.1 rejected).2
  | _, .knot label body, text, rejected => by
      obtain ⟨_, _, failed⟩ := bind_ok_iff.1 rejected
      cases failed

theorem reads_items (room : Room) : ∀ (around : List Call) (items : List Value)
    (texts : List Text), ofItems room around items = .ok texts →
      List.Forall₂ ReadsElement texts ((meanings items).map fun item => (none, item))
  | _, [], texts, accepted => by
      rw [← Except.ok.inj accepted]
      exact .nil
  | around, item :: items, texts, accepted => by
      obtain ⟨text, itemAccepted, rest⟩ := bind_ok_iff.1 accepted
      obtain ⟨others, othersAccepted, written⟩ := bind_ok_iff.1 rest
      rw [← Except.ok.inj written]
      exact .cons (reads_value room around item text itemAccepted).element
        (reads_items room around items others othersAccepted)

theorem reads_entries (room : Room) : ∀ (around : List Call) (entries : List (Value × Value))
    (texts : List Text), ofEntries room around entries = .ok texts →
      List.Forall₂ ReadsElement texts
        ((entryMeanings entries).map fun entry => (some entry.1, entry.2))
  | _, [], texts, accepted => by
      rw [← Except.ok.inj accepted]
      exact .nil
  | around, (key, value) :: entries, texts, accepted => by
      obtain ⟨keyText, keyAccepted, rest⟩ := bind_ok_iff.1 accepted
      obtain ⟨text, valueAccepted, remaining⟩ := bind_ok_iff.1 rest
      obtain ⟨others, othersAccepted, written⟩ := bind_ok_iff.1 remaining
      have keyReads := reads_key key keyText (allow_ok_iff.1 keyAccepted).2
      have valueReads := reads_value room around value text valueAccepted
      rw [← Except.ok.inj written]
      exact .cons (keyReads.1.entry keyReads.2 valueReads)
        (reads_entries room around entries others othersAccepted)

end

theorem Reads.read {text : Text} {value : Value} (value_reads : Reads text value) (suffix : Text)
    (ends : Ends suffix) : read (text ++ suffix) = some (value, suffix) := by
  apply value_reads.reads _ suffix _ ends
  rw [List.length_append]
  omega

theorem meaning_eq_of_text_eq {room otherRoom : Room} {around otherAround : List Call}
    {value other : Value} {text : Text} (accepted : ofValueWithin room around value = .ok text)
    (otherAccepted : ofValueWithin otherRoom otherAround other = .ok text) :
    meaning value = meaning other := by
  have nothing : Ends [] := fun _ found => absurd found (by simp)
  have first := (reads_value room around value text accepted).read [] nothing
  have second := (reads_value otherRoom otherAround other text otherAccepted).read [] nothing
  rw [first] at second
  exact congrArg Prod.fst (Option.some.inj second)

def isScalar : Value → Bool
  | .null => true
  | .bool _ => true
  | .int _ => true
  | .float _ => true
  | .str _ => true
  | _ => false

/-- Only a scalar has the meaning of a scalar, which is the scalar itself. -/
theorem eq_of_meaning_scalar (scalar other : Value) (isScalar_scalar : isScalar scalar = true)
    (same : meaning scalar = meaning other) : scalar = other := by
  have itself : meaning scalar = scalar := by
    cases scalar <;> first | rfl | exact absurd isScalar_scalar (by simp [isScalar])
  rw [itself] at same
  subst same
  cases other with
  | bytes octets => exact absurd isScalar_scalar (by simp [isScalar, meaning])
  | list items => exact absurd isScalar_scalar (by simp [isScalar, meaning])
  | tuple items => exact absurd isScalar_scalar (by simp [isScalar, meaning])
  | map entries => cases entries <;> exact absurd isScalar_scalar (by simp [isScalar, meaning])
  | _ => rfl

theorem scalar_eq_of_same_text {room : Room} (scalar other : Value)
    (isScalar_scalar : isScalar scalar = true) (exportable : isExportable scalar = true)
    (held : room.holds [.value scalar] = true) (same : ofValue room scalar = ofValue room other) :
    scalar = other := by
  have roomy : hasRoom room [] scalar = true := by
    cases scalar <;> first | exact held | exact absurd isScalar_scalar (by simp [isScalar])
  obtain ⟨text, accepted⟩ := (value_accepted room [] scalar).2 ⟨exportable, roomy⟩
  have otherAccepted : ofValueWithin room [] other = .ok text := same.symm.trans accepted
  exact eq_of_meaning_scalar scalar other isScalar_scalar
    (meaning_eq_of_text_eq accepted otherAccepted)

/-- Values have literals exactly if all that they hold is of a kind that is written, and there is
room for it. Reading a literal takes exactly its text and gives the value. So two values share a
literal only if they have one meaning, and a scalar shares its literal with no other value at
all. -/
theorem read_of_value :
    (∀ room around value, (∃ text, ofValueWithin room around value = .ok text) ↔
      isExportable value = true ∧ hasRoom room around value = true) ∧
    (∀ room around value text, ofValueWithin room around value = .ok text →
      ∀ suffix, Ends suffix → read (text ++ suffix) = some (meaning value, suffix)) ∧
    (∀ room around otherRoom otherAround value other text,
      ofValueWithin room around value = .ok text →
        ofValueWithin otherRoom otherAround other = .ok text →
          meaning value = meaning other ∧ (isScalar value = true → value = other)) ∧
    ∀ room : Room, (∀ scalar, isScalar scalar = true → room.holds [.value scalar] = true) →
      ofValue room (.bool true) ≠ ofValue room (.int 1) ∧
      ofValue room (.int 1) ≠ ofValue room (.float (Double.ofInt 1)) ∧
      ofValue room (.int 1) ≠ ofValue room (.str "1") ∧
      ofValue room .null ≠ ofValue room (.str "null") := by
  have one : isExportable (.int 1) = true := is_short_of_small 1 (by decide)
  refine ⟨value_accepted, ?_, ?_, fun room held => ⟨?_, ?_, ?_, ?_⟩⟩
  · intro room around value text accepted suffix ends
    exact (reads_value room around value text accepted).read suffix ends
  · intro room around otherRoom otherAround value other text accepted otherAccepted
    have same := meaning_eq_of_text_eq accepted otherAccepted
    exact ⟨same, fun scalar => eq_of_meaning_scalar value other scalar same⟩
  · exact fun same => Value.noConfusion (scalar_eq_of_same_text _ _ rfl rfl (held _ rfl) same)
  · exact fun same => Value.noConfusion (scalar_eq_of_same_text _ _ rfl one (held _ rfl) same)
  · exact fun same => Value.noConfusion (scalar_eq_of_same_text _ _ rfl one (held _ rfl) same)
  · exact fun same => Value.noConfusion (scalar_eq_of_same_text _ _ rfl rfl (held _ rfl) same)

/-- The theorem at a mapping with the least number as a key and within a list, a quote before
backslashes at the end of a text, a negative zero, an empty mapping and a sequence of octets; and
at two values that share their literal because they share their meaning. -/
theorem read_of_value_nested :
    let room := Room.ofFrames 7
    (∃ text, ofValueWithin room [] (.map [
        (.str "it's \\\\", .list [.int leastInt, .float (.zero true), .map []]),
        (.int leastInt, .bytes [7, 255])]) = .ok text ∧
      read (text ++ ");") = some (Value.map [
        (.str "it's \\\\", .list [.int leastInt, .float (.zero true), .list []]),
        (.int leastInt, .list [.int 7, .int 255])], Text.ofString ");")) ∧
    ofValueWithin room [] (.tuple []) = .ok "[]" ∧ ofValueWithin room [] (.map []) = .ok "[]" ∧
    meaning (.tuple []) = meaning (.map []) ∧
    ofValue room (.bool true) ≠ ofValue room (.int 1) := by
  intro room
  obtain ⟨_, reading, unique, apart⟩ := read_of_value
  have written : ofValueWithin room [] (.map [
      (.str "it's \\\\", .list [.int leastInt, .float (.zero true), .map []]),
      (.int leastInt, .bytes [7, 255])]) = .ok ("['it\\'s \\\\\\\\' => " ++
        "[-9223372036854775807-1, -0.0, []], -9223372036854775807-1 => [7, 255]]") := rfl
  have ends : Ends ");" := by
    intro point first
    rw [← Option.some.inj first]
    decide
  have held : ∀ scalar, isScalar scalar = true → room.holds [.value scalar] = true := by
    intro scalar _
    cases scalar <;> rfl
  refine ⟨⟨_, written, reading room [] _ _ written ");" ends⟩, rfl, rfl, ?_, (apart room held).1⟩
  exact (unique room [] room [] (.tuple []) (.map []) "[]" rfl rfl).1

end Stubwright.Literal
