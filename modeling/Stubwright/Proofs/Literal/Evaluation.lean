import Stubwright.Proofs.Literal.Denotation

/-!
A literal comes to the value that it was written for exactly if the script can hold that value. The
numerals of greater numbers come to floats, and of the keys that are one key to the script only one
is left.
-/

namespace Stubwright.Literal

open Decimal Script

namespace ArrayKey

def ofValue : Value → ArrayKey
  | .int number => .int number
  | .str content => .ofText content
  | _ => .text []

end ArrayKey

def numbered : Int → List Datum → List (ArrayKey × Datum)
  | _, [] => []
  | next, datum :: data => (.int next, datum) :: numbered (next + 1) data

mutual

/-- What a value would have to be in the script, whether the script can hold that or not. -/
def image : Value → Datum
  | .null => .null
  | .bool truth => .bool truth
  | .int number => .int number
  | .float number => .float number
  | .str content => .text content
  | .bytes octets => .array (numbered 0 (octets.map fun octet => .int octet.toNat))
  | .list items => .array (numbered 0 (images items))
  | .tuple items => .array (numbered 0 (images items))
  | .map entries => .array (entryImages entries)
  | _ => .null

def images : List Value → List Datum
  | [] => []
  | item :: items => image item :: images items

def entryImages : List (Value × Value) → List (ArrayKey × Datum)
  | [] => []
  | (key, value) :: entries => (.ofValue key, image value) :: entryImages entries

end

structure EvaluatesItem (found : List Text) (item : Item) : Prop where
  opens : ∃ first rest, found = first :: rest ∧ first ≠ closing
  evaluates : ∀ room mark suffix, 2 * found.length + 1 ≤ room →
    mark ∈ ([comma, closing] : List Text) →
    evaluateItem room (found ++ mark :: suffix) = some (item, mark :: suffix)

def DenotesItem (text : Text) (item : Item) : Prop :=
  ∃ found, Lexes text found ∧ (ItemFits item → EvaluatesItem found item)

theorem head_not_minus {mark : Text} (isMark : mark ∈ ([comma, closing] : List Text))
    (suffix : List Text) : (mark :: suffix).head? ≠ some minus := by
  intro same
  rw [Option.some.inj same] at isMark
  revert isMark
  decide

theorem Evaluates.item {found : List Text} {datum : Datum} (evaluates : Evaluates found datum) :
    EvaluatesItem found (none, datum) := by
  refine ⟨evaluates.opens, ?_⟩
  intro room mark suffix enough isMark
  obtain ⟨less, rfl⟩ := Nat.exists_eq_add_one.2 (show 0 < room by omega)
  have noMinus := head_not_minus isMark suffix
  have taken := evaluates.evaluates less (mark :: suffix) (by omega) noMinus
  rw [evaluateItem, taken]
  simp only [List.mem_cons, List.not_mem_nil, or_false] at isMark
  rcases isMark with rfl | rfl
  · rfl
  · rfl

theorem Evaluates.entry {foundKey found : List Text} {keyDatum datum : Datum} {key : ArrayKey}
    (evaluatesKey : Evaluates foundKey keyDatum) (isKey : ArrayKey.ofDatum? keyDatum = some key)
    (evaluates : Evaluates found datum) :
    EvaluatesItem (foundKey ++ arrow :: found) (some key, datum) := by
  obtain ⟨⟨first, rest, opens, unclosed⟩, takesKey⟩ := evaluatesKey
  refine ⟨⟨first, rest ++ arrow :: found, by rw [opens]; rfl, unclosed⟩, ?_⟩
  intro room mark suffix enough isMark
  rw [List.length_append, List.length_cons] at enough
  obtain ⟨less, rfl⟩ := Nat.exists_eq_add_one.2 (show 0 < room by omega)
  have noMinus := head_not_minus isMark suffix
  have keyTaken := takesKey less (arrow :: (found ++ mark :: suffix)) (by omega) nofun
  have taken := evaluates.evaluates less (mark :: suffix) (by omega) noMinus
  rw [List.append_assoc, List.cons_append, evaluateItem, keyTaken]
  change (ArrayKey.ofDatum? keyDatum).bind _ = _
  rw [isKey, Option.bind_some, taken]
  rfl

def commaJoined (founds : List (List Text)) : List Text := List.intercalate [comma] founds

theorem comma_joined_cons (found next : List Text) (founds : List (List Text)) :
    commaJoined (found :: next :: founds) = found ++ comma :: commaJoined (next :: founds) := by
  rw [commaJoined, List.intercalate_cons_cons, List.append_assoc]
  rfl

theorem run_joined {texts : List Text} {founds : List (List Text)}
    (each : List.Forall₂ Lexes texts founds) :
    run .idle (Text.joinWith ", " texts ++ [.char ']']) =
      (commaJoined founds ++ [closing], .idle) := by
  induction each with
  | nil => decide
  | @cons text found texts founds first later ih =>
      cases later with
      | nil =>
          rw [Text.joinWith, List.intercalate_singleton, commaJoined, List.intercalate_singleton,
            first.run_before (by decide)]
          simp only [run, List.append_nil]
          rfl
      | @cons next nextFound others otherFounds _ _ =>
          have joined : Text.joinWith ", " (text :: next :: others) ++ [.char ']'] =
              text ++ .char ',' :: .char ' ' ::
                (Text.joinWith ", " (next :: others) ++ [.char ']']) := by
            rw [Text.joinWith, List.intercalate_cons_cons, List.append_assoc, List.append_assoc]
            rfl
          have blank : ∀ later, run .idle (.char ' ' :: later) = run .idle later := fun _ => rfl
          rw [joined, first.run_before (by decide), blank, ih, comma_joined_cons]
          simp only [List.append_assoc]
          rfl

theorem lexes_bracketed {texts : List Text} {founds : List (List Text)}
    (each : List.Forall₂ Lexes texts founds) :
    Lexes (bracketed texts) (opening :: (commaJoined founds ++ [closing])) := by
  have ran : run .idle (bracketed texts) =
      (opening :: (commaJoined founds ++ [closing]), .idle) := by
    have opened : step .idle '[' = ([opening], .idle) := by decide
    have written : bracketed texts = .char '[' :: (Text.joinWith ", " texts ++ [.char ']']) := by
      rw [bracketed, List.append_assoc]
      rfl
    rw [written, run_cons, opened, run_joined each]
    rfl
  constructor
  · rw [ran]
    rfl
  · rw [tokens, ran]
    exact List.append_nil _

theorem lexes_entry {keyText text : Text} {foundKey found : List Text}
    (lexesKey : Lexes keyText foundKey) (lexes : Lexes text found) :
    Lexes (keyText ++ " => " ++ text) (foundKey ++ arrow :: found) := by
  have separated : run .idle (.char '=' :: .char '>' :: .char ' ' :: text) =
      (arrow :: (run .idle text).1, (run .idle text).2) := rfl
  have ran : run .idle (keyText ++ " => " ++ text) =
      (foundKey ++ arrow :: (run .idle text).1, (run .idle text).2) := by
    have written : keyText ++ " => " ++ text =
        keyText ++ .char ' ' :: .char '=' :: .char '>' :: .char ' ' :: text := by
      rw [List.append_assoc]
      rfl
    rw [written, lexesKey.run_before (by decide), separated]
    simp only [List.append_assoc]
    rfl
  constructor
  · rw [ran]
    exact lexes.code
  · rw [tokens, ran, ← lexes.found, tokens]
    simp only [List.append_assoc, List.cons_append]

theorem Denotes.item {text : Text} {datum : Datum} (denotes : Denotes text datum) :
    DenotesItem text (none, datum) := by
  obtain ⟨found, lexes, evaluates⟩ := denotes
  exact ⟨found, lexes, fun fits => (evaluates fits.2).item⟩

theorem Denotes.entry {keyText text : Text} {keyDatum datum : Datum} {key : ArrayKey}
    (denotesKey : Denotes keyText keyDatum) (isKey : ArrayKey.ofDatum? keyDatum = some key)
    (keyFits : key.fits = true → keyDatum.fits = true) (denotes : Denotes text datum) :
    DenotesItem (keyText ++ " => " ++ text) (some key, datum) := by
  obtain ⟨foundKey, lexesKey, evaluatesKey⟩ := denotesKey
  obtain ⟨found, lexes, evaluates⟩ := denotes
  refine ⟨_, lexes_entry lexesKey lexes, fun fits => ?_⟩
  exact (evaluatesKey (keyFits (fits.1 key rfl))).entry isKey (evaluates fits.2)

/-- Items up to the closing bracket, as long as the script can hold them. -/
theorem evaluate_items {founds : List (List Text)} {items : List Item}
    (each : List.Forall₂ EvaluatesItem founds items) (room : Nat) (suffix : List Text)
    (enough : 2 * (commaJoined founds).length + 2 ≤ room) :
    evaluateItems room (commaJoined founds ++ closing :: suffix) = some (items, suffix) := by
  induction each generalizing room with
  | nil =>
      obtain ⟨less, rfl⟩ := Nat.exists_eq_add_one.2 (show 0 < room by omega)
      rfl
  | @cons found item founds items first later ih =>
      obtain ⟨less, rfl⟩ := Nat.exists_eq_add_one.2 (show 0 < room by omega)
      obtain ⟨⟨token, rest, opens, unclosed⟩, takes⟩ := first
      have opened : ∀ more after, found ++ more ≠ closing :: after := by
        intro more after same
        rw [opens] at same
        exact unclosed (List.cons.inj same).1
      cases later with
      | nil =>
          rw [commaJoined, List.intercalate_singleton] at enough ⊢
          rw [evaluateItems, takes less closing suffix (by omega) (by decide)]
          · rfl
          · exact fun after => opened _ after
      | @cons next nextItem founds items _ _ =>
          rw [comma_joined_cons, List.length_append, List.length_cons] at enough
          have others := ih less (by omega)
          rw [comma_joined_cons, List.append_assoc, List.cons_append, evaluateItems,
            takes less comma _ (by omega) (by decide)]
          · change (evaluateItems less _).bind _ = _
            rw [others]
            rfl
          · exact fun after => opened _ after

theorem exists_founds {texts : List Text} {items : List Item}
    (each : List.Forall₂ DenotesItem texts items) :
    ∃ founds, List.Forall₂ Lexes texts founds ∧
      ((∀ item ∈ items, ItemFits item) → List.Forall₂ EvaluatesItem founds items) := by
  induction each with
  | nil => exact ⟨[], .nil, fun _ => .nil⟩
  | cons first _ ih =>
      obtain ⟨found, lexes, evaluates⟩ := first
      obtain ⟨founds, lexed, evaluated⟩ := ih
      refine ⟨found :: founds, .cons lexes lexed, fun fits => ?_⟩
      obtain ⟨itemFits, othersFit⟩ := List.forall_mem_cons.1 fits
      exact .cons (evaluates itemFits) (evaluated othersFit)

theorem denotes_array {texts : List Text} {items : List Item}
    {entries : List (ArrayKey × Datum)} (each : List.Forall₂ DenotesItem texts items)
    (arranged : (entries.map Prod.fst).Nodup → entriesFit entries = true →
      (∀ item ∈ items, ItemFits item) ∧ arrange [] 0 items = some entries) :
    Denotes (bracketed texts) (.array entries) := by
  obtain ⟨founds, lexed, evaluated⟩ := exists_founds each
  refine ⟨_, lexes_bracketed lexed, fun fits => ⟨⟨_, _, rfl, by decide⟩, ?_⟩⟩
  intro room suffix enough noMinus
  rw [Datum.fits, Bool.and_eq_true, decide_eq_true_eq] at fits
  obtain ⟨itemsFit, inOrder⟩ := arranged fits.1 fits.2
  rw [List.length_cons, List.length_append, List.length_singleton] at enough
  obtain ⟨less, rfl⟩ := Nat.exists_eq_add_one.2 (show 0 < room by omega)
  have taken := evaluate_items (evaluated itemsFit) less suffix (by omega)
  rw [List.cons_append, List.append_assoc, evaluateWithin, if_pos rfl, List.singleton_append, taken]
  change (arrange [] 0 items).bind _ = _
  rw [inOrder]
  rfl

theorem put_fresh {key : ArrayKey} (datum : Datum) {entries : List (ArrayKey × Datum)}
    (fresh : key ∉ entries.map Prod.fst) : put key datum entries = entries ++ [(key, datum)] := by
  induction entries with
  | nil => rfl
  | cons entry entries ih =>
      rw [List.map_cons, List.mem_cons, not_or] at fresh
      rw [put, if_neg (Ne.symm fresh.1), ih fresh.2]
      rfl

/-- Where no key is there twice, the entries are kept as they come. -/
theorem arrange_keyed (entries others : List (ArrayKey × Datum)) (next : Int)
    (distinct : ((entries ++ others).map Prod.fst).Nodup) :
    arrange entries next (others.map fun entry => (some entry.1, entry.2)) =
      some (entries ++ others) := by
  induction others generalizing entries next with
  | nil => rw [List.append_nil]; rfl
  | cons entry others ih =>
      obtain ⟨key, datum⟩ := entry
      have fresh : key ∉ entries.map Prod.fst := by
        intro earlier
        rw [List.map_append, List.nodup_append] at distinct
        exact distinct.2.2 key earlier key (by simp) rfl
      rw [List.append_cons] at distinct
      have rest := fun number => ih (entries ++ [(key, datum)]) number distinct
      rw [← put_fresh datum fresh] at rest
      rw [List.append_cons, ← put_fresh datum fresh]
      cases key with
      | int number => exact rest _
      | text content => exact rest next

theorem arrange_numbered (entries : List (ArrayKey × Datum)) (next : Int) (data : List Datum)
    (distinct : ((entries ++ numbered next data).map Prod.fst).Nodup)
    (fit : entriesFit (numbered next data) = true) :
    arrange entries next (data.map fun datum => (none, datum)) =
      some (entries ++ numbered next data) := by
  induction data generalizing entries next with
  | nil => rw [numbered, List.append_nil]; rfl
  | cons datum data ih =>
      rw [numbered] at distinct fit ⊢
      rw [entriesFit, Bool.and_eq_true, Bool.and_eq_true] at fit
      obtain ⟨⟨keyFits, _⟩, othersFit⟩ := fit
      have small : next ≤ greatestInt := by
        simp only [ArrayKey.fits, isWordSized, Bool.and_eq_true, decide_eq_true_eq] at keyFits
        exact keyFits.2
      have fresh : ArrayKey.int next ∉ entries.map Prod.fst := by
        intro earlier
        rw [List.map_append, List.nodup_append] at distinct
        exact distinct.2.2 _ earlier (.int next) (by simp) rfl
      rw [List.append_cons] at distinct
      rw [List.map_cons, arrange, if_pos small, put_fresh datum fresh, ih _ _ distinct othersFit,
        List.append_assoc]
      rfl

theorem numbered_fit (next : Int) (data : List Datum)
    (fit : entriesFit (numbered next data) = true) : ∀ datum ∈ data, datum.fits = true := by
  induction data generalizing next with
  | nil => exact nofun
  | cons datum data ih =>
      rw [numbered, entriesFit, Bool.and_eq_true, Bool.and_eq_true] at fit
      exact List.forall_mem_cons.2 ⟨fit.1.2, ih (next + 1) fit.2⟩

theorem denotes_list {texts : List Text} {data : List Datum}
    (each : List.Forall₂ DenotesItem texts (data.map fun datum => (none, datum))) :
    Denotes (bracketed texts) (.array (numbered 0 data)) := by
  apply denotes_array each
  intro distinct fit
  refine ⟨?_, arrange_numbered [] 0 data distinct fit⟩
  intro item member
  obtain ⟨datum, among, rfl⟩ := List.mem_map.1 member
  exact ⟨nofun, numbered_fit 0 data fit datum among⟩

theorem denotes_map {texts : List Text} {entries : List (ArrayKey × Datum)}
    (each : List.Forall₂ DenotesItem texts (entries.map fun entry => (some entry.1, entry.2))) :
    Denotes (bracketed texts) (.array entries) := by
  apply denotes_array each
  intro distinct fit
  refine ⟨?_, arrange_keyed [] entries 0 distinct⟩
  intro item member
  obtain ⟨entry, among, rfl⟩ := List.mem_map.1 member
  obtain ⟨keyFits, datumFits⟩ := (entries_fit_iff entries).1 fit entry among
  refine ⟨?_, datumFits⟩
  rintro key same
  rw [← Option.some.inj same]
  exact keyFits

theorem denotes_octets (octets : List UInt8) :
    List.Forall₂ DenotesItem (octets.map fun octet => Text.ofNat octet.toNat)
      ((octets.map fun octet => Datum.int octet.toNat).map fun datum => (none, datum)) := by
  induction octets with
  | nil => exact .nil
  | cons octet octets ih =>
      have digits := (denotes_whole octet.toNat).1
      rw [← of_nat_eq] at digits
      exact .cons digits.item ih

theorem denotes_key (key : Value) (text : Text) (accepted : ofKey key = .ok text) :
    ∃ datum, Denotes text datum ∧ ArrayKey.ofDatum? datum = some (.ofValue key) ∧
      ((ArrayKey.ofValue key).fits = true → datum.fits = true) := by
  cases key with
  | int number => exact ⟨_, denotes_int number text accepted, rfl, id⟩
  | str content =>
      rw [← Except.ok.inj accepted]
      exact ⟨_, denotes_text content, rfl, fun _ => rfl⟩
  | _ => exact absurd accepted (by simp [ofKey])

mutual

/-- By the recursion that wrote the literal. -/
theorem denotes_value (room : Room) : ∀ (around : List Call) (value : Value) (text : Text),
    ofValueWithin room around value = .ok text → Denotes text (image value)
  | _, .null, text, accepted => by
      rw [← Except.ok.inj (allow_ok_iff.1 accepted).2]
      exact denotes_null
  | _, .bool truth, text, accepted => by
      rw [← Except.ok.inj (allow_ok_iff.1 accepted).2]
      exact denotes_bool truth
  | _, .int number, text, accepted => denotes_int number text (allow_ok_iff.1 accepted).2
  | _, .float number, text, accepted => by
      rw [← Except.ok.inj (allow_ok_iff.1 accepted).2]
      exact denotes_double number
  | _, .str content, text, accepted => by
      rw [← Except.ok.inj (allow_ok_iff.1 accepted).2]
      exact denotes_text content
  | _, .bytes octets, text, accepted => by
      rw [← Except.ok.inj (allow_ok_iff.1 accepted).2, image]
      exact denotes_list (denotes_octets octets)
  | _, .list items, text, accepted => by
      obtain ⟨texts, itemsAccepted, rfl⟩ := contents_ok_iff.1 (allow_ok_iff.1 accepted).2
      rw [image]
      exact denotes_list (denotes_items room _ items texts itemsAccepted)
  | _, .tuple items, text, accepted => by
      obtain ⟨texts, itemsAccepted, rfl⟩ := contents_ok_iff.1 (allow_ok_iff.1 accepted).2
      rw [image]
      exact denotes_list (denotes_items room _ items texts itemsAccepted)
  | _, .map entries, text, accepted => by
      obtain ⟨texts, entriesAccepted, rfl⟩ := contents_ok_iff.1 (allow_ok_iff.1 accepted).2
      rw [image]
      exact denotes_map (denotes_entries room _ entries texts entriesAccepted)
  | _, .set items, text, rejected => nomatch (allow_ok_iff.1 rejected).2
  | _, .date day, text, rejected => nomatch (allow_ok_iff.1 rejected).2
  | _, .moment time, text, rejected => nomatch (allow_ok_iff.1 rejected).2
  | _, .alien, text, rejected => nomatch (allow_ok_iff.1 rejected).2
  | _, .knot label body, text, rejected => by
      obtain ⟨_, _, failed⟩ := bind_ok_iff.1 rejected
      cases failed

theorem denotes_items (room : Room) : ∀ (around : List Call) (items : List Value)
    (texts : List Text), ofItems room around items = .ok texts →
      List.Forall₂ DenotesItem texts ((images items).map fun datum => (none, datum))
  | _, [], texts, accepted => by
      rw [← Except.ok.inj accepted]
      exact .nil
  | around, item :: items, texts, accepted => by
      obtain ⟨text, itemAccepted, rest⟩ := bind_ok_iff.1 accepted
      obtain ⟨others, othersAccepted, written⟩ := bind_ok_iff.1 rest
      rw [← Except.ok.inj written]
      exact .cons (denotes_value room around item text itemAccepted).item
        (denotes_items room around items others othersAccepted)

theorem denotes_entries (room : Room) : ∀ (around : List Call) (entries : List (Value × Value))
    (texts : List Text), ofEntries room around entries = .ok texts →
      List.Forall₂ DenotesItem texts
        ((entryImages entries).map fun entry => (some entry.1, entry.2))
  | _, [], texts, accepted => by
      rw [← Except.ok.inj accepted]
      exact .nil
  | around, (key, value) :: entries, texts, accepted => by
      obtain ⟨keyText, keyAccepted, rest⟩ := bind_ok_iff.1 accepted
      obtain ⟨text, valueAccepted, remaining⟩ := bind_ok_iff.1 rest
      obtain ⟨others, othersAccepted, written⟩ := bind_ok_iff.1 remaining
      obtain ⟨keyDatum, keyDenotes, isKey, keyFits⟩ :=
        denotes_key key keyText (allow_ok_iff.1 keyAccepted).2
      rw [← Except.ok.inj written]
      exact .cons
        (keyDenotes.entry isKey keyFits (denotes_value room around value text valueAccepted))
        (denotes_entries room around entries others othersAccepted)

end

theorem Denotes.evaluate_eq {text : Text} {datum : Datum} (denotes : Denotes text datum)
    (fits : datum.fits = true) : evaluate text = some datum := by
  obtain ⟨found, lexes, evaluates⟩ := denotes
  have taken := (evaluates fits).evaluates (2 * found.length) [] (Nat.le_refl _) nofun
  rw [List.append_nil] at taken
  rw [evaluate, lexes.found, taken]

theorem evaluate_fits {text : Text} {datum : Datum} (evaluated : evaluate text = some datum) :
    datum.fits = true := by
  unfold evaluate at evaluated
  split at evaluated
  · rename_i found result
    rw [← Option.some.inj evaluated]
    exact (evaluated_fits _).1 _ found [] result
  · cases evaluated

/-- A literal comes to the value it was written for if and only if the script can hold that value:
every whole number in it has 64 bits, and no two keys of a mapping are one key to the script. All
numbers are then the same numbers, and an array has the entries of its mapping, each with its own
value. -/
theorem evaluate_of_value (room : Room) (value : Value) (text : Text)
    (written : ofValue room value = .ok text) :
    evaluate text = some (image value) ↔ (image value).fits = true :=
  ⟨evaluate_fits, (denotes_value room [] value text written).evaluate_eq⟩

/-- The theorem at a mapping whose keys look alike but stay apart, with both ends of the 64 bits. -/
theorem evaluate_of_value_nested :
    let value := Value.map [(.str "1", .list [.int leastInt, .bytes [255]]),
      (.str "01", .list [.null, .str "9223372036854775808"])]
    let text : Text := "['1' => [-9223372036854775807-1, [255]], " ++
      "'01' => [null, '9223372036854775808']]"
    let room := Room.ofFrames 8
    ofValue room value = .ok text ∧ evaluate text = some (.array [
      (.int 1, .array [(.int 0, .int leastInt), (.int 1, .array [(.int 0, .int 255)])]),
      (.text "01", .array [(.int 0, .null), (.int 1, .text "9223372036854775808")])]) := by
  intro value text room
  have written : ofValue room value = .ok text := rfl
  refine ⟨written, ?_⟩
  exact (evaluate_of_value room value text written).2 (by decide +kernel)

/-- A whole number with more than 64 bits comes to a float, and a mapping with two keys that are one
key to the script does not keep both of its entries. -/
theorem evaluate_changes :
    let room := Room.ofFrames 4
    ofValue room (.int 9223372036854775808) = .ok "9223372036854775808" ∧
    evaluate "9223372036854775808" =
      some (.float (Double.ofDecimal false 9223372036854775808 0)) ∧
    ofValue room (.map [(.int 1, .str "a"), (.str "1", .str "b")]) = .ok "[1 => 'a', '1' => 'b']" ∧
    evaluate "[1 => 'a', '1' => 'b']" ≠
      some (.array [(.int 1, .text "a"), (.int 1, .text "b")]) := by
  intro room
  refine ⟨?_, ?_, ?_, ?_⟩
  · have wide : ofInt 9223372036854775808 = .ok "9223372036854775808" :=
      int_of_small (by decide) (by decide)
    rw [ofValue, ofValueWithin, wide]
    rfl
  · exact (denotes_wide 9223372036854775808 rfl).evaluate_eq rfl
  · have one : ofInt 1 = .ok "1" := int_of_small (by decide) (by decide)
    simp only [ofValue, ofValueWithin, ofEntries, ofKey, one]
    rfl
  · exact fun evaluated => Bool.false_ne_true (evaluate_fits evaluated)

end Stubwright.Literal
