import Stubwright.Proofs.Literal.Accepted
import Stubwright.Rendering.Member

/-!
Which part of a value keeps it from being written. A value is looked through in the order of
writing, a collection before what it holds and a key before its value, and the first part that is at
fault decides. A part offends if its kind has no form; it is hindered if its kind has one, but its
number is too long, it has no end, or there is no room for it.
-/

namespace Stubwright.Literal

/-- A part of a value, a value in it or a key, inside the calls around it. -/
inductive Part where
  | value (around : List Call) (value : Value)
  | key (around : List Call) (key : Value)

namespace Part

def calls : Part → List Call
  | .value around held => .value held :: around
  | .key around held => .key held :: around

/-- Whether a part is of a kind without a form. A truth value has a form, but not as a key. -/
def isOffending : Part → Bool
  | .value _ (.set _) => true
  | .value _ (.date _) => true
  | .value _ (.moment _) => true
  | .value _ .alien => true
  | .value _ _ => false
  | .key _ (.int _) => false
  | .key _ (.str _) => false
  | .key _ _ => true

def rejection : Part → RenderError
  | .value _ held => .noLiteral held
  | .key _ held => .badKey held

/-- Whether a part leads back to a collection that it stands in, or is such a collection. -/
def isEndless : Part → Bool
  | .value _ (.knot _ _) => true
  | .value _ (.link _ _) => true
  | _ => false

def isLong : Part → Bool
  | .value _ (.int number) => !isShort number
  | .key _ (.int number) => !isShort number
  | _ => false

/-- What hinders a part although its kind has a form. -/
def hindrance? (room : Room) (part : Part) : Option RenderError :=
  if part.isEndless || !room.holds part.calls then some (.endless (room.circumstance part.calls))
  else if part.isLong then some .longNumber
  else none

def fault? (room : Room) (part : Part) : Option RenderError :=
  (part.hindrance? room).or (if part.isOffending then some part.rejection else none)

def alone (room : Room) : Part → Except RenderError Text
  | .value _ held => ofValue room held
  | .key _ held => room.allow [.key held] (ofKey held)

def inside (around : List Call) : Part → Part
  | .value inner held => .value (inner ++ around) held
  | .key inner held => .key (inner ++ around) held

end Part

mutual

/-- A value and all that it holds, in the order of writing. That a collection stands in itself is
noticed only where it is reached again, so what it holds comes first. -/
def parts (around : List Call) : Value → List Part
  | .list items =>
      .value around (.list items) :: partsOfItems (.value (.list items) :: around) items
  | .tuple items =>
      .value around (.tuple items) :: partsOfItems (.value (.tuple items) :: around) items
  | .map entries =>
      .value around (.map entries) :: partsOfEntries (.value (.map entries) :: around) entries
  | .knot label body => parts around body ++ [.value around (.knot label body)]
  | value => [.value around value]

def partsOfItems (around : List Call) : List Value → List Part
  | [] => []
  | item :: items => parts around item ++ partsOfItems around items

def partsOfEntries (around : List Call) : List (Value × Value) → List Part
  | [] => []
  | (key, value) :: entries =>
      .key around key :: (parts around value ++ partsOfEntries around entries)

end

def partsInside (value : Value) : List Part :=
  match value with
  | .list items => partsOfItems [.value value] items
  | .tuple items => partsOfItems [.value value] items
  | .map entries => partsOfEntries [.value value] entries
  | _ => []

def cause? {α : Type} : Except RenderError α → Option RenderError
  | .ok _ => none
  | .error cause => some cause

section

variable {α β : Type} {room : Room} {part : Part}

theorem cause_eq_some {outcome : Except RenderError α} {cause : RenderError} :
    cause? outcome = some cause ↔ outcome = .error cause := by
  cases outcome <;> simp [cause?]

theorem is_ok_eq_false {outcome : Except RenderError α} :
    outcome.isOk = false ↔ (cause? outcome).isSome = true := by
  cases outcome <;> simp [cause?, Except.isOk, Except.toBool]

/-- What comes second is at fault only where the first is not. -/
theorem cause_bind {first : Except RenderError α} {next : α → Except RenderError β}
    {later : Option RenderError} (same : ∀ value, cause? (next value) = later) :
    cause? (first >>= next) = (cause? first).or later := by
  cases first with
  | error cause => rfl
  | ok value => exact same value

theorem cause_map (outcome : Except RenderError α) (write : α → β) :
    cause? (do return write (← outcome)) = cause? outcome := by
  cases outcome <;> rfl

theorem cause_allow {outcome : Except RenderError α} {own : Option RenderError}
    (finite : part.isEndless = false) (short : part.isLong = false)
    (same : cause? outcome = own) :
    cause? (room.allow part.calls outcome) = (part.hindrance? room).or own := by
  rw [Room.allow, Part.hindrance?, finite, short, ← same]
  cases room.holds part.calls <;> rfl

/-- A part that holds no others fails for its own fault. -/
theorem cause_leaf (part : Part) {outcome : Except RenderError α} (finite : part.isEndless = false)
    (same : cause? outcome = if part.isLong then some .longNumber
      else if part.isOffending then some part.rejection else none) :
    cause? (room.allow part.calls outcome) = part.fault? room := by
  rw [Room.allow, Part.fault?, Part.hindrance?, finite]
  cases room.holds part.calls with
  | false => rfl
  | true =>
      rw [if_pos rfl, same]
      cases part.isLong <;> rfl

/-- A collection needs room for itself, and then fails with what it holds. -/
theorem cause_collection (part : Part) {contents : Except RenderError (List α)}
    {write : List α → Text} {held : List Part} (finite : part.isEndless = false)
    (short : part.isLong = false)
    (kind : part.isOffending = false)
    (same : cause? contents = held.findSome? (Part.fault? room)) :
    cause? (room.allow part.calls do return write (← contents)) =
      (part :: held).findSome? (Part.fault? room) := by
  rw [cause_allow finite short ((cause_map contents write).trans same), List.findSome?_cons,
    Part.fault?, kind]
  cases part.hindrance? room <;> rfl

end

theorem cause_int (number : Int) :
    cause? (ofInt number) = if isShort number then none else some .longNumber := by
  unfold ofInt isShort
  by_cases least : number = leastInt
  · simp [least, cause?]
  · cases Decimal.isTooLong number <;> simp [least, cause?]

theorem cause_key (room : Room) (around : List Call) (key : Value) :
    cause? (room.allow (.key key :: around) (ofKey key)) = (Part.key around key).fault? room := by
  refine cause_leaf (.key around key) rfl ?_
  cases key with
  | int number =>
      rw [ofKey, cause_int, Part.isLong]
      cases isShort number <;> rfl
  | _ => rfl

section

variable {room : Room}

theorem cause_leaf_value {around : List Call} {value : Value} {outcome : Except RenderError Text}
    (finite : (Part.value around value).isEndless = false)
    (same : cause? outcome = if (Part.value around value).isLong then some .longNumber
      else if (Part.value around value).isOffending then some (.noLiteral value) else none) :
    cause? (room.allow (.value value :: around) outcome) =
      [Part.value around value].findSome? (Part.fault? room) := by
  rw [List.findSome?_singleton]
  exact cause_leaf (.value around value) finite same

mutual

/-- Writing fails at the first part that is at fault. -/
theorem cause_value : ∀ (around : List Call) (value : Value),
    cause? (ofValueWithin room around value) = (parts around value).findSome? (Part.fault? room)
  | _, .null => cause_leaf_value rfl rfl
  | _, .bool _ => cause_leaf_value rfl rfl
  | _, .int number => by
      refine cause_leaf_value rfl ?_
      rw [cause_int, Part.isLong]
      cases isShort number <;> rfl
  | _, .float _ => cause_leaf_value rfl rfl
  | _, .str _ => cause_leaf_value rfl rfl
  | _, .bytes _ => cause_leaf_value rfl rfl
  | around, .list items =>
      cause_collection (.value around (.list items)) rfl rfl rfl (cause_items _ items)
  | around, .tuple items =>
      cause_collection (.value around (.tuple items)) rfl rfl rfl (cause_items _ items)
  | around, .map entries =>
      cause_collection (.value around (.map entries)) rfl rfl rfl (cause_entries _ entries)
  | _, .set _ => cause_leaf_value rfl rfl
  | _, .date _ => cause_leaf_value rfl rfl
  | _, .moment _ => cause_leaf_value rfl rfl
  | _, .alien => cause_leaf_value rfl rfl
  | around, .knot label body => by
      rw [ofValueWithin, parts, List.findSome?_append, ← cause_value]
      exact cause_bind fun _ => rfl
  | _, .link _ _ => rfl

theorem cause_items : ∀ (around : List Call) (items : List Value),
    cause? (ofItems room around items) = (partsOfItems around items).findSome? (Part.fault? room)
  | _, [] => rfl
  | around, item :: items => by
      rw [ofItems, partsOfItems, List.findSome?_append, ← cause_value, ← cause_items]
      exact cause_bind fun _ => cause_map _ _

theorem cause_entries : ∀ (around : List Call) (entries : List (Value × Value)),
    cause? (ofEntries room around entries) =
      (partsOfEntries around entries).findSome? (Part.fault? room)
  | _, [] => rfl
  | around, (key, value) :: entries => by
      have keyFirst : (Part.key around key :: (parts around value ++
          partsOfEntries around entries)).findSome? (Part.fault? room) =
            ((Part.key around key).fault? room).or
              (((parts around value).findSome? (Part.fault? room)).or
                ((partsOfEntries around entries).findSome? (Part.fault? room))) := by
        rw [← List.singleton_append, List.findSome?_append, List.findSome?_singleton,
          List.findSome?_append]
      rw [ofEntries, partsOfEntries, keyFirst, ← cause_key, ← cause_value, ← cause_entries]
      exact cause_bind fun _ => cause_bind fun _ => cause_map _ _

end

theorem fails_iff (around : List Call) (value : Value) :
    (ofValueWithin room around value).isOk = false ↔
      ∃ part ∈ parts around value, (part.fault? room).isSome = true := by
  rw [is_ok_eq_false, cause_value, List.findSome?_isSome_iff]

end

mutual

/-- The parts of a value are the same wherever it stands, each inside the calls that are around. -/
theorem parts_append (around : List Call) : ∀ (inner : List Call) (value : Value),
    parts (inner ++ around) value = (parts inner value).map (Part.inside around)
  | _, .list items => congrArg (_ :: ·) (items_append around (_ :: _) items)
  | _, .tuple items => congrArg (_ :: ·) (items_append around (_ :: _) items)
  | _, .map entries => congrArg (_ :: ·) (entries_append around (_ :: _) entries)
  | inner, .knot label body => by
      rw [parts, parts, List.map_append, parts_append around inner body]
      rfl
  | _, .null => rfl
  | _, .bool _ => rfl
  | _, .int _ => rfl
  | _, .float _ => rfl
  | _, .str _ => rfl
  | _, .bytes _ => rfl
  | _, .set _ => rfl
  | _, .date _ => rfl
  | _, .moment _ => rfl
  | _, .alien => rfl
  | _, .link _ _ => rfl

theorem items_append (around : List Call) : ∀ (inner : List Call) (items : List Value),
    partsOfItems (inner ++ around) items = (partsOfItems inner items).map (Part.inside around)
  | _, [] => rfl
  | inner, item :: items => by
      rw [partsOfItems, partsOfItems, List.map_append, parts_append around inner item,
        items_append around inner items]

theorem entries_append (around : List Call) : ∀ (inner : List Call)
    (entries : List (Value × Value)), partsOfEntries (inner ++ around) entries =
      (partsOfEntries inner entries).map (Part.inside around)
  | _, [] => rfl
  | inner, (key, value) :: entries => by
      rw [partsOfEntries, partsOfEntries, List.map_cons, List.map_append,
        parts_append around inner value, entries_append around inner entries]
      rfl

end

theorem self_mem_parts (around : List Call) (value : Value) :
    .value around value ∈ parts around value := by
  cases value <;> simp [parts]

theorem parts_of_itself {around outer : List Call} {value held : Value}
    (same : Part.value around held = .value outer value) :
    parts around held ⊆ parts outer value := by
  cases same
  exact List.Subset.refl _

mutual

/-- What a part of a value holds, the value holds as well. -/
theorem parts_of_part : ∀ (outer : List Call) (value : Value) {around : List Call} {held : Value},
    .value around held ∈ parts outer value → parts around held ⊆ parts outer value
  | _, .list items, _, _, member => by
      rcases List.mem_cons.1 member with same | inside
      · exact parts_of_itself same
      · exact List.subset_cons_of_subset _ (parts_of_item _ items inside)
  | _, .tuple items, _, _, member => by
      rcases List.mem_cons.1 member with same | inside
      · exact parts_of_itself same
      · exact List.subset_cons_of_subset _ (parts_of_item _ items inside)
  | _, .map entries, _, _, member => by
      rcases List.mem_cons.1 member with same | inside
      · exact parts_of_itself same
      · exact List.subset_cons_of_subset _ (parts_of_entry _ entries inside)
  | outer, .knot label body, _, _, member => by
      rcases List.mem_append.1 member with inside | last
      · exact List.subset_append_of_subset_left _ (parts_of_part outer body inside)
      · exact parts_of_itself (List.mem_singleton.1 last)
  | _, .null, _, _, member => parts_of_itself (List.mem_singleton.1 member)
  | _, .bool _, _, _, member => parts_of_itself (List.mem_singleton.1 member)
  | _, .int _, _, _, member => parts_of_itself (List.mem_singleton.1 member)
  | _, .float _, _, _, member => parts_of_itself (List.mem_singleton.1 member)
  | _, .str _, _, _, member => parts_of_itself (List.mem_singleton.1 member)
  | _, .bytes _, _, _, member => parts_of_itself (List.mem_singleton.1 member)
  | _, .set _, _, _, member => parts_of_itself (List.mem_singleton.1 member)
  | _, .date _, _, _, member => parts_of_itself (List.mem_singleton.1 member)
  | _, .moment _, _, _, member => parts_of_itself (List.mem_singleton.1 member)
  | _, .alien, _, _, member => parts_of_itself (List.mem_singleton.1 member)
  | _, .link _ _, _, _, member => parts_of_itself (List.mem_singleton.1 member)

theorem parts_of_item : ∀ (outer : List Call) (items : List Value) {around : List Call}
    {held : Value}, .value around held ∈ partsOfItems outer items →
      parts around held ⊆ partsOfItems outer items
  | outer, item :: items, _, _, member => by
      rw [partsOfItems] at member ⊢
      rcases List.mem_append.1 member with here | later
      · exact List.subset_append_of_subset_left _ (parts_of_part outer item here)
      · exact List.subset_append_of_subset_right _ (parts_of_item outer items later)

theorem parts_of_entry : ∀ (outer : List Call) (entries : List (Value × Value))
    {around : List Call} {held : Value}, .value around held ∈ partsOfEntries outer entries →
      parts around held ⊆ partsOfEntries outer entries
  | outer, (key, value) :: entries, _, _, member => by
      rw [partsOfEntries] at member ⊢
      rcases List.mem_cons.1 member with itsKey | member
      · cases itsKey
      · refine List.subset_cons_of_subset _ ?_
        rcases List.mem_append.1 member with here | later
        · exact List.subset_append_of_subset_left _ (parts_of_part outer value here)
        · exact List.subset_append_of_subset_right _ (parts_of_entry outer entries later)

end

theorem mem_parts_of_inside {value : Value} {part : Part} (member : part ∈ partsInside value) :
    part ∈ parts [] value := by
  cases value with
  | list items => exact List.mem_cons_of_mem _ member
  | tuple items => exact List.mem_cons_of_mem _ member
  | map entries => exact List.mem_cons_of_mem _ member
  | _ => cases member

section

variable {room : Room} {part : Part}

theorem fault_iff : (part.fault? room).isSome = true ↔
    part.isEndless = true ∨ room.holds part.calls = false ∨ part.isLong = true ∨
      part.isOffending = true := by
  unfold Part.fault? Part.hindrance?
  cases part.isEndless <;> cases room.holds part.calls <;> cases part.isLong <;>
    cases part.isOffending <;> simp

theorem endless_inside (around : List Call) :
    (part.inside around).isEndless = part.isEndless := by
  cases part with
  | value _ held => cases held <;> rfl
  | key _ _ => rfl

theorem long_inside (around : List Call) : (part.inside around).isLong = part.isLong := by
  cases part with
  | value _ held => cases held <;> rfl
  | key _ held => cases held <;> rfl

theorem offending_inside (part : Part) (around : List Call) :
    (part.inside around).isOffending = part.isOffending := by
  cases part with
  | value _ held => cases held <;> rfl
  | key _ held => cases held <;> rfl

theorem calls_inside (around : List Call) : (part.inside around).calls = part.calls ++ around := by
  cases part <;> rfl

/-- What is at fault on its own is at fault inside further calls too, where there is no
more room. -/
theorem fault_inside (around : List Call) (fault : (part.fault? room).isSome = true) :
    ((part.inside around).fault? room).isSome = true := by
  rw [fault_iff] at fault
  rw [fault_iff, endless_inside, calls_inside, long_inside, offending_inside]
  refine fault.imp_right (Or.imp_left fun full => ?_)
  rw [Bool.eq_false_iff] at full ⊢
  exact fun held => full (room.holds_alone _ _ held)

/-- A part that offends is rejected wherever it stands. -/
theorem offending_alone (offending : part.isOffending = true) :
    (part.alone room).isOk = false := by
  cases part with
  | value around held =>
      have same := offending_inside (.value [] held) around
      exact (fails_iff [] held).2 ⟨_, self_mem_parts [] held,
        fault_iff.2 (.inr (.inr (.inr (same.symm.trans offending))))⟩
  | key around held =>
      have same := offending_inside (.key [] held) around
      rw [is_ok_eq_false, Part.alone, cause_key]
      exact fault_iff.2 (.inr (.inr (.inr (same.symm.trans offending))))

/-- What is rejected when it is all there is to write is rejected inside another value too. -/
theorem fails_of_part {value : Value} (member : part ∈ parts [] value)
    (rejected : (part.alone room).isOk = false) : (ofValue room value).isOk = false := by
  apply (fails_iff [] value).2
  cases part with
  | key around held =>
      rw [is_ok_eq_false, Part.alone, cause_key] at rejected
      exact ⟨_, member, fault_inside around rejected⟩
  | value around held =>
      obtain ⟨part, among, fault⟩ := (fails_iff [] held).1 rejected
      refine ⟨part.inside around, parts_of_part [] value member ?_, fault_inside around fault⟩
      rw [← List.nil_append around, parts_append]
      exact List.mem_map_of_mem among

/-- Where no part is hindered, the first fault is that of the first part that offends. -/
theorem first_fault {all : List Part} (unhindered : ∀ part ∈ all, part.hindrance? room = none) :
    all.findSome? (Part.fault? room) = (all.find? Part.isOffending).map Part.rejection := by
  induction all with
  | nil => rfl
  | cons part all ih =>
      have later := ih fun other member => unhindered other (List.mem_cons_of_mem _ member)
      have here := unhindered part List.mem_cons_self
      rw [List.findSome?_cons, List.find?_cons, Part.fault?, here, later]
      cases part.isOffending <;> rfl

end

section

variable {room : Room} {value : Value}
  (unhindered : ∀ part ∈ parts [] value, part.hindrance? room = none)
include unhindered

theorem cause_unhindered :
    cause? (ofValue room value) =
      ((parts [] value).find? Part.isOffending).map Part.rejection := by
  rw [ofValue, cause_value, first_fault unhindered]

theorem rejected_iff_offending :
    (ofValue room value).isOk = false ↔ ∃ part ∈ parts [] value, part.isOffending = true := by
  rw [is_ok_eq_false, cause_unhindered unhindered, Option.isSome_map, List.find?_isSome]

theorem parts_unhindered : parts [] value = .value [] value :: partsInside value := by
  cases value with
  | knot label body =>
      have endless := unhindered (.value [] (.knot label body)) (self_mem_parts [] _)
      cases endless
  | _ => rfl

theorem rejected_iff_part :
    (ofValue room value).isOk = false ↔ (Part.value [] value).isOffending = true ∨
      ∃ part ∈ partsInside value, (part.alone room).isOk = false := by
  constructor
  · intro rejected
    obtain ⟨part, member, offending⟩ := (rejected_iff_offending unhindered).1 rejected
    rw [parts_unhindered unhindered] at member
    rcases List.mem_cons.1 member with rfl | inside
    · exact .inl offending
    · exact .inr ⟨part, inside, offending_alone offending⟩
  · rintro (offending | ⟨part, inside, rejected⟩)
    · exact offending_alone offending
    · exact fails_of_part (mem_parts_of_inside inside) rejected

/-- The cause has a name for the kind of the first part that offends. -/
theorem cause_names_first {cause : RenderError} (failed : ofValue room value = .error cause) :
    cause.isFormless = true ∧
      ∃ part, (parts [] value).find? Part.isOffending = some part ∧
        match part with
        | .value _ held =>
            cause.message = "Cannot render " ++ held.kindName ++ " value as a PHP literal"
        | .key _ held =>
            cause.message = "Cannot use " ++ held.kindName ++ " as a PHP array key" := by
  rw [← cause_eq_some, cause_unhindered unhindered, Option.map_eq_some_iff] at failed
  obtain ⟨part, first, rfl⟩ := failed
  cases part with
  | value around held => exact ⟨rfl, _, first, rfl⟩
  | key around held => exact ⟨rfl, _, first, rfl⟩

end

/-- For a value without a form the placeholder is written, and one warning gives the cause. -/
theorem render_rejected {renderer : Renderer} {site : Site} {value : Value} {cause : RenderError}
    (failed : ofValue (renderer.room site) value = .error cause)
    (formless : cause.isFormless = true) (construct : Text) :
    let rendering := ValueRef.render renderer site construct (some (.literal value))
    rendering.outcome = .ok renderer.placeholder ∧
      rendering.warnings = [⟨.warning, construct, cause.message ++ ", using placeholder"⟩] := by
  intro rendering
  have written : rendering = do
      .warn construct (cause.message ++ ", using placeholder")
      return renderer.placeholder := by
    simp only [rendering, ValueRef.render, failed, formless, if_true]
  rw [written]
  exact ⟨rfl, rfl⟩

/-- A value is not written exactly if one of its parts is at fault, and the first of these gives the
cause. Where no part is hindered, a value is rejected exactly if a part of it offends, in the name
of the first that does; or, what is the same, if it offends itself or something in it is rejected.
The placeholder then stands for the value, and one warning gives the cause. -/
theorem of_value_rejects (room : Room) (value : Value) :
    (∀ cause, ofValue room value = .error cause ↔
        (parts [] value).findSome? (Part.fault? room) = some cause) ∧
      ((∀ part ∈ parts [] value, part.hindrance? room = none) →
        ((ofValue room value).isOk = false ↔
            ∃ part ∈ parts [] value, part.isOffending = true) ∧
          (∀ cause, ofValue room value = .error cause → cause.isFormless = true ∧
            ∃ part, (parts [] value).find? Part.isOffending = some part ∧
              match part with
              | .value _ held =>
                  cause.message = "Cannot render " ++ held.kindName ++ " value as a PHP literal"
              | .key _ held =>
                  cause.message = "Cannot use " ++ held.kindName ++ " as a PHP array key") ∧
          ((ofValue room value).isOk = false ↔ (Part.value [] value).isOffending = true ∨
            ∃ part ∈ partsInside value, (part.alone room).isOk = false)) ∧
      ∀ cause, ofValue room value = .error cause → cause.isFormless = true →
        ∀ (renderer : Renderer) (site : Site) (construct : Text), renderer.room site = room →
          let rendering := ValueRef.render renderer site construct (some (.literal value))
          rendering.outcome = .ok renderer.placeholder ∧
            rendering.warnings =
              [⟨.warning, construct, cause.message ++ ", using placeholder"⟩] := by
  refine ⟨fun cause => ?_, fun unhindered => ⟨rejected_iff_offending unhindered, fun _ failed => ?_,
    rejected_iff_part unhindered⟩, ?_⟩
  · rw [← cause_eq_some, ofValue, cause_value]
  · exact cause_names_first unhindered failed
  · rintro _ failed formless renderer site construct rfl
    exact render_rejected failed formless construct

example :
    ((parts [] (.map [(.str "a", .list [.null, .set []]), (.bool true, .alien)])).findSome?
      (Part.fault? (.ofFrames 6))).map RenderError.message =
        some "Cannot render set value as a PHP literal" := by
  decide

/-- A list fails for a number with too many digits that stands first in it, whatever follows. -/
theorem list_fails_for_long {room : Room} {number : Nat} {items : List Value}
    (long : isShort number = false)
    (outer : room.holds [.value (.list (.int number :: items))] = true)
    (inner : room.holds [.value (.int number), .value (.list (.int number :: items))] = true) :
    ofValue room (.list (.int number :: items)) = .error .longNumber := by
  have unhindered : (Part.value [] (.list (.int number :: items))).fault? room = none := by
    simp [Part.fault?, Part.isOffending, Part.hindrance?, Part.isEndless, Part.isLong, Part.calls,
      outer]
  have first : (Part.value [.value (.list (.int number :: items))] (.int number)).fault? room =
      some .longNumber := by
    simp [Part.fault?, Part.isOffending, Part.hindrance?, Part.isEndless, Part.isLong, Part.calls,
      inner, long]
  have all : parts [] (.list (.int number :: items)) =
      .value [] (.list (.int number :: items)) ::
        .value [.value (.list (.int number :: items))] (.int number) ::
          partsOfItems [.value (.list (.int number :: items))] items := rfl
  rw [← cause_eq_some, ofValue, cause_value, all, List.findSome?_cons, unhindered,
    List.findSome?_cons, first]

/-- A number with too many digits in front of a date: the date would be rejected, but the number is
what the value fails for, and the placeholder is not written. -/
theorem long_number_hides_date :
    let number : Value := .int (10 ^ Decimal.mostDigits : Nat)
    let value : Value := .list [number, .date ⟨2020, 1, 1⟩]
    let room := Room.ofFrames 4
    (∃ part, (parts [] value).find? Part.isOffending = some part ∧
        part.rejection.message = "Cannot render date value as a PHP literal") ∧
      ∃ cause, ofValue room value = .error cause ∧ cause.isFormless = false ∧
        ∀ (renderer : Renderer) site construct, renderer.room site = room →
          (ValueRef.render renderer site construct (some (.literal value))).outcome =
            .error cause := by
  intro number value room
  have failed : ofValue room value = .error .longNumber :=
    list_fails_for_long (is_short_of_long (Nat.le_refl _)) rfl rfl
  refine ⟨⟨_, rfl, rfl⟩, _, failed, rfl, ?_⟩
  rintro renderer site construct fits
  simp only [ValueRef.render, fits, failed]
  rfl

end Stubwright.Literal
