import Stubwright.File.Pieces
import Stubwright.Proofs.Text.Utf8
import Stubwright.Yaml.Stream

/-!
A file that is read in pieces gives out its text, with its line breaks unified: no portion of the
bytes loses a character or a line break that it cuts apart. A file whose bytes are no text comes to
a flaw. What carries both is the text that a file being read has still to give out, which no
portion changes.
-/

namespace Stubwright.Pieces

open Text

/-! ### Line breaks -/

section

variable {chars first second : List Char}

theorem unify_breaks_none (noReturn : '\r' ∉ chars) : unifyBreaks chars = chars := by
  induction chars with
  | nil => rfl
  | cons c chars ih =>
      have other : c ≠ '\r' := fun same => noReturn (by simp [same])
      have later : '\r' ∉ chars := fun among => noReturn (by simp [among])
      rw [unifyBreaks, if_neg other, ih later]
      rintro _ rfl
      exact absurd rfl other

/-- A text can be cut anywhere but between the two characters of one line break. -/
theorem unify_breaks_append (apart : first.getLast? ≠ some '\r' ∨ second.head? ≠ some '\n') :
    unifyBreaks (first ++ second) = unifyBreaks first ++ unifyBreaks second := by
  fun_induction unifyBreaks first with
  | case1 => rfl
  | case2 rest ih =>
      have later : rest.getLast? ≠ some '\r' ∨ second.head? ≠ some '\n' := by
        cases rest with
        | nil => exact .inl nofun
        | cons c rest => simpa using apart
      simp only [List.cons_append, unifyBreaks]
      rw [ih later]
  | case3 c rest other ih =>
      have later : rest.getLast? ≠ some '\r' ∨ second.head? ≠ some '\n' := by
        cases rest with
        | nil => exact .inl nofun
        | cons c rest => simpa using apart
      rw [List.cons_append, unifyBreaks, ih later]
      · rfl
      · rintro tail rfl same
        cases rest with
        | nil =>
            subst same
            simp at apart
        | cons c rest =>
            cases same
            exact other _ rfl rfl

theorem unify_breaks_length (chars : List Char) : (unifyBreaks chars).length ≤ chars.length := by
  fun_induction unifyBreaks chars with
  | case1 => exact Nat.le_refl _
  | case2 rest ih => simp only [List.length_cons]; omega
  | case3 c rest _ ih => simp only [List.length_cons]; omega

/-- A carriage return at the end waits for what follows it. -/
theorem unify_breaks_held (chars rest : List Char) :
    unifyBreaks (chars ++ rest) =
      unifyBreaks (if chars.getLast? = some '\r' then chars.dropLast else chars) ++
        unifyBreaks ((if chars.getLast? = some '\r' then ['\r'] else []) ++ rest) := by
  split
  next last =>
    obtain ⟨before, rfl⟩ := List.getLast?_eq_some_iff.1 last
    rw [List.dropLast_concat, List.append_assoc]
    exact unify_breaks_append (.inr nofun)
  next last => exact unify_breaks_append (.inl last)

end

/-! ### One portion -/

section

variable {bytes left : List UInt8} {decoded : List Char} {flaw : Flaw}

/-- The bytes that are left over belong to what follows them. -/
theorem decode_complete_append (complete : decodeComplete bytes = .ok (decoded, left))
    (rest : List UInt8) :
    decodeUtf8? (bytes ++ rest) = (decodeUtf8? (left ++ rest)).map (decoded ++ ·) := by
  rw [decodeComplete] at complete
  split at complete
  next chars whole =>
    cases complete
    exact decode_append (decode_eq_some.2 whole) rest
  next flaw flawed =>
    split at complete
    next cutOff =>
      obtain ⟨chars, before⟩ := decode_before_cut flawed cutOff
      rw [before] at complete
      cases complete
      have split := decode_append before (bytes.drop flaw.position ++ rest)
      rwa [← List.append_assoc, List.take_append_drop] at split
    next => cases complete

theorem decode_complete_left (complete : decodeComplete bytes = .ok (decoded, left)) :
    left = [] ∨ decodeUtf8? left = none := by
  have whole := decode_complete_append complete []
  rw [List.append_nil, List.append_nil] at whole
  rw [decodeComplete] at complete
  split at complete
  next =>
    cases complete
    exact .inl rfl
  next flaw flawed =>
    rw [decode_eq_none flawed] at whole
    exact .inr (Option.map_eq_none_iff.1 whole.symm)

theorem decode_complete_length (complete : decodeComplete bytes = .ok (decoded, left)) :
    decoded.length + left.length ≤ bytes.length := by
  rw [decodeComplete] at complete
  split at complete
  next chars whole =>
    cases complete
    exact decode_length (decode_eq_some.2 whole)
  next flaw flawed =>
    split at complete
    next cutOff =>
      obtain ⟨chars, before⟩ := decode_before_cut flawed cutOff
      rw [before] at complete
      cases complete
      have short := decode_length before
      have parts := congrArg List.length (List.take_append_drop flaw.position bytes)
      rw [List.length_append] at parts
      change chars.length + _ ≤ _
      omega
    next => cases complete

theorem decode_complete_flawed (flawed : decodeComplete bytes = .error flaw) (rest : List UInt8) :
    decodeUtf8? (bytes ++ rest) = none := by
  rw [decodeComplete] at flawed
  split at flawed
  next => cases flawed
  next found undecodable =>
    split at flawed
    next => cases flawed
    next final => exact decode_flawed undecodable final rest

end

def held (pieces : Pieces) : List Char := if pieces.returned then ['\r'] else []

/-- The text that a file being read has still to give out, if its bytes are one. -/
def remaining? (pieces : Pieces) : Option (List Char) :=
  (decodeUtf8? (pieces.begun ++ pieces.octets)).map fun rest =>
    pieces.ready ++ unifyBreaks (pieces.held ++ rest)

/-- The bytes that are left over are no text without those that follow. -/
def IsReading (pieces : Pieces) : Prop := pieces.begun = [] ∨ decodeUtf8? pieces.begun = none

/-- There are never more characters to come than this. -/
def most (pieces : Pieces) : Nat :=
  pieces.ready.length + pieces.held.length + pieces.begun.length + pieces.octets.length

/-- A file has been read on, and the same text is to come of it. -/
structure GoesOn (pieces more : Pieces) : Prop where
  same : more.remaining? = pieces.remaining?
  reading : more.IsReading
  fewer : more.most ≤ pieces.most

variable {pieces more : Pieces} {text : List Char} {size fuel wanted count : Nat} {flaw : Flaw}

theorem GoesOn.trans {last : Pieces} (first : GoesOn pieces more) (second : GoesOn more last) :
    GoesOn pieces last :=
  ⟨second.same.trans first.same, second.reading, Nat.le_trans second.fewer first.fewer⟩

theorem portion_none_iff :
    (pieces.octets.take (pieces.portionSize wanted)).isEmpty = true ↔ pieces.octets = [] := by
  have positive : 0 < pieces.portionSize wanted :=
    Nat.lt_of_lt_of_le (by decide) (Nat.le_max_left _ _)
  rw [List.isEmpty_iff, List.take_eq_nil_iff]
  constructor
  · rintro (zero | none)
    · omega
    · exact none
  · exact .inr

theorem read_portion_end (read : pieces.octets = []) :
    readPortion wanted pieces =
      if pieces.begun.isEmpty then
        .ok { pieces with returned := false, ready := pieces.ready ++ unifyBreaks pieces.held }
      else .error ⟨.cutOff, 0, pieces.begun⟩ := by
  have breaks : unifyBreaks pieces.held = if pieces.returned then ['\n'] else [] := by
    rw [held]
    split <;> rfl
  rw [readPortion, breaks]
  simp only [portion_none_iff.2 read, if_true]
  cases pieces.begun <;> rfl

def fed (portion : List UInt8) (decoded : List Char) (begun : List UInt8) (pieces : Pieces) :
    Pieces :=
  let chars := pieces.held ++ decoded
  let complete := unifyBreaks (if chars.getLast? = some '\r' then chars.dropLast else chars)
  { octets := pieces.octets.drop portion.length
    begun := begun
    returned := chars.getLast? = some '\r'
    ready := pieces.ready ++ complete
    lastSizes := (portion.length, complete.length) }

theorem read_portion_filled (filled : pieces.octets ≠ []) :
    readPortion wanted pieces =
      let portion := pieces.octets.take (pieces.portionSize wanted)
      (decodeComplete (pieces.begun ++ portion)).map fun (decoded, begun) =>
        pieces.fed portion decoded begun := by
  have some_read : (pieces.octets.take (pieces.portionSize wanted)).isEmpty = false :=
    Bool.eq_false_iff.2 (mt portion_none_iff.1 filled)
  rw [readPortion]
  simp only [some_read, Bool.false_eq_true, if_false]
  cases decodeComplete (pieces.begun ++ pieces.octets.take (pieces.portionSize wanted)) with
  | error flaw => rfl
  | ok complete =>
      obtain ⟨decoded, begun⟩ := complete
      -- A return that is held back stays so where no character is complete.
      cases returned : pieces.returned <;> cases decoded <;>
        simp [bind, Except.bind, pure, Except.pure, Except.map, fed, held, returned]

theorem fed_held {portion : List UInt8} {decoded : List Char} {begun : List UInt8} :
    (pieces.fed portion decoded begun).held =
      if (pieces.held ++ decoded).getLast? = some '\r' then ['\r'] else [] := by
  rw [held, fed]
  simp only [decide_eq_true_eq]

theorem held_length (chars : List Char) :
    (unifyBreaks (if chars.getLast? = some '\r' then chars.dropLast else chars)).length +
      (if chars.getLast? = some '\r' then ['\r'] else []).length ≤ chars.length := by
  split
  next last =>
    have short := unify_breaks_length chars.dropLast
    have some_char : chars ≠ [] := by
      rintro rfl
      cases last
    have positive := List.length_pos_iff.2 some_char
    rw [List.length_dropLast] at short
    rw [List.length_singleton]
    omega
  next => exact unify_breaks_length chars

/-- A portion moves characters from what is to be decoded to what is ready. -/
theorem fed_goes_on {size : Nat} {decoded : List Char} {begun : List UInt8}
    (complete : decodeComplete (pieces.begun ++ pieces.octets.take size) = .ok (decoded, begun)) :
    GoesOn pieces (pieces.fed (pieces.octets.take size) decoded begun) := by
  have left : pieces.octets.drop (pieces.octets.take size).length = pieces.octets.drop size := by
    have parts := List.prefix_iff_eq_append.1 (List.take_prefix size pieces.octets)
    exact List.append_cancel_left (parts.trans (List.take_append_drop size _).symm)
  refine ⟨?_, decode_complete_left complete, ?_⟩
  · have split := decode_complete_append complete (pieces.octets.drop size)
    rw [List.append_assoc, List.take_append_drop] at split
    rw [remaining?, remaining?, split, Option.map_map, fed_held]
    simp only [fed, left]
    congr 1
    funext rest
    simp only [Function.comp]
    rw [← List.append_assoc pieces.held, unify_breaks_held (pieces.held ++ decoded) rest,
      List.append_assoc]
  · have bytes := decode_complete_length complete
    have chars := held_length (pieces.held ++ decoded)
    rw [most, most, fed_held]
    simp only [fed, List.length_append, List.length_take, List.length_drop] at bytes chars ⊢
    omega

theorem remaining_end (none_left : pieces.octets = []) (none_begun : pieces.begun = []) :
    pieces.remaining? = some (pieces.ready ++ unifyBreaks pieces.held) := by
  rw [remaining?, none_left, none_begun]
  change some (pieces.ready ++ unifyBreaks (pieces.held ++ [])) = _
  rw [List.append_nil]

theorem read_portion_goes_on (read : readPortion wanted pieces = .ok more) :
    GoesOn pieces more ∧
      (pieces.octets = [] ∧ more.remaining? = some more.ready ∨
        more.octets.length < pieces.octets.length) := by
  by_cases none_left : pieces.octets = []
  · rw [read_portion_end none_left] at read
    split at read
    next empty =>
      cases read
      have none_begun := List.isEmpty_iff.1 empty
      have finished : remaining?
          { pieces with returned := false, ready := pieces.ready ++ unifyBreaks pieces.held } =
          some (pieces.ready ++ unifyBreaks pieces.held ++ []) :=
        remaining_end none_left none_begun
      rw [List.append_nil] at finished
      refine ⟨⟨finished.trans (remaining_end none_left none_begun).symm, .inl none_begun, ?_⟩,
        .inl ⟨none_left, finished⟩⟩
      have short := unify_breaks_length pieces.held
      change (pieces.ready ++ unifyBreaks pieces.held).length + 0 + pieces.begun.length +
        pieces.octets.length ≤ pieces.most
      rw [most, List.length_append]
      omega
    next => cases read
  · rw [read_portion_filled none_left] at read
    obtain ⟨⟨decoded, begun⟩, complete, rfl⟩ := map_ok_iff.1 read
    refine ⟨fed_goes_on complete, .inr ?_⟩
    have taken : pieces.octets.take (pieces.portionSize wanted) ≠ [] :=
      mt (fun none => portion_none_iff.1 (List.isEmpty_iff.2 none)) none_left
    have some_taken := List.length_pos_iff.2 taken
    have some_left := List.length_pos_iff.2 none_left
    change (pieces.octets.drop _).length < _
    rw [List.length_drop]
    omega

theorem read_portion_flawed (reading : pieces.IsReading)
    (flawed : readPortion wanted pieces = .error flaw) : pieces.remaining? = none := by
  rw [remaining?, Option.map_eq_none_iff]
  by_cases none_left : pieces.octets = []
  · rw [read_portion_end none_left] at flawed
    split at flawed
    next => cases flawed
    next some_begun =>
      rw [none_left, List.append_nil]
      exact reading.resolve_left (mt List.isEmpty_iff.2 some_begun)
  · rw [read_portion_filled none_left] at flawed
    have flawed := decode_complete_flawed (map_error_iff.1 flawed)
      (pieces.octets.drop (pieces.portionSize wanted))
    rwa [List.append_assoc, List.take_append_drop] at flawed

/-! ### All pieces -/

theorem prepare_goes_on (enough : pieces.octets.length < fuel) (reading : pieces.IsReading)
    (prepared : prepare size fuel pieces = .ok more) :
    GoesOn pieces more ∧
      (size ≤ more.ready.length ∨ more.remaining? = some more.ready) := by
  induction fuel generalizing pieces with
  | zero => cases enough
  | succ fuel ih =>
      rw [prepare] at prepared
      split at prepared
      next filled =>
        cases prepared
        exact ⟨⟨rfl, reading, Nat.le_refl _⟩, .inl filled⟩
      next =>
        cases read : readPortion (size - pieces.ready.length) pieces with
        | error flaw =>
            rw [read] at prepared
            cases prepared
        | ok next =>
            rw [read] at prepared
            change (if pieces.octets.isEmpty then .ok next else prepare size fuel next) = _
              at prepared
            obtain ⟨goesOn, ⟨none_left, finished⟩ | fewer⟩ := read_portion_goes_on read
            · rw [none_left] at prepared
              cases prepared
              exact ⟨goesOn, .inr finished⟩
            · have some_left : pieces.octets.isEmpty = false := by
                cases octets : pieces.octets with
                | nil => simp [octets] at fewer
                | cons byte rest => rfl
              rw [some_left] at prepared
              obtain ⟨later, filled⟩ := ih (by omega) goesOn.reading prepared
              exact ⟨goesOn.trans later, filled⟩

theorem prepare_flawed (reading : pieces.IsReading)
    (flawed : prepare size fuel pieces = .error flaw) : pieces.remaining? = none := by
  induction fuel generalizing pieces with
  | zero => cases flawed
  | succ fuel ih =>
      rw [prepare] at flawed
      split at flawed
      next => cases flawed
      next =>
        cases read : readPortion (size - pieces.ready.length) pieces with
        | error flaw => exact read_portion_flawed reading read
        | ok next =>
            rw [read] at flawed
            change (if pieces.octets.isEmpty then .ok next else prepare size fuel next) = _
              at flawed
            obtain ⟨goesOn, _⟩ := read_portion_goes_on read
            split at flawed
            next => cases flawed
            next => exact goesOn.same.symm.trans (ih goesOn.reading flawed)

def without (size : Nat) (pieces : Pieces) : Pieces :=
  { pieces with ready := pieces.ready.drop size }

theorem remaining_without
    (filled : size ≤ pieces.ready.length ∨ pieces.remaining? = some pieces.ready) :
    (pieces.without size).remaining? = pieces.remaining?.map (·.drop size) := by
  rw [remaining?] at filled
  rw [remaining?, remaining?]
  change (decodeUtf8? (pieces.begun ++ pieces.octets)).map _ = _
  cases decoded : decodeUtf8? (pieces.begun ++ pieces.octets) with
  | none => rfl
  | some rest =>
      rw [decoded] at filled
      refine congrArg some ?_
      rcases filled with long | whole
      · exact (List.drop_append_of_le_length long).symm
      · have nothing := List.append_right_eq_self.1 (Option.some.inj whole)
        change pieces.ready.drop size ++ unifyBreaks (pieces.held ++ rest) =
          (pieces.ready ++ unifyBreaks (pieces.held ++ rest)).drop size
        rw [nothing, List.append_nil, List.append_nil]

theorem piece_given (remaining : pieces.remaining? = some text)
    (filled : size ≤ pieces.ready.length ∨ pieces.remaining? = some pieces.ready) :
    pieces.ready.take size = text.take size := by
  rcases filled with long | whole
  · rw [remaining?] at remaining
    obtain ⟨rest, _, rfl⟩ := Option.map_eq_some_iff.1 remaining
    exact (List.take_append_of_le_length long).symm
  · rw [Option.some.inj (whole.symm.trans remaining)]

theorem without_fewer (positive : 0 < size) (some_ready : pieces.ready ≠ []) :
    (pieces.without size).most < pieces.most := by
  have ready := List.length_pos_iff.2 some_ready
  change (pieces.ready.drop size).length + pieces.held.length + pieces.begun.length +
    pieces.octets.length < pieces.most
  rw [most, List.length_drop]
  omega

/-- Where nothing is ready although enough was asked for, nothing is left. -/
theorem remaining_nothing (positive : 0 < size)
    (filled : size ≤ pieces.ready.length ∨ pieces.remaining? = some pieces.ready)
    (done : pieces.ready = []) : pieces.remaining? = some [] := by
  rcases filled with long | whole
  · rw [done] at long
    exact absurd long (Nat.not_le.2 positive)
  · rw [whole, done]

theorem remaining_nonempty (remaining : pieces.remaining? = some text)
    (some_ready : pieces.ready ≠ []) : text ≠ [] := by
  obtain ⟨rest, _, rfl⟩ := Option.map_eq_some_iff.1 remaining
  exact List.append_ne_nil_of_left_ne_nil some_ready _

theorem read_all_done (prepared : prepare size (pieces.octets.length + 1) pieces = .ok more)
    (done : more.ready = []) : readAll size (fuel + 1) pieces = ([], none) := by
  rw [readAll, prepared]
  exact if_pos (List.isEmpty_iff.2 done)

/-- A piece is given out, and the rest is read from what is behind it. -/
theorem read_all_ready (prepared : prepare size (pieces.octets.length + 1) pieces = .ok more)
    (some_ready : more.ready ≠ []) :
    readAll size (fuel + 1) pieces = (more.ready.take size ::
      (readAll size fuel (more.without size)).1, (readAll size fuel (more.without size)).2) := by
  rw [readAll, prepared]
  exact if_neg (mt List.isEmpty_iff.1 some_ready)

/-- A file that is still to give out a text gives it out piece by piece. -/
theorem read_all_text (enough : pieces.most < fuel) (reading : pieces.IsReading)
    (remaining : pieces.remaining? = some text) (within : text.length ≤ count) :
    readAll Yaml.Stream.pieceSize fuel pieces = (Yaml.Stream.cut count text, none) := by
  have positive : 0 < Yaml.Stream.pieceSize := by decide
  induction fuel generalizing pieces text count with
  | zero => cases enough
  | succ fuel ih =>
      cases prepared : prepare Yaml.Stream.pieceSize (pieces.octets.length + 1) pieces with
      | error flaw =>
          rw [prepare_flawed reading prepared] at remaining
          cases remaining
      | ok next =>
          obtain ⟨goesOn, filled⟩ :=
            prepare_goes_on (Nat.lt_succ_self pieces.octets.length) reading prepared
          rw [← goesOn.same] at remaining
          by_cases done : next.ready = []
          · rw [remaining_nothing positive filled done] at remaining
            rw [read_all_done prepared done, ← Option.some.inj remaining]
            cases count <;> rfl
          · have some_text := remaining_nonempty remaining done
            have length_pos := List.length_pos_iff.2 some_text
            obtain ⟨count, rfl⟩ : ∃ less, count = less + 1 := ⟨count - 1, by omega⟩
            have left := remaining_without filled
            rw [remaining, Option.map_some] at left
            have shorter := without_fewer positive done
            have fewer := goesOn.fewer
            have reading : (next.without Yaml.Stream.pieceSize).IsReading := goesOn.reading
            have later : readAll Yaml.Stream.pieceSize fuel (next.without Yaml.Stream.pieceSize) =
                (Yaml.Stream.cut count (text.drop Yaml.Stream.pieceSize), none) :=
              ih (by omega) reading left (by rw [List.length_drop]; omega)
            have cut : Yaml.Stream.cut (count + 1) text = text.take Yaml.Stream.pieceSize ::
                Yaml.Stream.cut count (text.drop Yaml.Stream.pieceSize) :=
              if_neg (mt List.isEmpty_iff.1 some_text)
            rw [read_all_ready prepared done, later, piece_given remaining filled, cut]

/-- A file whose bytes are no text comes to a flaw. -/
theorem read_all_flawed (positive : 0 < size) (enough : pieces.most < fuel)
    (reading : pieces.IsReading) (remaining : pieces.remaining? = none) :
    (readAll size fuel pieces).2 ≠ none := by
  induction fuel generalizing pieces with
  | zero => cases enough
  | succ fuel ih =>
      cases prepared : prepare size (pieces.octets.length + 1) pieces with
      | error flaw =>
          rw [readAll, prepared]
          exact nofun
      | ok next =>
          obtain ⟨goesOn, filled⟩ :=
            prepare_goes_on (Nat.lt_succ_self pieces.octets.length) reading prepared
          rw [← goesOn.same] at remaining
          have some_ready : next.ready ≠ [] := by
            intro done
            rw [remaining_nothing positive filled done] at remaining
            cases remaining
          have left := remaining_without filled
          rw [remaining, Option.map_none] at left
          have shorter := without_fewer positive some_ready
          have fewer := goesOn.fewer
          have reading : (next.without size).IsReading := goesOn.reading
          rw [read_all_ready prepared some_ready]
          exact ih (by omega) reading left

variable {bytes : List UInt8}

theorem remaining_whole : remaining? { octets := bytes } = (decodeUtf8? bytes).map unifyBreaks :=
  rfl

/-- A file that holds a text is read as that text, with its line breaks unified. -/
theorem of_octets_text (decoded : decodeUtf8 bytes = .ok text) :
    ofOctets Yaml.Stream.pieceSize bytes =
      (Yaml.Stream.cut (unifyBreaks text).length (unifyBreaks text), none) := by
  refine read_all_text (Nat.lt_succ_of_le (by simp [most, held])) (.inl rfl) ?_ (Nat.le_refl _)
  rw [remaining_whole, decode_eq_some.2 decoded]
  rfl

/-- The pieces of a file that holds no text end in a flaw. -/
theorem of_octets_flawed (positive : 0 < size) (flawed : decodeUtf8 bytes = .error flaw) :
    (ofOctets size bytes).2 ≠ none := by
  refine read_all_flawed positive (Nat.lt_succ_of_le (by simp [most, held])) (.inl rfl) ?_
  rw [remaining_whole, decode_eq_none flawed]
  rfl

end Stubwright.Pieces
