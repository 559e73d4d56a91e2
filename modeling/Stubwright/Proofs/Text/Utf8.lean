import Stubwright.Text.Utf8

/-!
A text is decoded from its own bytes: those of a character lead the decoder to the character's code
point. Bytes can be decoded in parts, as long as a character that is cut off waits for its rest.
-/

namespace Stubwright.Text

/-! ### The bytes of a text -/

theorem byte_list_from (bytes : ByteArray) (index : Nat) (read : List UInt8) :
    ByteArray.toList.loop bytes index read = read.reverse ++ bytes.data.toList.drop index := by
  induction index, read using ByteArray.toList.loop.induct bytes with
  | case1 index read inside ih =>
      rw [ByteArray.toList.loop, if_pos inside, ih, List.reverse_cons, List.append_assoc]
      have someByte : index < bytes.data.toList.length := by simpa using inside
      have same : bytes.get! index = bytes.data.toList[index] :=
        (getElem!_pos bytes.data index inside).trans rfl
      rw [List.drop_eq_getElem_cons someByte, same]
      rfl
  | case2 index read outside =>
      rw [ByteArray.toList.loop, if_neg outside]
      have none_left : bytes.data.toList.length ≤ index := by simpa using outside
      rw [List.drop_eq_nil_of_le none_left, List.append_nil]

theorem encode_chars_eq (chars : List Char) :
    encodeChars chars = chars.flatMap String.utf8EncodeChar := by
  rw [encodeChars, ByteArray.toList, byte_list_from]
  exact List.toList_data_toByteArray

/-! ### One character -/

inductive Completes : Pending → List UInt8 → Nat → Prop where
  | last {started next : Pending} {byte : UInt8} (reads : started.next? byte.toNat = some next)
      (done : next.owed = 0) : Completes started [byte] next.point
  | more {started next : Pending} {byte : UInt8} {bytes : List UInt8} {point : Nat}
      (reads : started.next? byte.toNat = some next) (owes : next.owed ≠ 0)
      (completes : Completes next bytes point) : Completes started (byte :: bytes) point

inductive Encodes : List UInt8 → Nat → Prop where
  | single {next : Pending} {byte : UInt8} (reads : Pending.ofLead? byte.toNat = some next)
      (done : next.owed = 0) : Encodes [byte] next.point
  | led {next : Pending} {byte : UInt8} {bytes : List UInt8} {point : Nat}
      (reads : Pending.ofLead? byte.toNat = some next) (owes : next.owed ≠ 0)
      (completes : Completes next bytes point) : Encodes (byte :: bytes) point

variable {started : Pending} {bytes begun rest : List UInt8} {point position : Nat}

theorem Completes.decode (completes : Completes started bytes point) :
    decodeAfter position begun (some started) (bytes ++ rest) =
      (decodeAfter (position + begun.length + bytes.length) [] none rest).map
        (Char.ofNat point :: ·) := by
  induction completes generalizing begun with
  | last reads done => simp only [List.singleton_append, decodeAfter, reads, done, if_true]; rfl
  | more reads owes _ ih =>
      simp only [List.cons_append, decodeAfter, reads, owes, if_false, ih]
      simp only [List.length_append, List.length_cons, List.length_nil]
      congr 2
      omega

theorem Encodes.decode (encodes : Encodes bytes point) :
    decodeAfter position [] none (bytes ++ rest) =
      (decodeAfter (position + bytes.length) [] none rest).map (Char.ofNat point :: ·) := by
  cases encodes with
  | single reads done => simp only [List.singleton_append, decodeAfter, reads, done, if_true]; rfl
  | led reads owes completes =>
      simp only [List.cons_append, decodeAfter, reads, owes, if_false, completes.decode]
      simp only [List.length_cons, List.length_nil]
      congr 2
      omega

/-! ### The bytes of every character -/

theorem lead_two {bits : Nat} (least : 2 ≤ bits) (most : bits < 32) :
    Pending.ofLead? (bits + 0xc0) = some ⟨1, 0x80, 0xbf, bits⟩ := by
  have bounds : ¬bits + 0xc0 < 0x80 ∧ ¬bits + 0xc0 < 0xc2 ∧ bits + 0xc0 < 0xe0 := by omega
  simp only [Pending.ofLead?, bounds, if_false, if_true, Nat.add_sub_cancel]

theorem lead_three {bits : Nat} (most : bits < 16) :
    Pending.ofLead? (bits + 0xe0) =
      some ⟨2, if bits = 0 then 0xa0 else 0x80, if bits = 13 then 0x9f else 0xbf, bits⟩ := by
  have bounds : ¬bits + 0xe0 < 0x80 ∧ ¬bits + 0xe0 < 0xc2 ∧ ¬bits + 0xe0 < 0xe0 ∧
      bits + 0xe0 < 0xf0 := by omega
  have first : bits + 0xe0 = 0xe0 ↔ bits = 0 := by omega
  have last : bits + 0xe0 = 0xed ↔ bits = 13 := by omega
  simp only [Pending.ofLead?, bounds, if_false, if_true, Nat.add_sub_cancel, first, last]

theorem lead_four {bits : Nat} (most : bits < 5) :
    Pending.ofLead? (bits + 0xf0) =
      some ⟨3, if bits = 0 then 0x90 else 0x80, if bits = 4 then 0x8f else 0xbf, bits⟩ := by
  have bounds : ¬bits + 0xf0 < 0x80 ∧ ¬bits + 0xf0 < 0xc2 ∧ ¬bits + 0xf0 < 0xe0 ∧
      ¬bits + 0xf0 < 0xf0 ∧ bits + 0xf0 < 0xf5 := by omega
  have first : bits + 0xf0 = 0xf0 ↔ bits = 0 := by omega
  have last : bits + 0xf0 = 0xf4 ↔ bits = 4 := by omega
  simp only [Pending.ofLead?, bounds, if_false, if_true, Nat.add_sub_cancel, first, last]

/-- A byte that goes on with a character has six bits of its code point. -/
theorem next_bits {started : Pending} {bits : Nat} (least : started.low ≤ bits + 0x80)
    (most : bits + 0x80 ≤ started.high) :
    started.next? (bits + 0x80) =
      some ⟨started.owed - 1, 0x80, 0xbf, started.point * 64 + bits⟩ := by
  rw [Pending.next?, if_pos ⟨least, most⟩, Nat.add_sub_cancel]

theorem byte_to_nat {number : Nat} (small : number < 256) : (UInt8.ofNat number).toNat = number :=
  UInt8.toNat_ofNat_of_lt small

/-- The code points that are characters. -/
theorem char_point (c : Char) : c.toNat < 0xd800 ∨ 0xdfff < c.toNat ∧ c.toNat < 0x110000 := by
  have valid := c.valid
  simpa [UInt32.isValidChar, Nat.isValidChar] using valid

section

variable {number : Nat}

theorem continuation (started : Pending) (number : Nat) (least : started.low ≤ number % 64 + 128)
    (most : number % 64 + 128 ≤ started.high) :
    started.next? (UInt8.ofNat (number % 64 + 128)).toNat =
      some ⟨started.owed - 1, 0x80, 0xbf, started.point * 64 + number % 64⟩ := by
  rw [byte_to_nat (by omega)]
  exact next_bits least most

theorem encodes_one (small : number ≤ 127) : Encodes [UInt8.ofNat number] number := by
  have reads : Pending.ofLead? (UInt8.ofNat number).toNat = some ⟨0, 0x80, 0xbf, number⟩ := by
    rw [byte_to_nat (by omega), Pending.ofLead?, if_pos (by omega)]
  exact .single reads rfl

theorem encodes_two (large : 127 < number) (small : number ≤ 2047) :
    Encodes [UInt8.ofNat (number / 64 % 32 + 192), UInt8.ofNat (number % 64 + 128)] number := by
  have lead : Pending.ofLead? (UInt8.ofNat (number / 64 % 32 + 192)).toNat =
      some ⟨1, 0x80, 0xbf, number / 64 % 32⟩ := by
    rw [byte_to_nat (by omega)]
    exact lead_two (by omega) (by omega)
  have last := continuation ⟨1, 0x80, 0xbf, number / 64 % 32⟩ number (by simp) (by simp; omega)
  have whole : number / 64 % 32 * 64 + number % 64 = number := by omega
  have encodes := Encodes.led lead (by simp) (.last last rfl)
  rwa [whole] at encodes

theorem encodes_three (large : 2047 < number) (small : number ≤ 65535)
    (point : number < 0xd800 ∨ 0xdfff < number) :
    Encodes [UInt8.ofNat (number / 4096 % 16 + 224), UInt8.ofNat (number / 64 % 64 + 128),
      UInt8.ofNat (number % 64 + 128)] number := by
  have lead : Pending.ofLead? (UInt8.ofNat (number / 4096 % 16 + 224)).toNat =
      some ⟨2, if number / 4096 % 16 = 0 then 0xa0 else 0x80,
        if number / 4096 % 16 = 13 then 0x9f else 0xbf, number / 4096 % 16⟩ := by
    rw [byte_to_nat (by omega)]
    exact lead_three (by omega)
  have second := continuation ⟨2, if number / 4096 % 16 = 0 then 0xa0 else 0x80,
    if number / 4096 % 16 = 13 then 0x9f else 0xbf, number / 4096 % 16⟩ (number / 64)
    (by dsimp only; split <;> omega) (by dsimp only; split <;> omega)
  have last := continuation ⟨1, 0x80, 0xbf, number / 4096 % 16 * 64 + number / 64 % 64⟩ number
    (by simp) (by simp; omega)
  have whole : (number / 4096 % 16 * 64 + number / 64 % 64) * 64 + number % 64 = number := by omega
  have encodes := Encodes.led lead (by simp) (.more second (by simp) (.last last rfl))
  rwa [whole] at encodes

theorem encodes_four (large : 65535 < number) (small : number < 0x110000) :
    Encodes [UInt8.ofNat (number / 262144 % 8 + 240), UInt8.ofNat (number / 4096 % 64 + 128),
      UInt8.ofNat (number / 64 % 64 + 128), UInt8.ofNat (number % 64 + 128)] number := by
  have lead : Pending.ofLead? (UInt8.ofNat (number / 262144 % 8 + 240)).toNat =
      some ⟨3, if number / 262144 % 8 = 0 then 0x90 else 0x80,
        if number / 262144 % 8 = 4 then 0x8f else 0xbf, number / 262144 % 8⟩ := by
    rw [byte_to_nat (by omega)]
    exact lead_four (by omega)
  have second := continuation ⟨3, if number / 262144 % 8 = 0 then 0x90 else 0x80,
    if number / 262144 % 8 = 4 then 0x8f else 0xbf, number / 262144 % 8⟩ (number / 4096)
    (by dsimp only; split <;> omega) (by dsimp only; split <;> omega)
  have third := continuation ⟨2, 0x80, 0xbf, number / 262144 % 8 * 64 + number / 4096 % 64⟩
    (number / 64) (by simp) (by simp; omega)
  have last := continuation ⟨1, 0x80, 0xbf, (number / 262144 % 8 * 64 + number / 4096 % 64) * 64 +
    number / 64 % 64⟩ number (by simp) (by simp; omega)
  have whole : ((number / 262144 % 8 * 64 + number / 4096 % 64) * 64 + number / 64 % 64) * 64 +
      number % 64 = number := by omega
  have encodes := Encodes.led lead (by simp)
    (.more second (by simp) (.more third (by simp) (.last last rfl)))
  rwa [whole] at encodes

end

theorem encodes_char (c : Char) : Encodes (String.utf8EncodeChar c) c.toNat := by
  have point := char_point c
  have number : c.val.toNat = c.toNat := rfl
  simp only [String.utf8EncodeChar, number]
  split
  · exact encodes_one ‹_›
  · split
    · exact encodes_two (by omega) ‹_›
    · split
      · exact encodes_three (by omega) ‹_› (by omega)
      · exact encodes_four (by omega) (by omega)

/-! ### A whole text -/

theorem encode_chars_cons (c : Char) (chars : List Char) :
    encodeChars (c :: chars) = String.utf8EncodeChar c ++ encodeChars chars := by
  rw [encode_chars_eq, encode_chars_eq, List.flatMap_cons]

theorem decode_after_encoded (chars : List Char) (position : Nat) (rest : List UInt8) :
    decodeAfter position [] none (encodeChars chars ++ rest) =
      (decodeAfter (position + (encodeChars chars).length) [] none rest).map (chars ++ ·) := by
  induction chars generalizing position with
  | nil =>
      rw [encode_chars_eq]
      cases decoded : decodeAfter position [] none rest <;> simp [decoded, Except.map]
  | cons c chars ih =>
      rw [encode_chars_cons, List.append_assoc, (encodes_char c).decode, ih, List.length_append,
        Nat.add_assoc, Char.ofNat_toNat]
      cases decodeAfter (position + ((String.utf8EncodeChar c).length +
        (encodeChars chars).length)) [] none rest <;> rfl

theorem decode_encoded (chars : List Char) : decodeUtf8 (encodeChars chars) = .ok chars := by
  have decoded := decode_after_encoded chars 0 []
  rw [List.append_nil] at decoded
  rw [decodeUtf8, decoded]
  simp [decodeAfter, Except.map]

/-! ### Bytes in parts -/

section

variable {α β : Type} {change : α → β} {outcome : Except Flaw α} {flaw : Flaw} {result : β}

theorem map_error_iff : outcome.map change = .error flaw ↔ outcome = .error flaw := by
  cases outcome <;> simp [Except.map]

theorem map_ok_iff :
    outcome.map change = .ok result ↔ ∃ value, outcome = .ok value ∧ change value = result := by
  cases outcome <;> simp [Except.map]

@[grind =]
theorem to_option_map : (outcome.map change).toOption = outcome.toOption.map change := by
  cases outcome <;> rfl

end

section

variable {bytes rest begun : List UInt8} {position : Nat} {pending : Option Pending}
  {chars : List Char} {flaw : Flaw}

/-- What one more byte comes to, whatever follows it: a flaw, the end of a character, or more of
it. -/
theorem decode_after_cons (fresh : pending = none → begun = []) (position : Nat) (byte : UInt8) :
    (∃ kind octets, kind ≠ .cutOff ∧ ∀ bytes,
      decodeAfter position begun pending (byte :: bytes) = .error ⟨kind, position, octets⟩) ∨
    (∃ c, ∀ bytes, decodeAfter position begun pending (byte :: bytes) =
      (decodeAfter (position + begun.length + 1) [] none bytes).map (c :: ·)) ∨
    ∃ next, ∀ bytes, decodeAfter position begun pending (byte :: bytes) =
      decodeAfter position (begun ++ [byte]) (some next) bytes := by
  cases pending with
  | none =>
      cases fresh rfl
      cases lead : Pending.ofLead? byte.toNat with
      | none => exact .inl ⟨.badStart, [byte], nofun, fun _ => by rw [decodeAfter, lead]⟩
      | some next =>
          by_cases done : next.owed = 0
          · refine .inr (.inl ⟨Char.ofNat next.point, fun _ => ?_⟩)
            simp only [decodeAfter, lead, done, if_true]
            rfl
          · refine .inr (.inr ⟨next, fun _ => ?_⟩)
            simp only [decodeAfter, lead, done, if_false]
            rfl
  | some started =>
      cases taken : started.next? byte.toNat with
      | none => exact .inl ⟨.badContinuation, begun, nofun, fun _ => by rw [decodeAfter, taken]⟩
      | some next =>
          by_cases done : next.owed = 0
          · exact .inr (.inl ⟨Char.ofNat next.point, fun _ => by
              simp only [decodeAfter, taken, done, if_true]⟩)
          · exact .inr (.inr ⟨next, fun _ => by
              simp only [decodeAfter, taken, done, if_false]⟩)

/-- No bytes that follow mend a flaw, unless a character is cut off. -/
theorem decode_after_flawed (fresh : pending = none → begun = [])
    (flawed : decodeAfter position begun pending bytes = .error flaw)
    (final : flaw.kind ≠ .cutOff) :
    decodeAfter position begun pending (bytes ++ rest) = .error flaw := by
  induction bytes generalizing position begun pending with
  | nil =>
      cases pending with
      | none => cases flawed
      | some started =>
          cases flawed
          exact absurd rfl final
  | cons byte bytes ih =>
      rcases decode_after_cons fresh position byte with
        ⟨kind, octets, _, same⟩ | ⟨c, same⟩ | ⟨next, same⟩
      · rw [← flawed, List.cons_append, same, same]
      · rw [same, map_error_iff] at flawed
        rw [List.cons_append, same, map_error_iff]
        exact ih (fun _ => rfl) flawed
      · rw [same] at flawed
        rw [List.cons_append, same]
        exact ih (by nofun) flawed

/-- The characters of some bytes are the first ones of any bytes that go on from there. -/
theorem decode_after_append (fresh : pending = none → begun = [])
    (decoded : decodeAfter position begun pending bytes = .ok chars) :
    decodeAfter position begun pending (bytes ++ rest) =
      (decodeAfter (position + begun.length + bytes.length) [] none rest).map (chars ++ ·) := by
  induction bytes generalizing position begun pending chars with
  | nil =>
      cases pending with
      | none =>
          cases fresh rfl
          cases decoded
          change decodeAfter position [] none rest =
            (decodeAfter position [] none rest).map ([] ++ ·)
          cases decodeAfter position [] none rest <;> rfl
      | some started => cases decoded
  | cons byte bytes ih =>
      rcases decode_after_cons fresh position byte with
        ⟨kind, octets, _, same⟩ | ⟨c, same⟩ | ⟨next, same⟩
      · rw [same] at decoded
        cases decoded
      · rw [same, map_ok_iff] at decoded
        obtain ⟨later, decoded, rfl⟩ := decoded
        rw [List.cons_append, same, ih (fun _ => rfl) decoded, List.length_cons, List.length_nil,
          Nat.add_zero, Nat.add_right_comm _ 1, ← Nat.add_assoc]
        cases decodeAfter (position + begun.length + bytes.length + 1) [] none rest <;> rfl
      · rw [same] at decoded
        rw [List.cons_append, same, ih (by nofun) decoded]
        rw [List.length_append, List.length_singleton, List.length_cons, ← Nat.add_assoc,
          ← Nat.add_assoc, Nat.add_right_comm _ 1]

/-- A character that is cut off starts where the ones before it end. -/
theorem decode_after_cut (fresh : pending = none → begun = [])
    (cut : decodeAfter position begun pending bytes = .error flaw)
    (cutOff : flaw.kind = .cutOff) :
    pending ≠ none ∧ flaw.position = position ∨
      ∃ count chars, flaw.position = position + begun.length + count ∧
        decodeAfter position begun pending (bytes.take count) = .ok chars := by
  induction bytes generalizing position begun pending with
  | nil =>
      cases pending with
      | none => cases cut
      | some started =>
          cases cut
          exact .inl ⟨nofun, rfl⟩
  | cons byte bytes ih =>
      rcases decode_after_cons fresh position byte with
        ⟨kind, octets, other, same⟩ | ⟨c, same⟩ | ⟨next, same⟩
      · rw [same] at cut
        cases cut
        exact absurd cutOff other
      · rw [same, map_error_iff] at cut
        rcases ih (fun _ => rfl) cut with ⟨started, _⟩ | ⟨count, chars, there, decoded⟩
        · exact absurd rfl started
        · refine .inr ⟨count + 1, c :: chars, by simp at there; omega, ?_⟩
          rw [List.take_succ_cons, same, decoded]
          rfl
      · rw [same] at cut
        rcases ih (by nofun) cut with ⟨_, there⟩ | ⟨count, chars, there, decoded⟩
        · cases pending with
          | none =>
              cases fresh rfl
              exact .inr ⟨0, [], there, rfl⟩
          | some started => exact .inl ⟨nofun, there⟩
        · refine .inr ⟨count + 1, chars, by simp at there; omega, ?_⟩
          rw [List.take_succ_cons, same, decoded]

theorem decode_after_length (fresh : pending = none → begun = [])
    (decoded : decodeAfter position begun pending bytes = .ok chars) :
    chars.length ≤ bytes.length := by
  induction bytes generalizing position begun pending chars with
  | nil => cases pending <;> cases decoded; exact Nat.le_refl _
  | cons byte bytes ih =>
      rcases decode_after_cons fresh position byte with
        ⟨kind, octets, _, same⟩ | ⟨c, same⟩ | ⟨next, same⟩
      · rw [same] at decoded
        cases decoded
      · rw [same, map_ok_iff] at decoded
        obtain ⟨later, decoded, rfl⟩ := decoded
        exact Nat.succ_le_succ (ih (fun _ => rfl) decoded)
      · rw [same] at decoded
        exact Nat.le_succ_of_le (ih (by nofun) decoded)

/-- Which characters are decoded does not depend on where they stand. -/
theorem decode_after_place (place : Nat) (started : List UInt8) :
    (decodeAfter position begun pending bytes).toOption =
      (decodeAfter place started pending bytes).toOption := by
  induction bytes generalizing position begun pending place started with
  | nil => cases pending <;> rfl
  | cons byte bytes ih => cases pending <;> grind [decodeAfter, Except.toOption]

theorem decode_eq_some : decodeUtf8? bytes = some chars ↔ decodeUtf8 bytes = .ok chars := by
  rw [decodeUtf8?]
  cases decodeUtf8 bytes <;> simp [Except.toOption]

theorem decode_eq_none (flawed : decodeUtf8 bytes = .error flaw) : decodeUtf8? bytes = none := by
  rw [decodeUtf8?, flawed]
  rfl

/-- A text goes on with what the bytes behind it are the text of. -/
theorem decode_append (decoded : decodeUtf8? bytes = some chars) (rest : List UInt8) :
    decodeUtf8? (bytes ++ rest) = (decodeUtf8? rest).map (chars ++ ·) := by
  rw [decodeUtf8?, decodeUtf8, decode_after_append (fun _ => rfl) (decode_eq_some.1 decoded),
    to_option_map, decode_after_place 0 []]
  rfl

theorem decode_flawed (flawed : decodeUtf8 bytes = .error flaw) (final : flaw.kind ≠ .cutOff)
    (rest : List UInt8) : decodeUtf8? (bytes ++ rest) = none :=
  decode_eq_none (decode_after_flawed (fun _ => rfl) flawed final)

theorem decode_before_cut (cut : decodeUtf8 bytes = .error flaw) (cutOff : flaw.kind = .cutOff) :
    ∃ chars, decodeUtf8? (bytes.take flaw.position) = some chars := by
  rcases decode_after_cut (fun _ => rfl) cut cutOff with
    ⟨started, _⟩ | ⟨count, chars, there, decoded⟩
  · exact absurd rfl started
  · have count_eq : flaw.position = count := there.trans (Nat.zero_add count)
    exact ⟨chars, decode_eq_some.2 (count_eq ▸ decoded)⟩

/-- Every character takes a byte at least. -/
theorem decode_length (decoded : decodeUtf8? bytes = some chars) : chars.length ≤ bytes.length :=
  decode_after_length (fun _ => rfl) (decode_eq_some.1 decoded)

end

end Stubwright.Text
