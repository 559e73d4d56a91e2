import Stubwright.File
import Stubwright.Proofs.File.Pieces
import Stubwright.Proofs.Yaml.Stuck
import Stubwright.Proofs.Yaml.Whole

/-!
What a file holds. A file is read piece by piece, and each piece only when it is needed; but there
is no value before the end of the text has come, so a file holds a value if and only if its bytes
are a text as a whole, with no character in it that a document may not have, and the document has
that value.
-/

namespace Stubwright

open Text

namespace Yaml.Stream

section

variable {portions pieces : List (List Char)} {ending : Option Failure} {text : List Char}
  {count : Nat}

theorem of_portions_allowed (allowed : ∀ c ∈ portions.flatten, isAllowed c = true) :
    ofPortions none portions = ⟨portions.flatten, none⟩ := by
  induction portions with
  | nil => rfl
  | cons portion portions ih =>
      rw [List.flatten_cons, List.forall_mem_append] at allowed
      rw [ofPortions, if_pos (List.all_eq_true.2 allowed.1), ih allowed.2]
      rfl

theorem of_portions_whole (whole : (ofPortions ending portions).ending = none) :
    ending = none ∧ ∀ c ∈ portions.flatten, isAllowed c = true := by
  induction portions with
  | nil => exact ⟨whole, nofun⟩
  | cons portion portions ih =>
      rw [ofPortions] at whole
      split at whole
      next allowed =>
        obtain ⟨none, later⟩ := ih whole
        rw [List.flatten_cons, List.forall_mem_append]
        exact ⟨none, List.all_eq_true.1 allowed, later⟩
      next => cases whole

/-- The first two pieces are looked at together. -/
theorem joined_pieces (first second : List Char) (rest : List (List Char)) :
    ((first ++ second) :: rest).flatten = (first :: second :: rest).flatten := by
  rw [List.flatten_cons, List.flatten_cons, List.flatten_cons, List.append_assoc]

/-- Pieces without a forbidden character are put together again. -/
theorem of_pieces_allowed (pieces : List (List Char))
    (allowed : ∀ c ∈ pieces.flatten, isAllowed c = true) :
    ofPieces pieces none = ⟨pieces.flatten, none⟩ := by
  match pieces with
  | [] => rfl
  | [first] => exact of_portions_allowed allowed
  | first :: second :: rest =>
      rw [← joined_pieces] at allowed ⊢
      exact of_portions_allowed allowed

/-- Pieces that do not break off are all there, and without a forbidden character. -/
theorem of_pieces_whole (whole : (ofPieces pieces ending).ending = none) :
    ending = none ∧ ∀ c ∈ pieces.flatten, isAllowed c = true := by
  match pieces with
  | [] => exact ⟨whole, nofun⟩
  | [first] =>
      cases ending with
      | none => exact of_portions_whole whole
      | some failure => cases whole
  | first :: second :: rest =>
      rw [← joined_pieces]
      exact of_portions_whole whole

theorem flatten_cut (enough : text.length ≤ count) : (cut count text).flatten = text := by
  induction count generalizing text with
  | zero => exact (List.length_eq_zero_iff.1 (Nat.le_zero.1 enough)).symm
  | succ count ih =>
      rw [cut]
      split
      next none => exact (List.isEmpty_iff.1 none).symm
      next some =>
        have positive : 0 < pieceSize := by decide
        have shorter : (text.drop pieceSize).length ≤ count := by
          rw [List.length_drop]
          omega
        rw [List.flatten_cons, ih shorter, List.take_append_drop]

theorem of_chars_allowed (allowed : ∀ c ∈ text, isAllowed c = true) :
    ofChars text = ⟨text, none⟩ := by
  have pieces := flatten_cut (Nat.le_refl text.length)
  rw [ofChars, of_pieces_allowed _ (by rwa [pieces]), pieces]

theorem of_chars_whole (whole : (ofChars text).ending = none) :
    ∀ c ∈ text, isAllowed c = true := by
  have allowed := (of_pieces_whole whole).2
  rwa [flatten_cut (Nat.le_refl text.length)] at allowed

end

end Yaml.Stream

namespace FileContent

open Yaml

variable {room : Room} {file : FileContent} {bytes : List UInt8} {chars : List Char} {flaw : Flaw}
  {value : Value} {failure : Failure}

/-- A file that is a text is read as that text. -/
theorem stream_text (decoded : decodeUtf8 bytes = .ok chars) :
    stream bytes = .ofChars (unifyBreaks chars) := by
  rw [stream, Pieces.of_octets_text decoded]
  rfl

theorem stream_flawed (flawed : decodeUtf8 bytes = .error flaw) : (stream bytes).ending ≠ none := by
  intro whole
  have found := Pieces.of_octets_flawed (by decide : 0 < Stream.pieceSize) flawed
  exact found (Option.map_eq_none_iff.1 (Stream.of_pieces_whole whole).1)

/-- The bytes of a file are a text, with no character in it that a document may not have, and the
document has a value. -/
inductive Holds (room : Room) : FileContent → Value → Prop where
  | text {bytes : List UInt8} {chars : List Char} {value : Value}
      (decoded : decodeUtf8 bytes = .ok chars)
      (allowed : ∀ c ∈ unifyBreaks chars, isAllowed c = true)
      (loaded : Document.load room ⟨unifyBreaks chars, none⟩ = .ok value) :
      Holds room (.octets bytes) value

/-- Why the bytes of a file give no value. Where they are no text, what is wrong in front of the
flaw counts first. -/
inductive Fails (room : Room) : FileContent → Failure → Prop where
  | undecodable {bytes : List UInt8} {flaw : Flaw} {failure : Failure}
      (flawed : decodeUtf8 bytes = .error flaw)
      (failed : Document.load room (stream bytes) = .error failure) :
      Fails room (.octets bytes) failure
  | text {bytes : List UInt8} {chars : List Char} {failure : Failure}
      (decoded : decodeUtf8 bytes = .ok chars)
      (failed : Document.load room (.ofChars (unifyBreaks chars)) = .error failure) :
      Fails room (.octets bytes) failure

/-- No value is found in front of a flaw. -/
theorem load_flawed (flawed : decodeUtf8 bytes = .error flaw) :
    Document.load room (stream bytes) ≠ .ok value :=
  fun loaded => stream_flawed flawed (Document.load_whole loaded)

theorem load_text_iff (decoded : decodeUtf8 bytes = .ok chars) :
    Document.load room (stream bytes) = .ok value ↔
      (∀ c ∈ unifyBreaks chars, isAllowed c = true) ∧
        Document.load room ⟨unifyBreaks chars, none⟩ = .ok value := by
  rw [stream_text decoded]
  constructor
  · intro loaded
    have allowed := Stream.of_chars_whole (Document.load_whole loaded)
    rw [Stream.of_chars_allowed allowed] at loaded
    exact ⟨allowed, loaded⟩
  · rintro ⟨allowed, loaded⟩
    rwa [Stream.of_chars_allowed allowed]

theorem yaml_octets (room : Room) (bytes : List UInt8) :
    yaml room (.octets bytes) = (Document.load room (stream bytes)).mapError .ofFailure := rfl

theorem yaml_ok_iff : file.yaml room = .ok value ↔ file.Holds room value := by
  constructor
  · intro read
    cases file with
    | missing => cases read
    | directory => cases read
    | octets bytes =>
        have loaded : Document.load room (stream bytes) = .ok value := by
          rw [yaml_octets] at read
          cases loaded : Document.load room (stream bytes) with
          | error failure => rw [loaded] at read; cases read
          | ok found => rw [loaded] at read; cases read; rfl
        cases decoded : decodeUtf8 bytes with
        | error flaw => exact absurd loaded (load_flawed decoded)
        | ok chars =>
            obtain ⟨allowed, loaded⟩ := (load_text_iff decoded).1 loaded
            exact .text decoded allowed loaded
  · rintro ⟨decoded, allowed, loaded⟩
    rw [yaml_octets, (load_text_iff decoded).2 ⟨allowed, loaded⟩]
    rfl

theorem fails_iff :
    Fails room (.octets bytes) failure ↔ Document.load room (stream bytes) = .error failure := by
  constructor
  · rintro (⟨_, failed⟩ | ⟨decoded, failed⟩)
    · exact failed
    · rwa [stream_text decoded]
  · intro failed
    cases decoded : decodeUtf8 bytes with
    | error flaw => exact .undecodable decoded failed
    | ok chars => exact .text decoded (stream_text decoded ▸ failed)

/-- What the reader can break on: bytes that are no text, a text whose tokens cannot be put together
as a node, and a scalar of that node that cannot be converted. -/
inductive Breaks (room : Room) : FileContent → Failure → Prop where
  | undecodable {bytes : List UInt8} {flaw : Flaw} {failure : Failure}
      (flawed : decodeUtf8 bytes = .error flaw)
      (failed : Node.ofTokens? room (.ofStream (stream bytes)) = .error failure) :
      Breaks room (.octets bytes) failure
  | tokens {bytes : List UInt8} {chars : List Char} {failure : Failure}
      (decoded : decodeUtf8 bytes = .ok chars)
      (failed : Node.ofTokens? room (.ofStream (.ofChars (unifyBreaks chars))) = .error failure) :
      Breaks room (.octets bytes) failure
  | scalar {bytes : List UInt8} {chars : List Char} {root : Node} {failure : Failure}
      (decoded : decodeUtf8 bytes = .ok chars)
      (composed : Node.ofTokens? room (.ofStream (.ofChars (unifyBreaks chars))) = .ok (some root))
      (stuck : Document.IsStuck root failure) : Breaks room (.octets bytes) failure

theorem Fails.breaks (fails : Fails room file failure) (other : failure ≠ .malformed) :
    Breaks room file failure := by
  cases fails with
  | @undecodable bytes _ _ flawed failed =>
      rcases Document.load_fails failed with failed | ⟨root, composed, _⟩
      · exact .undecodable flawed failed
      · have whole := TokenList.of_stream_whole (Node.of_tokens_whole composed)
        exact absurd whole (stream_flawed flawed)
  | text decoded failed =>
      rcases Document.load_fails failed with failed | ⟨root, composed, failed⟩
      · exact .tokens decoded failed
      · exact .scalar decoded composed ((Document.of_node_fails failed).resolve_left other)

theorem yaml_error_iff {cause : FileError} :
    file.yaml room = .error cause ↔
      (cause = .unreadable ∧ ∀ bytes, file ≠ .octets bytes) ∨
        ∃ failure, file.Fails room failure ∧ cause = .ofFailure failure := by
  cases file with
  | missing =>
      constructor
      · rintro ⟨⟩
        exact .inl ⟨rfl, nofun⟩
      · rintro (⟨rfl, _⟩ | ⟨_, ⟨⟩, _⟩)
        rfl
  | directory =>
      constructor
      · rintro ⟨⟩
        exact .inl ⟨rfl, nofun⟩
      · rintro (⟨rfl, _⟩ | ⟨_, ⟨⟩, _⟩)
        rfl
  | octets bytes =>
      simp only [fails_iff]
      rw [yaml_octets]
      constructor
      · intro read
        cases loaded : Document.load room (stream bytes) with
        | ok value => rw [loaded] at read; cases read
        | error failure =>
            rw [loaded] at read
            cases read
            exact .inr ⟨failure, rfl, rfl⟩
      · rintro (⟨_, hidden⟩ | ⟨failure, failed, rfl⟩)
        · exact absurd rfl (hidden bytes)
        · rw [failed]
          rfl

end FileContent

end Stubwright
