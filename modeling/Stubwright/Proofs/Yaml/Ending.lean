import Stubwright.Proofs.Outcome
import Stubwright.Proofs.Yaml.Cursor
import Stubwright.Yaml.Document

/-!
The tokens of a text are read to its end. Wherever the scanner goes, it keeps in mind whether the
text breaks off, and it is done only at the end of a text that does not.
-/

namespace Stubwright.Yaml

section

variable {α : Type} {value : α} {failure : Failure}

@[grind =]
theorem pure_ok : (pure value : Except Failure α) = .ok value := rfl

@[grind =]
theorem throw_error : (throw failure : Except Failure α) = .error failure := rfl

end

section

variable {cursor after : Cursor} {fuel bound width indent widest : Nat} {c quote : Char}
  {holds : Char → Bool} {chars : List Char} {text : Text} {double fold : Bool}

attribute [grind =] Cursor.ending_next

namespace Cursor

@[grind =]
theorem ending_advance (count : Nat) (cursor : Cursor) :
    (cursor.advance count).ending = cursor.ending := by
  induction count generalizing cursor with
  | zero => rfl
  | succ count ih => exact (ih cursor.next).trans (ending_next cursor)

@[grind =]
theorem ending_run : (cursor.run holds).2.ending = cursor.ending := ending_advance _ cursor

@[grind =]
theorem ending_skip : (cursor.skip holds).ending = cursor.ending := ending_run

@[grind =]
theorem ending_skip_spaces :
    (cursor.skipSpacesBelow bound fuel).ending = cursor.ending := by
  induction fuel generalizing cursor with
  | zero => rfl
  | succ fuel ih => grind [skipSpacesBelow]

@[grind →]
theorem ending_line_break (found : cursor.lineBreak? = some (c, after)) :
    after.ending = cursor.ending := by
  grind [lineBreak?]

@[grind =]
theorem ending_past_break :
    ((cursor.lineBreak?.map Prod.snd).getD cursor).ending = cursor.ending := by
  cases found : cursor.lineBreak? with
  | none => rfl
  | some found => exact ending_line_break found

@[grind =]
theorem ending_skip_comment : cursor.skipComment.ending = cursor.ending := by
  grind [skipComment]

@[grind →]
theorem ending_end_line (ended : cursor.endLine = .ok after) : after.ending = cursor.ending := by
  grind [endLine]

end Cursor

namespace Quoted

@[grind →]
theorem ending_breaks (read : breaks fuel cursor = .ok (chars, after)) :
    after.ending = cursor.ending := by
  induction fuel generalizing cursor chars after with
  | zero => cases read
  | succ fuel ih => grind [breaks]

@[grind →]
theorem ending_spaces (read : spaces cursor = .ok (chars, after)) :
    after.ending = cursor.ending := by
  grind [spaces]

@[grind →]
theorem ending_numbered (read : numbered width cursor = .ok (text, after)) :
    after.ending = cursor.ending := by
  grind [numbered]

@[grind →]
theorem ending_escape (read : escape cursor = .ok (text, after)) :
    after.ending = cursor.ending := by
  grind [escape]

@[grind →]
theorem ending_solid (read : solid double fuel cursor = .ok (text, after)) :
    after.ending = cursor.ending := by
  induction fuel generalizing cursor text after with
  | zero => cases read
  | succ fuel ih => grind [solid]

@[grind →]
theorem ending_parts (read : parts double quote fuel cursor = .ok (text, after)) :
    after.ending = cursor.ending := by
  induction fuel generalizing cursor text after with
  | zero => cases read
  | succ fuel ih => grind [parts]

@[grind →]
theorem ending_scan (read : scan double cursor = .ok (text, after)) :
    after.ending = cursor.ending := by
  grind [scan]

end Quoted

namespace Block

@[grind →]
theorem ending_indicators {chomping : Chomping} {increment : Option Nat}
    (read : indicators cursor = .ok (chomping, increment, after)) :
    after.ending = cursor.ending := by
  unfold indicators at read
  split at read
  · grind
  · split at read <;> grind

@[grind =]
theorem ending_leading : (leading fuel widest cursor).2.2.ending = cursor.ending := by
  induction fuel generalizing cursor widest with
  | zero => rfl
  | succ fuel ih => grind [leading]

@[grind =]
theorem ending_breaks : (breaks indent fuel cursor).2.ending = cursor.ending := by
  induction fuel generalizing cursor with
  | zero => rfl
  | succ fuel ih => grind [breaks]

@[grind =]
theorem ending_lines {chomping : Chomping} {before : List Char} :
    (lines fold chomping indent before fuel cursor).2.ending = cursor.ending := by
  induction fuel generalizing cursor before with
  | zero => rfl
  | succ fuel ih => grind [lines]

@[grind →]
theorem ending_scan {outer : Int} (read : scan fold outer cursor = .ok (chars, after)) :
    after.ending = cursor.ending := by
  grind [scan]

end Block

namespace Plain

@[grind =]
theorem ending_breaks : (breaks fuel cursor).2.ending = cursor.ending := by
  induction fuel generalizing cursor with
  | zero => rfl
  | succ fuel ih => grind [breaks]

@[grind =]
theorem ending_spaces : (spaces cursor).2.1.ending = cursor.ending := by
  grind [spaces]

@[grind =]
theorem ending_parts {flow newLine : Bool} {column : Int} {between : List Char} :
    (parts flow column between newLine fuel cursor).2.1.ending = cursor.ending := by
  induction fuel generalizing cursor between newLine with
  | zero => rfl
  | succ fuel ih => grind [parts]

@[grind =]
theorem ending_scan {flow : Bool} {outer : Int} :
    (scan flow outer cursor).2.1.ending = cursor.ending :=
  ending_parts

end Plain

namespace Scanner

variable {scanner ready : Scanner} {octets : List UInt8} {name : String} {token : Token}

@[grind →]
theorem ending_anchor_name (read : anchorName cursor = .ok (name, after)) :
    after.ending = cursor.ending := by
  grind [anchorName]

@[grind →]
theorem ending_escaped_bytes (read : escapedBytes fuel cursor = .ok (octets, after)) :
    after.ending = cursor.ending := by
  induction fuel generalizing cursor octets after with
  | zero => cases read
  | succ fuel ih => grind [escapedBytes]

@[grind →]
theorem ending_tag_text (read : tagText fuel cursor = .ok (chars, after)) :
    after.ending = cursor.ending := by
  induction fuel generalizing cursor chars after with
  | zero => cases read
  | succ fuel ih => grind [tagText]

@[grind →]
theorem ending_tag_uri (read : tagUri cursor = .ok (name, after)) :
    after.ending = cursor.ending := by
  grind [tagUri]

@[grind →]
theorem ending_tag_handle (read : tagHandle cursor = .ok (name, after)) :
    after.ending = cursor.ending := by
  grind [tagHandle]

@[grind →]
theorem ending_tag_name {name : TagName} (read : tagName cursor = .ok (name, after)) :
    after.ending = cursor.ending := by
  grind [tagName]

@[grind →]
theorem ending_number {number : Nat} (read : Scanner.number cursor = .ok (number, after)) :
    after.ending = cursor.ending := by
  grind [Scanner.number]

@[grind →]
theorem ending_version_directive {content : Directive}
    (read : versionDirective cursor = .ok (content, after)) : after.ending = cursor.ending := by
  grind [versionDirective]

@[grind →]
theorem ending_tag_directive {content : Directive}
    (read : tagDirective cursor = .ok (content, after)) : after.ending = cursor.ending := by
  grind [tagDirective]

/-- A step of the scanner keeps in mind where the text breaks off, and is not the last. -/
def Continues (scanner ready : Scanner) : Prop :=
  ready.cursor.ending = scanner.cursor.ending ∧ ready.finished = scanner.finished

@[grind →]
theorem drop_stale_continues (dropped : scanner.dropStale = .ok ready) :
    scanner.Continues ready := by
  grind [dropStale, Continues]

@[grind →]
theorem drop_mark_continues (dropped : scanner.dropMark = .ok ready) :
    scanner.Continues ready := by
  grind [dropMark, Continues]

@[grind →]
theorem save_mark_continues (saved : scanner.saveMark = .ok ready) :
    scanner.Continues ready := by
  grind [saveMark, Continues]

@[grind ←]
theorem unwind_from_continues {column : Int} {outer : List Int} :
    scanner.Continues (unwindFrom column outer scanner) := by
  induction outer generalizing scanner with
  | nil => exact ⟨rfl, rfl⟩
  | cons indent outer ih => grind [unwindFrom, Continues, push]

@[grind ←]
theorem unwind_continues {column : Int} : scanner.Continues (scanner.unwind column) := by
  grind [unwind, Continues]

@[grind ←]
theorem open_block_continues : scanner.Continues (scanner.openBlock token) := by
  grind [openBlock, indentTo?, push, Continues]

@[grind ←]
theorem to_next_token_continues : scanner.Continues (toNextToken fuel scanner) := by
  induction fuel generalizing scanner with
  | zero => exact ⟨rfl, rfl⟩
  | succ fuel ih => grind [toNextToken, moved, Continues]

@[grind ←]
theorem skip_order_mark_continues : scanner.Continues scanner.skipOrderMark := by
  grind [skipOrderMark, moved, Continues]

@[grind →]
theorem before_document_continues (read : scanner.beforeDocument = .ok ready) :
    scanner.Continues ready := by
  have unwound : scanner.Continues (scanner.unwind (-1)) := unwind_continues
  grind [beforeDocument, Continues]

@[grind →]
theorem document_mark_continues (read : scanner.documentMark token = .ok ready) :
    scanner.Continues ready := by
  grind [documentMark, moved, push, Continues]

@[grind →]
theorem flow_start_continues (read : scanner.flowStart token = .ok ready) :
    scanner.Continues ready := by
  grind [flowStart, single, moved, push, Continues]

@[grind →]
theorem flow_end_continues (read : scanner.flowEnd token = .ok ready) :
    scanner.Continues ready := by
  grind [flowEnd, single, moved, push, Continues]

@[grind →]
theorem flow_entry_continues (read : scanner.flowEntry = .ok ready) :
    scanner.Continues ready := by
  grind [flowEntry, single, moved, push, Continues]

@[grind →]
theorem block_indicator_continues (read : scanner.blockIndicator token = .ok ready) :
    scanner.Continues ready := by
  grind [blockIndicator, Continues]

@[grind →]
theorem block_entry_continues (read : scanner.blockEntry = .ok ready) :
    scanner.Continues ready := by
  grind [blockEntry, single, moved, push, Continues]

@[grind →]
theorem key_continues (read : scanner.key = .ok ready) : scanner.Continues ready := by
  grind [key, single, moved, push, Continues]

@[grind →]
theorem value_continues (read : scanner.value = .ok ready) : scanner.Continues ready := by
  grind [value, insertAt, indentTo?, single, moved, push, Continues]

/-- What a directive still reads after its contents. -/
theorem directive_end_continues {last : Cursor} {content : Directive}
    (here : last.ending = scanner.cursor.ending)
    (read : (do return (scanner.moved (← last.endLine)).push (.directive content) :
      Except Failure Scanner) = .ok ready) :
    scanner.Continues ready := by
  grind [moved, push, Continues]

@[grind →]
theorem directive_continues (read : scanner.directive = .ok ready) :
    scanner.Continues ready := by
  obtain ⟨cleared, before, read⟩ := bind_ok_iff.1 read
  have start := before_document_continues before
  suffices continues : cleared.Continues ready from
    ⟨continues.1.trans start.1, continues.2.trans start.2⟩
  dsimp only at read
  split at read
  · cases read
  · split at read
    · obtain ⟨content, version, read⟩ := bind_ok_iff.1 read
      exact directive_end_continues (by rw [ending_version_directive version, Cursor.ending_run,
        Cursor.ending_next]) read
    · split at read
      · obtain ⟨content, tag, read⟩ := bind_ok_iff.1 read
        exact directive_end_continues (by rw [ending_tag_directive tag, Cursor.ending_run,
          Cursor.ending_next]) read
      · exact directive_end_continues (by rw [Cursor.ending_skip, Cursor.ending_run,
          Cursor.ending_next]) read

theorem keyable_continues {read : Cursor → Except Failure (Token × Cursor)}
    (keeps : ∀ cursor token after, read cursor = .ok (token, after) →
      after.ending = cursor.ending)
    (done : scanner.keyable read = .ok ready) : scanner.Continues ready := by
  grind [keyable, push, Continues]

@[grind →]
theorem quoted_continues (read : scanner.quoted double = .ok ready) :
    scanner.Continues ready := by
  refine keyable_continues ?_ read
  grind

@[grind →]
theorem plain_continues (read : scanner.plain = .ok ready) : scanner.Continues ready := by
  grind [plain, push, Continues]

@[grind →]
theorem block_continues (read : scanner.block fold = .ok ready) : scanner.Continues ready := by
  grind [block, push, Continues]

theorem ending_named {make : String → Token}
    (read : (do let (name, after) ← anchorName cursor; return (make name, after) :
      Except Failure (Token × Cursor)) = .ok (token, after)) :
    after.ending = cursor.ending := by
  obtain ⟨⟨name, rest⟩, named, read⟩ := bind_ok_iff.1 read
  cases read
  exact ending_anchor_name named

theorem ending_tagged
    (read : (do let (name, after) ← tagName cursor; return (.tag name, after) :
      Except Failure (Token × Cursor)) = .ok (token, after)) :
    after.ending = cursor.ending := by
  obtain ⟨⟨name, rest⟩, named, read⟩ := bind_ok_iff.1 read
  cases read
  exact ending_tag_name named

theorem of_ite {α : Type} {condition : Prop} [Decidable condition] {one other result : α}
    (same : (if condition then one else other) = result) : one = result ∨ other = result := by
  split at same
  · exact .inl same
  · exact .inr same

/-- Whatever the scanner takes a character for, it goes on. -/
theorem fetch_char_continues (read : scanner.fetchChar c = .ok ready) :
    scanner.Continues ready := by
  rcases of_ite read with read | read
  · exact directive_continues read
  rcases of_ite read with read | read
  · exact document_mark_continues read
  rcases of_ite read with read | read
  · exact document_mark_continues read
  rcases of_ite read with read | read
  · exact flow_start_continues read
  rcases of_ite read with read | read
  · exact flow_start_continues read
  rcases of_ite read with read | read
  · exact flow_end_continues read
  rcases of_ite read with read | read
  · exact flow_end_continues read
  rcases of_ite read with read | read
  · exact flow_entry_continues read
  rcases of_ite read with read | read
  · exact block_entry_continues read
  rcases of_ite read with read | read
  · exact key_continues read
  rcases of_ite read with read | read
  · exact value_continues read
  rcases of_ite read with read | read
  · exact keyable_continues (fun _ _ _ => ending_named) read
  rcases of_ite read with read | read
  · exact keyable_continues (fun _ _ _ => ending_named) read
  rcases of_ite read with read | read
  · exact keyable_continues (fun _ _ _ => ending_tagged) read
  rcases of_ite read with read | read
  · exact block_continues read
  rcases of_ite read with read | read
  · exact block_continues read
  rcases of_ite read with read | read
  · exact quoted_continues read
  rcases of_ite read with read | read
  · exact quoted_continues read
  rcases of_ite read with read | read
  · exact plain_continues read
  cases read

/-- The scanner is done only at the end of a text that does not break off. -/
theorem fetch_keeps (read : scanner.fetch = .ok ready) (going : scanner.finished = false) :
    ready.cursor.ending = scanner.cursor.ending ∧
      (ready.finished = true → scanner.cursor.ending = none) := by
  obtain ⟨fresh, dropped, read⟩ := bind_ok_iff.1 read
  dsimp only at read
  have start : scanner.Continues (fresh.unwind fresh.cursor.column) := by
    have skipped : scanner.Continues scanner.skipOrderMark := skip_order_mark_continues
    have moved : scanner.skipOrderMark.Continues
        (toNextToken (scanner.cursor.size + 1) scanner.skipOrderMark) := to_next_token_continues
    have live := drop_stale_continues dropped
    have unwound : fresh.Continues (fresh.unwind fresh.cursor.column) := unwind_continues
    grind [Continues]
  split at read
  next =>
    obtain ⟨after, fetched, read⟩ := bind_ok_iff.1 read
    have continues := fetch_char_continues fetched
    have same : after = ready := by
      split at read
      · split at read
        · cases read
        · cases read
          rfl
      · cases read
        rfl
    grind [Continues]
  next => cases read
  next whole =>
    obtain ⟨closed, dropped, read⟩ := bind_ok_iff.1 read
    have unwound : (fresh.unwind fresh.cursor.column).Continues
        ((fresh.unwind fresh.cursor.column).unwind (-1)) := unwind_continues
    have continues := drop_mark_continues dropped
    cases read
    grind [Continues]

theorem fetch_all_whole {scanner : Scanner} (going : scanner.finished = false)
    (whole : (TokenList.fetchAll fuel scanner).ending = none) : scanner.cursor.ending = none := by
  induction fuel generalizing scanner with
  | zero => cases whole
  | succ fuel ih =>
      rw [TokenList.fetchAll] at whole
      split at whole
      next => cases whole
      next after read =>
        obtain ⟨kept, done⟩ := fetch_keeps read going
        split at whole
        next finished => exact done finished
        next unfinished =>
          rw [← kept]
          exact ih (Bool.eq_false_iff.2 unfinished) whole

end Scanner

theorem TokenList.of_stream_whole {stream : Stream} (whole : (ofStream stream).ending = none) :
    stream.ending = none :=
  Scanner.fetch_all_whole rfl whole

end

end Stubwright.Yaml
