import Stubwright.Value.Shown
import Stubwright.Text.Utf8

/-!
Reading of loosely typed data with a report of everything that is wrong with it. Readers of several
parts are put together applicatively: the parts are all read, and their issues are listed in the
order of the parts.
-/

namespace Stubwright

open Decimal

inductive Step where
  | field (name : Text)
  | index (position : Int)
  deriving DecidableEq

inductive Fault where
  | missing
  | notModel (model : Text)
  | notText
  | undecodableText
  | notTruth
  | unreadableTruth
  | notList
  | notAmong (words : List Text)
  | notTagged
  | noTag
  | unknownTag (tag : Text) (known : List Text)
  | tooShort
  | rejected (reason : Text)
  | unknownField
  | keyNotText

structure Issue where
  fault : Fault
  path : List Step

namespace Fault

def quoteWord (word : Text) : Text := "'" ++ word ++ "'"

/-- Words in quotes with commas between them, and `or` before the last. -/
def choice (words : List Text) : Text :=
  match words.reverse with
  | [] => []
  | [only] => quoteWord only
  | last :: others =>
      Text.joinWith ", " (others.reverse.map quoteWord) ++ " or " ++ quoteWord last

def code : Fault → Text
  | .missing => "missing"
  | .notModel _ => "model_type"
  | .notText => "string_type"
  | .undecodableText => "string_unicode"
  | .notTruth => "bool_type"
  | .unreadableTruth => "bool_parsing"
  | .notList => "list_type"
  | .notAmong _ => "literal_error"
  | .notTagged => "model_attributes_type"
  | .noTag => "union_tag_not_found"
  | .unknownTag _ _ => "union_tag_invalid"
  | .tooShort => "string_too_short"
  | .rejected _ => "value_error"
  | .unknownField => "extra_forbidden"
  | .keyNotText => "invalid_key"

def message : Fault → Text
  | .missing => "Field required"
  | .notModel model => "Input should be a valid dictionary or instance of " ++ model
  | .notText => "Input should be a valid string"
  | .undecodableText =>
      "Input should be a valid string, unable to parse raw data as a unicode string"
  | .notTruth => "Input should be a valid boolean"
  | .unreadableTruth => "Input should be a valid boolean, unable to interpret input"
  | .notList => "Input should be a valid list"
  | .notAmong words => "Input should be " ++ choice words
  | .notTagged => "Input should be a valid dictionary or object to extract fields from"
  | .noTag => "Unable to extract tag using discriminator 'kind'"
  | .unknownTag tag known =>
      "Input tag '" ++ tag ++ "' found using 'kind' does not match any of the expected tags: " ++
        Text.joinWith ", " (known.map quoteWord)
  | .tooShort => "String should have at least 1 character"
  | .rejected reason => "Value error, " ++ reason
  | .unknownField => "Extra inputs are not permitted"
  | .keyNotText => "Keys should be strings"

end Fault

/-- A value that was understood, or everything that kept it from being so. -/
inductive Checked (α : Type) where
  | valid (value : α)
  | invalid (issues : List Issue)

namespace Checked

variable {α β : Type}

def issues : Checked α → List Issue
  | .valid _ => []
  | .invalid issues => issues

def map (f : α → β) : Checked α → Checked β
  | .valid value => .valid (f value)
  | .invalid issues => .invalid issues

def apply (f : Checked (α → β)) (x : Checked α) : Checked β :=
  match f, x with
  | .valid function, .valid value => .valid (function value)
  | .valid _, .invalid issues => .invalid issues
  | .invalid issues, .valid _ => .invalid issues
  | .invalid first, .invalid second => .invalid (first ++ second)

instance : Applicative Checked where
  pure := .valid
  map := map
  seq f x := apply f (x ())

def refuse (fault : Fault) : Checked α := .invalid [⟨fault, []⟩]

/-- Makes the issues of a part issues of the whole. -/
def within (step : Step) : Checked α → Checked α
  | .valid value => .valid value
  | .invalid issues =>
      .invalid (issues.map fun issue => { issue with path := step :: issue.path })

def andThen (x : Checked α) (next : α → Checked β) : Checked β :=
  match x with
  | .valid value => next value
  | .invalid issues => .invalid issues

def require (holds : α → Bool) (fault : Fault) (x : Checked α) : Checked α :=
  x.andThen fun value => if holds value then .valid value else refuse fault

end Checked

namespace Value

variable {α : Type}

/-- Texts, and bytes that are a text in UTF-8. -/
def asText : Value → Checked Text
  | .str text => .valid text
  | .bytes octets =>
      match Text.decodeUtf8? octets with
      | some text => .valid (Text.ofChars text)
      | none => .refuse .undecodableText
  | _ => .refuse .notText

/-- Texts that are looked into must consist of characters. -/
def asChars (value : Value) : Checked (List Char) :=
  (asText value).andThen fun text =>
    match text.chars? with
    | some chars => .valid chars
    | none => .refuse .undecodableText

def trueWords : List String := ["1", "on", "t", "true", "y", "yes"]

def falseWords : List String := ["0", "off", "f", "false", "n", "no"]

def truthOfWord (word : List Char) : Checked Bool :=
  let lower := String.ofList (word.map Char.toLower)
  if lower ∈ trueWords then .valid true
  else if lower ∈ falseWords then .valid false
  else .refuse .unreadableTruth

def truthOfInt (number : Int) : Checked Bool :=
  if number = 0 then .valid false
  else if number = 1 then .valid true
  else .refuse .unreadableTruth

/-- Truth values, the numbers zero and one, and a few words. A number is looked at only if it is
whole and fits into 64 bits; a float must also stay clear of the bounds. -/
def asTruth : Value → Checked Bool
  | .bool truth => .valid truth
  | .str text =>
      match text.chars? with
      | some word => truthOfWord word
      | none => .refuse .undecodableText
  | .bytes octets =>
      match Text.decodeUtf8? octets with
      | some text => truthOfWord text
      | none => .refuse .unreadableTruth
  | .int number =>
      if -(2 ^ (63 : Nat)) ≤ number ∧ number < 2 ^ (63 : Nat) then truthOfInt number
      else .refuse .notTruth
  | .float number =>
      match number.toInt? with
      | some whole =>
          if -(2 ^ (63 : Nat)) < whole ∧ whole < 2 ^ (63 : Nat) then truthOfInt whole
          else .refuse .notTruth
      | none => .refuse .notTruth
  | _ => .refuse .notTruth

def asWord (words : List (Text × α)) (value : Value) : Checked α :=
  match value with
  | .str text =>
      match words.lookup text with
      | some meaning => .valid meaning
      | none =>
          .refuse (if text.chars?.isSome then .notAmong (words.map Prod.fst) else .undecodableText)
  | _ => .refuse (.notAmong (words.map Prod.fst))

def readItems (read : Value → Checked α) (position : Nat) : List Value → Checked (List α)
  | [] => .valid []
  | item :: items =>
      List.cons <$> (read item).within (.index position) <*> readItems read (position + 1) items

/-- Any sequence or set serves as a list. -/
def asList (read : Value → Checked α) (value : Value) : Checked (List α) :=
  match value.unfolded with
  | .list items => readItems read 0 items
  | .tuple items => readItems read 0 items
  | .set items => readItems read 0 items
  | _ => .refuse .notList

def asOptional (read : Value → Checked α) : Value → Checked (Option α)
  | .null => .valid none
  | value => some <$> read value

def asModel (model : Text) (read : List (Value × Value) → Checked α) (value : Value) : Checked α :=
  match value.unfolded with
  | .map entries => read entries
  | _ => .refuse (.notModel model)

def requiredField (entries : List (Value × Value)) (name : Text) (read : Value → Checked α) :
    Checked α :=
  Checked.within (.field name) <|
    match lookup? name entries with
    | some value => read value
    | none => .refuse .missing

/-- A field that may be left out. The value it then takes is not looked at. -/
def fieldOr (entries : List (Value × Value)) (name : Text) (fallback : α)
    (read : Value → Checked α) : Checked α :=
  match lookup? name entries with
  | some value => (read value).within (.field name)
  | none => .valid fallback

/-- A tag as it stands in a message: each half as three marks of what cannot be shown. -/
def tagText (tag : Value) : Text :=
  (tag.writtenOr plain).flatMap fun point =>
    match point with
    | .char c => [.char c]
    | .half _ => List.replicate 3 '\ufffd'

/-- One of several models, told apart by the word under `kind`. -/
def asTagged (models : List (Text × (Value → Checked α))) (value : Value) : Checked α :=
  match value.unfolded with
  | .map entries =>
      match lookup? "kind" entries with
      | none => .refuse .noTag
      | some tag =>
          let unknown := .refuse (.unknownTag tag.tagText (models.map Prod.fst))
          match tag with
          | .str word =>
              match models.lookup word with
              | some read => (read (.map entries)).within (.field word)
              | none => unknown
          | _ => unknown
  | _ => .refuse .notTagged

/-- The tag of a model that is read on its own: it may be left out, but not be another. -/
def ownTag (entries : List (Value × Value)) (tag : Text) : Checked Unit :=
  fieldOr entries "kind" () (asWord [(tag, ())])

end Value

end Stubwright
