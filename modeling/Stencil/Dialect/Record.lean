import Stencil.Dialect.Basic
import Stencil.Pattern.Reader

/-!
# Dialect records

A dialect is described by a JSON record.  A record is read field by field; the first field that does
not fit is reported.  Some lists are taken as they come: where a list is expected, a text counts as
the list of its characters and an object as the list of its keys.
-/

namespace Stencil

/-- Why a record is not read as a dialect. -/
inductive RecordFault where
  | notObject
  | nameMissing
  | unknownWriter (writer : Json)
  | blockComment
  | charQuote
  | terminator
  /-- A token that holds no colon, or nothing else. -/
  | colonToken (token : Text)
  /-- A marker of format specifiers that opens no line comment. -/
  | specMarker (marker : Text)
  /-- A field that has to be a list of texts. -/
  | notTexts (key : Text)
  /-- A pattern in the list of the given field that cannot be read. -/
  | pattern (key : Text)
  /-- A repetition in a pattern whose count is too large. -/
  | patternCount
  /-- A pattern that is meant for ASCII alone and for all characters. -/
  | patternAlphabets
  /-- A value without members where an object is expected. -/
  | noMembers (value : Json)
  /-- A value where a list is expected. -/
  | notIterable (value : Json)
  /-- An entry without a length. -/
  | noLength (value : Json)
  /-- A value in which nothing can be looked for. -/
  | noContainer (value : Json)

namespace RecordFault

/-- Whether a fault is reported as one of the record; the others break off the reading of it. -/
def isReported : RecordFault → Bool
  | .patternCount | .patternAlphabets => false
  | .noMembers _ | .notIterable _ | .noLength _ | .noContainer _ => false
  | _ => true

/-- The kind of a value, between quotes. -/
def kindOf (value : Json) : Text := Text.quoted (Value.ofJson value).kind

/-- The message about a field that does not fit. -/
def field (origin detail : Text) : Text := "DIALECT_FIELD_INVALID: " ++ origin ++ ": " ++ detail

/-- The message of a fault in the record with the given origin. -/
def message (origin : Text) : RecordFault → Text
  | .notObject => "DIALECT_NOT_OBJECT: " ++ origin
  | .nameMissing => "DIALECT_NAME_MISSING: " ++ origin
  | .unknownWriter writer =>
    "DIALECT_WRITER_UNKNOWN: " ++ origin ++ ": " ++ (Value.ofJson writer).shown
  | .blockComment => field origin "comments.block must be [open, close]"
  | .charQuote => field origin "strings.char_quote must be one character"
  | .terminator => field origin "statement_terminator must be one character"
  | .colonToken token => field origin ("compound colon token " ++ token.quoted)
  | .specMarker marker =>
    field origin ("spec comment marker " ++ marker.quoted ++ " is not a line comment")
  | .notTexts key => field origin (key ++ " must be a list of strings")
  | .pattern key => "DIALECT_PATTERN_INVALID: " ++ origin ++ ": " ++ key
  | .patternCount => "the repetition number is too large"
  | .patternAlphabets => "ASCII and UNICODE flags are incompatible"
  | .noMembers value => kindOf value ++ " object has no attribute 'get'"
  | .notIterable value => kindOf value ++ " object is not iterable"
  | .noLength value => "object of type " ++ kindOf value ++ " has no len()"
  | .noContainer value => "argument of type " ++ kindOf value ++ " is not iterable"

end RecordFault

/-- Texts in order, each once. -/
def Text.sortedSet (ts : List Text) : List Text := ts.eraseDups.mergeSort Text.le

namespace Dialect.Record

/-! ### Fields -/

def entry : Json → Entry
  | .str t => .text t
  | value => .other value

/-- The entries that a value stands for where a list is expected. -/
def entries : Json → Except RecordFault (List Entry)
  | .str t => .ok (t.map fun c => .text [c])
  | .arr items => .ok (items.map entry)
  | .obj members => .ok (members.map fun (key, _) => .text key)
  | value => .error (.notIterable value)

/-- The entry with its length. -/
def measured : Entry → Except RecordFault (Entry × Nat)
  | .text t => .ok (.text t, t.length)
  | .other (.arr items) => .ok (.other (.arr items), items.length)
  | .other (.obj members) => .ok (.other (.obj members), members.length)
  | .other value => .error (.noLength value)

/-- Entries from the longest to the shortest; those of one length stay in their order. -/
def longestFirst (es : List Entry) : Except RecordFault (List Entry) := do
  return ((← es.mapM measured).mergeSort fun a b => b.2 ≤ a.2).map (·.1)

/-- Whether a text occurs in what stands where a list is expected. -/
def occurs (t : Text) : Json → Except RecordFault Bool
  | .str whole => .ok (Text.occursIn t whole)
  | .arr items => .ok (items.any fun j => j.text? = some t)
  | .obj members => .ok (members.any fun (key, _) => key = t)
  | value => .error (.noContainer value)

/-- The texts of a list, if it holds texts only. -/
def allTexts? : List Json → Option (List Text) := List.mapM Json.text?

/-- The value of a key, or the given one if the record has no such key. -/
def valueOr (record : Json) (key : Text) (otherwise : Json) : Json :=
  (record.get? key).getD otherwise

/-- The field with the given key, which has to be a list of texts. -/
def texts (record : Json) (key : Text) : Except RecordFault (List Text) :=
  match valueOr record key (.arr []) with
  | .arr items =>
    match allTexts? items with
    | some ts => .ok ts
    | none => .error (.notTexts key)
  | _ => .error (.notTexts key)

/-- The value with the given key in a part of a record. -/
def inner (part : Json) (key : Text) : Except RecordFault (Option Json) :=
  match part with
  | .obj members => .ok (Json.find? key members)
  | value => .error (.noMembers value)

/-- A flag, which holds by default if `otherwise` is set. -/
def flag (otherwise : Bool) (value : Option Json) : Bool := value.elim otherwise Json.holds

/-- The patterns that the field with the given key lists. -/
def patterns (record : Json) (key : Text) : Except RecordFault (List Pattern) := do
  (← texts record key).mapM fun source =>
    (Pattern.read source).mapError fun
      | .malformed => .pattern key
      | .countTooLarge => .patternCount
      | .mixedAlphabets => .patternAlphabets

/-- What opens and what closes a block comment. -/
def blockComment : Option Json → Except RecordFault (Option (Text × Text))
  | none | some .null => .ok none
  | some (.arr [.str opener, .str closer]) =>
    if opener.isEmpty || closer.isEmpty then .error .blockComment else .ok (some (opener, closer))
  | some _ => .error .blockComment

def charQuote : Option Json → Except RecordFault (Option Char)
  | none | some .null => .ok none
  | some (.str [c]) => .ok (some c)
  | some _ => .error .charQuote

def terminator : Json → Except RecordFault Char
  | .str [c] => .ok c
  | _ => .error .terminator

def target : Json → Except RecordFault Target
  | writer =>
    if writer.text? = some "rust" then .ok .rust
    else if writer.text? = some "python" then .ok .python
    else .error (.unknownWriter writer)

/-! ### Records -/

def read (record : Json) : Except RecordFault Dialect := do
  let .obj _ := record | throw .notObject
  let some (.str name) := record.get? "name" | throw .nameMissing
  if name.isEmpty then throw .nameMissing
  let target ← target (valueOr record "writer" (.str name))
  let strings := valueOr record "strings" (.obj [])
  let comments := valueOr record "comments" (.obj [])
  let block ← blockComment (← inner comments "block")
  let charQuote ← charQuote (← inner strings "char_quote")
  let terminator ← terminator (valueOr record "statement_terminator" (.str ";"))
  let colons ← texts record "compound_colon_tokens"
  for token in colons do
    if !token.contains ':' || token = ":" then throw (.colonToken token)
  let line := (← inner comments "line").getD (.arr [])
  let markers ← texts record "spec_comment_markers"
  for marker in markers do
    if !(← occurs marker line) then throw (.specMarker marker)
  let quotes ← entries ((← inner strings "quotes").getD (.arr [.str "\""]))
  let prefixes ← longestFirst (← entries ((← inner strings "prefixes").getD (.arr [])))
  let triple ← inner strings "triple_quoted"
  let multiline ← inner strings "multiline"
  let rawHashes ← inner strings "raw_hashes"
  let lineComments ← entries line
  let nested ← inner comments "nested"
  let typeFlags ← texts record "type_flags"
  let keywords ← texts record "keywords"
  let builtins ← texts record "builtins"
  let implicitNames ← texts record "implicit_names"
  let memberPrefixes ← texts record "member_prefixes"
  let skipFollowers ← patterns record "skip_followers"
  let bindingPatterns ← patterns record "binding_patterns"
  return {
    name
    target
    quotes
    stringPrefixes := prefixes
    tripleQuotes := flag false triple
    multilineStrings := flag true multiline
    rawHashes := flag false rawHashes
    charQuote
    lineComments
    blockComment := block
    nestedComments := flag false nested
    terminator
    compoundColons := colons
    typeFlags := Text.sortedSet ([] :: typeFlags)
    keywords := Text.sortedSet keywords
    builtins := Text.sortedSet builtins
    implicitNames := Text.sortedSet implicitNames
    memberPrefixes
    skipFollowers
    bindingPatterns
    ignoreCapitalized := flag false (record.get? "ignore_capitalized")
    specMarkers := markers
    debugAcceptsSign := flag true (record.get? "debug_accepts_sign")
  }

end Dialect.Record
end Stencil
