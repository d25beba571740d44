import Stencil.Json.Basic
import Stencil.Number.Spelling

/-!
# JSON texts

Values written as JSON, either without any white space or with one item or member to a line.
Characters beyond the controls are written as they are.
-/

namespace Stencil.Json

/-- One character of a string: quotes, backslashes and controls are escaped. -/
def stringChar (c : Char) : Text :=
  if c = '"' then "\\\""
  else if c = '\\' then "\\\\"
  else if c = '\n' then "\\n"
  else if c = '\r' then "\\r"
  else if c = '\t' then "\\t"
  else if c.toNat = 0x8 then "\\b"
  else if c.toNat = 0xc then "\\f"
  else if c.toNat < 0x20 then "\\u" ++ Text.hex 4 c.toNat
  else [c]

/-- A text as a JSON string. -/
def string (t : Text) : Text := '"' :: t.flatMap stringChar ++ ['"']

def realText (x : Binary64) : Text := x.spelled "NaN" "Infinity"

mutual

def compact : Json → Text
  | .null => "null"
  | .bool b => if b then "true" else "false"
  | .int n => Text.ofInt n
  | .real x => realText x
  | .str t => string t
  | .arr items => '[' :: compactItems items ++ [']']
  | .obj members => '{' :: compactMembers members ++ ['}']
termination_by structural j => j

def compactItems : List Json → Text
  | [] => []
  | j :: js => compact j ++ (if js.isEmpty then [] else ',' :: compactItems js)
termination_by structural js => js

def compactMembers : List (Text × Json) → Text
  | [] => []
  | m :: ms => compactMember m ++ (if ms.isEmpty then [] else ',' :: compactMembers ms)
termination_by structural ms => ms

def compactMember : Text × Json → Text
  | (k, v) => string k ++ ':' :: compact v
termination_by structural m => m

end

/-- The start of a line that is indented to the given level. -/
def newLine (level : Nat) : Text := '\n' :: Text.pad ' ' (2 * level)

mutual

/-- A value with one item or member to a line, each level indented by two spaces; `level` is the
level of the value itself. -/
def spread (level : Nat) : Json → Text
  | .arr [] => "[]"
  | .arr (j :: js) => '[' :: spreadItems level (j :: js) ++ newLine level ++ [']']
  | .obj [] => ['{', '}']
  | .obj (m :: ms) => '{' :: spreadMembers level (m :: ms) ++ newLine level ++ ['}']
  | .null => "null"
  | .bool b => if b then "true" else "false"
  | .int n => Text.ofInt n
  | .real x => realText x
  | .str t => string t
termination_by structural j => j

/-- Items, each on a line of its own one level further in. -/
def spreadItems (level : Nat) : List Json → Text
  | [] => []
  | j :: js =>
    newLine (level + 1) ++ spread (level + 1) j
      ++ (if js.isEmpty then [] else ',' :: spreadItems level js)
termination_by structural js => js

def spreadMembers (level : Nat) : List (Text × Json) → Text
  | [] => []
  | m :: ms =>
    newLine (level + 1) ++ spreadMember level m
      ++ (if ms.isEmpty then [] else ',' :: spreadMembers level ms)
termination_by structural ms => ms

def spreadMember (level : Nat) : Text × Json → Text
  | (k, v) => string k ++ ": " ++ spread (level + 1) v
termination_by structural m => m

end

end Stencil.Json
