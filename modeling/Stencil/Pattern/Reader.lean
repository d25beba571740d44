import Stencil.Pattern.Basic
import Stencil.Text.Blank
import Stencil.Text.Identifier
import Stencil.Text.Numeral
import Stencil.Json.Reader

/-!
# Reading patterns

The pattern that a text spells.  The grammar has alternatives, repetitions with three appetites,
sets, groups with and without names, references back to groups, looking ahead and behind, conditions
on groups, and flags for the whole pattern or for a group.
-/

namespace Stencil

/-- Why a text is not a pattern. -/
inductive PatternFault where
  /-- The text does not follow the grammar of patterns. -/
  | malformed
  /-- A count of repetitions is beyond every bound. -/
  | countTooLarge
  /-- The whole pattern is meant for ASCII alone and for all characters. -/
  | mixedAlphabets
deriving DecidableEq, Repr

namespace Pattern

/-! ### The state of reading -/

/-- Choices that hold for a part of a pattern. -/
structure Flags where
  anyCase : Bool := false
  lines : Bool := false
  dotAll : Bool := false
  verbose : Bool := false
  ascii : Bool := false
  /-- Whether the whole pattern is expressly meant for all characters. -/
  unicode : Bool := false
  /-- Whether the pattern may repeat nothing. -/
  unrepeated : Bool := false
deriving Repr

/-- What becomes of capital and small letters. -/
def Flags.folding (f : Flags) : Folding :=
  if !f.anyCase then .exact else if f.ascii then .ascii else .wide

structure Progress where
  /-- The flags that hold for the whole pattern. -/
  flags : Flags := {}
  /-- The number of groups opened, counting the whole pattern as one. -/
  groups : Nat := 1
  /-- The names of groups. -/
  names : List (Text × Nat) := []
  /-- The groups that are closed, with the widths of what they match. -/
  closed : List (Nat × Nat × Nat) := []
  /-- Inside a part that looks behind: the number of groups opened before it. -/
  behindLimit : Option Nat := none
  /-- The greatest group that a condition refers to by its number. -/
  greatestCondition : Nat := 0
  /-- Whether there is a repetition. -/
  repeats : Bool := false
  /-- Whether a part that looks behind has no fixed width. -/
  behindVaries : Bool := false
deriving Repr

/-- A step of reading: it takes characters from the front of the text. -/
abbrev Reading (α : Type) := Text → Progress → Except PatternFault (α × Text × Progress)

/-- The answer for a text that is not a pattern. -/
def malformed {α : Type} : Except PatternFault α := .error .malformed

def Progress.widths? (s : Progress) (index : Nat) : Option (Nat × Nat) :=
  (s.closed.find? (·.1 = index)).map (·.2)

/-- Whether a group may be referred to here, as far as looking behind is concerned. -/
def Progress.allowsReference (s : Progress) (index : Nat) : Bool :=
  match s.behindLimit with
  | none => true
  | some limit => (s.widths? index).isSome && index < limit

/-! ### Escapes -/

/-- Up to `n` characters from the front of a text that pass a test, and the rest. -/
def takeUpTo (test : Char → Bool) : (n : Nat) → Text → Text × Text
  | 0, t => ([], t)
  | _ + 1, [] => ([], [])
  | n + 1, c :: t =>
    if test c then
      let (taken, rest) := takeUpTo test n t
      (c :: taken, rest)
    else ([], c :: t)

/-- The number that digits in the given base stand for. -/
def digitsIn (base : Nat) (digits : Text) : Nat :=
  digits.foldl (fun n c => base * n + (Json.hexValue? c).getD 0) 0

def isOctal (c : Char) : Bool := '0' ≤ c && c ≤ '7'

/-- The character that exactly `n` hexadecimal digits stand for. -/
def hexEscape (n : Nat) (t : Text) : Except PatternFault (Char × Text) :=
  let (digits, rest) := takeUpTo (Json.hexValue? · |>.isSome) n t
  let code := digitsIn 16 digits
  if digits.length = n && code < 0x110000 then .ok (Char.ofNat code, rest) else malformed

/-- The character that a letter after a backslash stands for, where it stands for one control. -/
def controlEscape? (c : Char) : Option Char :=
  match c with
  | 'a' => some '\x07'
  | 'f' => some '\x0c'
  | 'n' => some '\n'
  | 'r' => some '\r'
  | 't' => some '\t'
  | 'v' => some '\x0b'
  | '\\' => some '\\'
  | _ => none

/-- The class of characters that a letter after a backslash stands for. -/
def classEscape? (ascii : Bool) (c : Char) : Option SetItem :=
  match c with
  | 'd' => some (.digit false ascii)
  | 'D' => some (.digit true ascii)
  | 's' => some (.blank false ascii)
  | 'S' => some (.blank true ascii)
  | 'w' => some (.word false ascii)
  | 'W' => some (.word true ascii)
  | _ => none

/-- The escapes by code: `x`, `u` and `U` with two, four and eight digits, and any character other
than an ASCII letter for itself. -/
def codeEscape (c : Char) (t : Text) : Except PatternFault (Char × Text) :=
  if c = 'x' then hexEscape 2 t
  else if c = 'u' then hexEscape 4 t
  else if c = 'U' then hexEscape 8 t
  else if c.isAlphanum then malformed
  else .ok (c, t)

/-- An escape in a set, whose backslash is `c`'s neighbour on the left. -/
def setEscape (ascii : Bool) (c : Char) (t : Text) : Except PatternFault (SetItem × Text) :=
  match classEscape? ascii c with
  | some item => .ok (item, t)
  | none =>
    match if c = 'b' then some '\x08' else controlEscape? c with
    | some d => .ok (.range d d, t)
    | none =>
      if isOctal c then
        let (digits, rest) := takeUpTo isOctal 2 t
        let code := digitsIn 8 (c :: digits)
        if code ≤ 0xff then .ok (.range (Char.ofNat code) (Char.ofNat code), rest) else malformed
      else do
        let (d, rest) ← codeEscape c t
        return (.range d d, rest)

/-- A reference back to a group by its number. -/
def backReference (flags : Flags) (s : Progress) (index : Nat) : Except PatternFault Node :=
  match s.widths? index with
  | some (least, most) =>
    if index < s.groups && s.allowsReference index then
      .ok (.back flags.folding index least most)
    else malformed
  | none => malformed

def escape (flags : Flags) (c : Char) : Reading Node := fun t s =>
  match classEscape? flags.ascii c, controlEscape? c with
  | some item, _ => .ok (.set flags.folding false [item], t, s)
  | none, some d => .ok (.char flags.folding d, t, s)
  | none, none =>
    if c = 'A' then .ok (.textStart, t, s)
    else if c = 'Z' then .ok (.textEnd, t, s)
    else if c = 'b' then .ok (.boundary false flags.ascii, t, s)
    else if c = 'B' then .ok (.boundary true flags.ascii, t, s)
    else if c = '0' then
      let (digits, rest) := takeUpTo isOctal 2 t
      .ok (.char flags.folding (Char.ofNat (digitsIn 8 digits)), rest, s)
    else if c.isDigit then
      match t with
      -- Three octal digits are the code of a character; one or two digits are a group's number.
      | d :: e :: rest =>
        if isOctal c && isOctal d && isOctal e then
          let code := digitsIn 8 [c, d, e]
          if code ≤ 0xff then .ok (.char flags.folding (Char.ofNat code), rest, s) else malformed
        else if d.isDigit then do
          return (← backReference flags s (digitsIn 10 [c, d]), e :: rest, s)
        else do return (← backReference flags s (digitsIn 10 [c]), t, s)
      | [d] =>
        if d.isDigit then do return (← backReference flags s (digitsIn 10 [c, d]), [], s)
        else do return (← backReference flags s (digitsIn 10 [c]), t, s)
      | [] => do return (← backReference flags s (digitsIn 10 [c]), t, s)
    else do
      let (d, rest) ← codeEscape c t
      return (.char flags.folding d, rest, s)

/-! ### Sets -/

/-- One end of a range in a set, or a single item: a character or an escape. -/
def setItem (ascii : Bool) : Text → Except PatternFault (SetItem × Text)
  | [] => malformed
  | '\\' :: c :: t => setEscape ascii c t
  | c :: t => if c = '\\' then malformed else .ok (.range c c, t)

/-- The items of a set up to its closing bracket; `found` holds those before, in reverse. -/
def setItems (ascii : Bool) : (fuel : Nat) → (found : List SetItem) → Text →
    Except PatternFault (List SetItem × Text)
  | 0, _, _ => malformed
  | fuel + 1, found, t =>
    match t, found with
    -- A closing bracket in the first place stands for itself.
    | ']' :: rest, _ :: _ => .ok (found.reverse, rest)
    | t, found => do
      let (low, rest) ← setItem ascii t
      match rest with
      -- So does a dash in the last place.
      | '-' :: ']' :: rest => return ((.range '-' '-' :: low :: found).reverse, rest)
      | '-' :: rest =>
        let (high, rest) ← setItem ascii rest
        match low, high with
        | .range a b, .range c d =>
          if a = b && c = d && a ≤ c then setItems ascii fuel (.range a c :: found) rest
          else malformed
        | _, _ => malformed
      | rest => setItems ascii fuel (low :: found) rest

/-- A set after its opening bracket. -/
def set (flags : Flags) (t : Text) : Except PatternFault (Node × Text) := do
  let (negated, t) := match t with
    | '^' :: t => (true, t)
    | t => (false, t)
  let (items, rest) ← setItems flags.ascii (t.length + 1) [] t
  return (.set flags.folding negated items, rest)

/-! ### Counts of repetitions -/

/-- The bound that every count of repetitions stays below. -/
def countLimit : Nat := 4294967295

/-- The least and the greatest count in braces, the opening one of which has been read, with the
rest of the text; `none` if the brace stands for itself. -/
def counts (t : Text) : Except PatternFault (Option (Nat × Option Nat × Text)) :=
  match t with
  | '}' :: _ => .ok none
  | t =>
    let low := t.takeWhile Char.isDigit
    let rest := t.dropWhile Char.isDigit
    let (high, rest) := match rest with
      | ',' :: rest => (rest.takeWhile Char.isDigit, rest.dropWhile Char.isDigit)
      | rest => (low, rest)
    match rest with
    -- A lone backslash at the end of the pattern is found even before the counts are looked at.
    | ['}', '\\'] => malformed
    | '}' :: rest =>
      let least := digitsIn 10 low
      let most := if high.isEmpty then none else some (digitsIn 10 high)
      if countLimit ≤ least || most.any (countLimit ≤ ·) then .error .countTooLarge
      else if most.any (· < least) then malformed
      else .ok (some (least, most, rest))
    | _ => .ok none

def appetite : Text → Appetite × Text
  | '?' :: t => (.lazy, t)
  | '+' :: t => (.possessive, t)
  | t => (.greedy, t)

/-- A repetition of the last tree of `before`, which stand in reverse. -/
def repeated (before : List Node) (least : Nat) (most : Option Nat) (t : Text) :
    Except PatternFault (List Node × Text) :=
  match before with
  | [] => malformed
  | n :: ns =>
    if n.isAnchor || n.isRepetition then malformed
    else
      let (appetite, rest) := appetite t
      .ok (.repetition appetite least most n :: ns, rest)

/-! ### Flags and names -/

def Flags.set? (value : Bool) (f : Flags) (c : Char) : Option Flags :=
  match c with
  | 'i' => some { f with anyCase := value }
  | 'm' => some { f with lines := value }
  | 's' => some { f with dotAll := value }
  | 'x' => some { f with verbose := value }
  | 'a' => if value then some { f with ascii := true } else none
  | 'u' => if value then some { f with ascii := false } else none
  | 't' => if value then some { f with unrepeated := true } else none
  | _ => none

/-- The letters of flags at the front of a text, and the rest. -/
def flagLetters (t : Text) : Text × Text :=
  (t.takeWhile "aimstux".toList.contains, t.dropWhile "aimstux".toList.contains)

def Flags.setAll (value : Bool) (letters : Text) (f : Flags) : Except PatternFault Flags :=
  letters.foldlM
    (fun f c => match f.set? value c with
      | some f => .ok f
      | none => malformed)
    f

/-- The flags in parentheses after the question mark: those that result, and whether they are meant
for the whole pattern or for the group that begins here.  The flag `t` is never for a group. -/
def inlineFlags (whole current : Flags) (t : Text) :
    Except PatternFault (Flags × Bool × Text) := do
  let (on, rest) := flagLetters t
  if on.contains 'a' && on.contains 'u' then malformed
  else
    match rest with
    | ')' :: rest =>
      if on.isEmpty then malformed
      else
        let flags ← whole.setAll true (on.filter (· ≠ 'u'))
        return ({ flags with unicode := flags.unicode || on.contains 'u' }, true, rest)
    | ':' :: rest =>
      if on.isEmpty || on.contains 't' then malformed
      else return (← current.setAll true on, false, rest)
    | '-' :: rest =>
      let (off, rest) := flagLetters rest
      if off.isEmpty || on.contains 't' || on.any off.contains then malformed
      else
        match rest with
        | ':' :: rest =>
          return (← (← current.setAll true on).setAll false off, false, rest)
        | _ => malformed
    | _ => malformed

/-- A name up to `close`, which is read too. -/
def name (close : Char) (t : Text) : Except PatternFault (Text × Text) :=
  match Text.cut close t with
  | (name, some rest) => if name.isEmpty then malformed else .ok (name, rest)
  | (_, none) => malformed

/-- The rest of a text after the first `stop` that does not follow a backslash, if there is one. -/
def afterUnescaped? (stop : Char) : Text → Except PatternFault (Option Text)
  | [] => .ok none
  | ['\\'] => malformed
  | c :: d :: t =>
    if c = '\\' then afterUnescaped? stop t
    else if c = stop then .ok (some (d :: t))
    else afterUnescaped? stop (d :: t)
  | [c] => .ok (if c = stop then some [] else none)

/-- The number of a group: decimal digits, perhaps with underscores between them, a plus before them
and blanks around them. -/
def groupNumber? (label : Text) : Option Nat :=
  let t := Text.trim label
  let digits := if t.head? = some '+' then t.drop 1 else t
  let runs := Text.splitAt '_' digits
  if runs.any fun run => run.isEmpty || !run.all isDecimal then none
  else some (runs.flatten.foldl (fun n c => 10 * n + (decimalValue? c).getD 0) 0)

/-- The group that a condition names or numbers. -/
def conditionGroup (s : Progress) (label : Text) : Except PatternFault (Nat × Progress) :=
  if label.isIdentifier then
    match s.names.find? (·.1 = label) with
    | some (_, index) => .ok (index, s)
    | none => malformed
  else
    match groupNumber? label with
    | none | some 0 => malformed
    | some index => .ok (index, { s with greatestCondition := max s.greatestCondition index })

def Progress.openGroup (s : Progress) (label : Option Text) :
    Except PatternFault (Nat × Progress) :=
  match label with
  | none => .ok (s.groups, { s with groups := s.groups + 1 })
  | some label =>
    if s.names.any (·.1 = label) then malformed
    else .ok (s.groups, { s with groups := s.groups + 1, names := s.names ++ [(label, s.groups)] })

/-- What the parentheses after an opening one mean. -/
inductive GroupKind where
  /-- A part of the pattern, recorded under a name or a number if it captures. -/
  | plain (captures : Bool) (label : Option Text) (flags : Flags)
  | atomic
  | ahead (negated : Bool)
  | behind (negated : Bool)
  /-- A condition on the group that the label gives. -/
  | condition (label : Text)
  /-- A tree that is complete: a reference back to a group by name. -/
  | complete (node : Node)
  /-- Nothing: a comment. -/
  | comment
  /-- Flags for the whole pattern. -/
  | wholeFlags (flags : Flags)

def groupKind (flags : Flags) (s : Progress) (t : Text) : Except PatternFault (GroupKind × Text) :=
  match t with
  | '?' :: 'P' :: '<' :: t => do
    let (label, rest) ← name '>' t
    if label.isIdentifier then return (.plain true (some label) flags, rest) else malformed
  | '?' :: 'P' :: '=' :: t => do
    let (label, rest) ← name ')' t
    match s.names.find? (·.1 = label) with
    | some (_, index) => return (.complete (← backReference flags s index), rest)
    | none => malformed
  | '?' :: ':' :: t => .ok (.plain false none flags, t)
  | '?' :: '#' :: t => do
    match ← afterUnescaped? ')' t with
    | some rest => return (.comment, rest)
    | none => malformed
  | '?' :: '=' :: t => .ok (.ahead false, t)
  | '?' :: '!' :: t => .ok (.ahead true, t)
  | '?' :: '<' :: '=' :: t => .ok (.behind false, t)
  | '?' :: '<' :: '!' :: t => .ok (.behind true, t)
  | '?' :: '>' :: t => .ok (.atomic, t)
  | '?' :: '(' :: t => do
    let (label, rest) ← name ')' t
    return (.condition label, rest)
  | '?' :: t => do
    let (flags, whole, rest) ← inlineFlags s.flags flags t
    return (if whole then .wholeFlags flags else .plain false none flags, rest)
  | t => .ok (.plain true none flags, t)

/-- The rest of a text after a closing parenthesis. -/
def closing : Text → Except PatternFault Text
  | ')' :: t => .ok t
  | _ => malformed

/-! ### Trees -/

mutual

/-- Alternatives up to a closing parenthesis or the end; `outer` is set outside of all groups. -/
def alternatives (fuel : Nat) (outer first : Bool) (flags : Flags) : Reading Node := fun t s =>
  match fuel with
  | 0 => malformed
  | fuel + 1 => do
    let (a, rest, s) ← sequence fuel (outer && first) (outer && first) flags [] t s
    match rest with
    | '|' :: rest =>
      let (b, rest, s) ← alternatives fuel outer false (if outer then s.flags else flags) rest s
      return (.alt a b, rest, s)
    | rest => return (a, rest, s)

/-- Trees one after the other, up to a bar, a closing parenthesis or the end.  Those before stand in
`before` in reverse.  Flags for the whole pattern may only stand at its very start; `outer` is set
while the text read so far is a part of the first alternative outside of all groups. -/
def sequence (fuel : Nat) (outer fresh : Bool) (flags : Flags) (before : List Node) :
    Reading Node := fun t s =>
  match fuel with
  | 0 => malformed
  | fuel + 1 =>
    match t with
    | [] => .ok (.ofList before.reverse, [], s)
    | '|' :: _ => .ok (.ofList before.reverse, t, s)
    | ')' :: _ => .ok (.ofList before.reverse, t, s)
    | c :: rest =>
      if flags.verbose && isAsciiBlank c then sequence fuel outer fresh flags before rest s
      else if flags.verbose && c = '#' then do
        let rest ← afterUnescaped? '\n' rest
        sequence fuel outer fresh flags before (rest.getD []) s
      else if c = '\\' then
        match rest with
        | [] => malformed
        | d :: rest => do
          let (n, rest, s) ← escape flags d rest s
          sequence fuel outer false flags (n :: before) rest s
      else if c = '[' then do
        let (n, rest) ← set flags rest
        sequence fuel outer false flags (n :: before) rest s
      else if c = '.' then sequence fuel outer false flags (.any flags.dotAll :: before) rest s
      else if c = '^' then sequence fuel outer false flags (.start flags.lines :: before) rest s
      else if c = '$' then sequence fuel outer false flags (.stop flags.lines :: before) rest s
      else if c = '?' || c = '*' || c = '+' then do
        let (before, rest) ←
          repeated before (if c = '+' then 1 else 0) (if c = '?' then some 1 else none) rest
        sequence fuel outer false flags before rest { s with repeats := true }
      else if c = '{' then do
        match ← counts rest with
        | none => sequence fuel outer false flags (.char flags.folding c :: before) rest s
        | some (least, most, rest) =>
          let (before, rest) ← repeated before least most rest
          sequence fuel outer false flags before rest { s with repeats := true }
      else if c = '(' then do
        let (kind, rest) ← groupKind flags s rest
        match kind with
        | .comment => sequence fuel outer fresh flags before rest s
        | .wholeFlags whole =>
          if outer && fresh then
            sequence fuel outer fresh whole before rest { s with flags := whole }
          else malformed
        | .complete n => sequence fuel outer false flags (n :: before) rest s
        | kind =>
          let (n, rest, s) ← group fuel flags kind rest s
          sequence fuel outer false flags (n :: before) rest s
      else sequence fuel outer false flags (.char flags.folding c :: before) rest s

/-- A group of a given kind, up to and with its closing parenthesis. -/
def group (fuel : Nat) (flags : Flags) (kind : GroupKind) : Reading Node := fun t s =>
  match fuel with
  | 0 => malformed
  | fuel + 1 =>
    match kind with
    | .plain captures label inner => do
      if captures then
        let (index, s) ← s.openGroup label
        -- The group counts as closed only after its body, so that the body cannot refer to it.
        let (body, rest, s) ← alternatives fuel false true inner t s
        let rest ← closing rest
        return (.group (some index) body, rest,
          { s with closed := (index, body.width) :: s.closed })
      else
        let (body, rest, s) ← alternatives fuel false true inner t s
        return (.group none body, ← closing rest, s)
    | .atomic => do
      let (body, rest, s) ← alternatives fuel false true flags t s
      return (.atomic body, ← closing rest, s)
    | .ahead negated => do
      let (body, rest, s) ← alternatives fuel false true flags t s
      return (.ahead negated body, ← closing rest, s)
    | .behind negated => do
      let limit := s.behindLimit
      let (body, rest, s) ← alternatives fuel false true flags t
        { s with behindLimit := some (limit.getD s.groups) }
      let (least, most) := body.width
      return (.behind negated least body, ← closing rest,
        { s with behindLimit := limit, behindVaries := s.behindVaries || least ≠ most })
    | .condition label => do
      let (index, s) ← conditionGroup s label
      if s.allowsReference index then
        let (yes, rest, s) ← sequence fuel false false flags [] t s
        match rest with
        | '|' :: rest =>
          let (no, rest, s) ← sequence fuel false false flags [] rest s
          return (.condition index yes no, ← closing rest, s)
        | rest => return (.condition index yes .empty, ← closing rest, s)
      else malformed
    | .complete _ | .comment | .wholeFlags _ => malformed

end

def read (source : Text) : Except PatternFault Pattern := do
  let (root, rest, s) ← alternatives (4 * source.length + 4) true true {} source {}
  if s.flags.ascii && s.flags.unicode then throw .mixedAlphabets
  else if rest.isEmpty && s.greatestCondition < s.groups && !(s.flags.unrepeated && s.repeats)
      && !s.behindVaries then
    return ⟨source, s.names, root⟩
  else malformed

def groupNamed? (p : Pattern) (name : Text) : Option Nat :=
  (p.names.find? (·.1 = name)).map (·.2)

end Pattern
end Stencil
