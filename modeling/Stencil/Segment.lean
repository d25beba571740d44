import Stencil.Token

/-!
# Segments

A template is literal text with blocks of code between braces.  Doubled braces in literal text stand
for single ones, and a lone closing brace stands for itself.  The template is first cut into chunks,
each as small as it can be; neighbouring literal chunks then make up one literal segment.
-/

namespace Stencil

/-! ### Chunks -/

/-- The smallest pieces of a template. -/
inductive Chunk where
  /-- A character that stands for itself. -/
  | plain (c : Char)
  /-- A brace, written twice. -/
  | doubled (c : Char)
  /-- What stands between the braces of a code block. -/
  | block (body : Text)
deriving DecidableEq, Repr

/-- The length of the rest of a code block up to the brace that closes it.  The block was opened at
`opened`; `depth` more braces are open, the first `pending` characters belong to a token, and the
text stands at `offset` after the character `before`. -/
def bodyLength (d : Dialect) (opened : Nat) :
    (depth pending offset : Nat) → (before : Option Char) → Text → Except Failure Nat
  | depth, _, offset, _, [] => .error (.template ⟨.unbalanced opened (depth + 1), offset⟩)
  | depth, pending + 1, offset, _, c :: t =>
    (bodyLength d opened depth pending (offset + 1) (some c) t).map (· + 1)
  | depth, 0, offset, before, c :: t =>
    match Token.at? d before (c :: t) with
    | .error fault => .error (fault.at offset)
    -- A marker that begins with a line feed opens a comment without characters.
    | .ok (some ⟨_, 0⟩) => .error .emptyComment
    | .ok (some ⟨_, n + 1⟩) => (bodyLength d opened depth n (offset + 1) (some c) t).map (· + 1)
    | .ok none =>
      if c = '{' then (bodyLength d opened (depth + 1) 0 (offset + 1) (some c) t).map (· + 1)
      else if c = '}' then
        match depth with
        | 0 => .ok 0
        | depth + 1 => (bodyLength d opened depth 0 (offset + 1) (some c) t).map (· + 1)
      else (bodyLength d opened depth 0 (offset + 1) (some c) t).map (· + 1)

/-- The chunks of a template text that stands at `offset` and whose first `skip` characters have
been taken already. -/
def chunksFrom (d : Dialect) : (skip offset : Nat) → Text → Except Failure (List Chunk)
  | _, _, [] => .ok []
  | skip + 1, offset, _ :: t => chunksFrom d skip (offset + 1) t
  | 0, offset, c :: t =>
    -- Of three opening braces the first two are doubled, and the third opens a block.
    if (c = '{' || c = '}') && t.head? = some c then
      (chunksFrom d 1 (offset + 1) t).map (.doubled c :: ·)
    else if c = '{' then do
      let n ← bodyLength d offset 0 0 (offset + 1) (some c) t
      (chunksFrom d (n + 1) (offset + 1) t).map (.block (t.take n) :: ·)
    else (chunksFrom d 0 (offset + 1) t).map (.plain c :: ·)

def chunks (d : Dialect) (t : Text) : Except Failure (List Chunk) := chunksFrom d 0 0 t

/-! ### Segments -/

/-- The kinds of segments. -/
inductive Segment.Kind where
  | literal
  | code
deriving DecidableEq, Repr

def Segment.Kind.name : Segment.Kind → Text
  | .literal => "literal"
  | .code => "code"

structure Segment where
  kind : Segment.Kind
  /-- The text that is written, or the body of the code block. -/
  text : Text
  /-- The offset of the first character. -/
  start : Nat
  /-- The offset after the last character. -/
  stop : Nat
deriving DecidableEq, Repr

namespace Segment

/-- The offset at which the body of a code block begins. -/
def bodyStart (s : Segment) : Nat := s.start + 1

/-- A literal character at `offset`, which covers `width` characters, before some segments: it joins
a literal segment. -/
def prepend (c : Char) (offset width : Nat) : List Segment → List Segment
  | ⟨.literal, t, _, stop⟩ :: segments => ⟨.literal, c :: t, offset, stop⟩ :: segments
  | segments => ⟨.literal, [c], offset, offset + width⟩ :: segments

/-- The segments that chunks at `offset` make up. -/
def ofChunks (offset : Nat) : List Chunk → List Segment
  | [] => []
  | .plain c :: chunks => prepend c offset 1 (ofChunks (offset + 1) chunks)
  | .doubled c :: chunks => prepend c offset 2 (ofChunks (offset + 2) chunks)
  | .block body :: chunks =>
    ⟨.code, body, offset, offset + body.length + 2⟩ :: ofChunks (offset + body.length + 2) chunks

end Segment

/-- The segments of a template.  An empty template has one empty literal segment. -/
def segments (d : Dialect) (t : Text) : Except Failure (List Segment) := do
  match Segment.ofChunks 0 (← chunks d t) with
  | [] => return [⟨.literal, [], 0, 0⟩]
  | found => return found

end Stencil
