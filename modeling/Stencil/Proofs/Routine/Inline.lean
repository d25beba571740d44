import Stencil.Proofs.Block.Piece
import Stencil.Proofs.Plan
import Stencil.Proofs.Routine.Piece

/-! # Tokens of an inline routine in Rust

  An inline routine is made of the text that every such routine has, of string literals, and of the
  code of a template. `inlinePieces` says which is which, line by line. For every template that is
  compiled the routine is lexed without a fault, and its tokens are the remark at its head, the
  string literals, and the tokens that the code has when it is lexed alone
  (`inline_lexedInPieces`). No token reaches from the code of the template into the text around it,
  or the other way round.

  This rests on how the code of a template is cut out of its block. Statements end with their
  terminator, outside tokens. An expression may end in anything but a comment, since comments are
  blanked in it.
-/

namespace Stencil

open Dialect (rust)

namespace Routine.Rust

/-! ### The pieces of a routine -/

def operationPieces (indent : Text) : Operation → List (List Piece)
  | .literal [] _ => []
  | .literal text _ => [[.scaffold (indent ++ "f.write_str("), .literal text, .scaffold ")?;"]]
  | .statements code _ => [[.scaffold indent, .code code.trim]]
  | .formatted expr spec _ =>
    [[.scaffold (indent ++ "f.write_fmt(::core::format_args!("), .literal (formatString spec),
      .scaffold ", ", .code expr, .scaffold "))?;"]]

/-- The line that makes the routine depend on a file, in its pieces. -/
def includePieces (indent : Text) : Option Text → List (List Piece)
  | none | some [] => []
  | some path =>
    [[.scaffold (indent ++ "const _: &[u8] = ::core::include_bytes!("), .literal path,
      .scaffold ");"]]

def inlineLines (p : Plan) (path : Option Text) : List (List Piece) :=
  let one := indentUnit
  let two := indentUnit ++ indentUnit
  [[.remark ("// " ++ header p)], [.scaffold "\x7b"]]
    ++ includePieces one path
    ++ [[.scaffold (one ++ "let mut __braceweave_out = ::std::string::String::with_capacity("
          ++ Text.ofNat p.estimatedSize ++ ");")],
      [.scaffold (one ++
        "let __braceweave_result: ::core::result::Result<(), ::core::fmt::Error> = (|| \x7b")],
      [.scaffold (two ++ "use ::core::fmt::Write as _;")],
      [.scaffold (two ++ "let f = &mut __braceweave_out;")]]
    ++ p.operations.flatMap (operationPieces two)
    ++ [[.scaffold (two ++ "::core::result::Result::Ok(())")],
      [.scaffold (one ++ "\x7d)();")],
      [.scaffold (one ++ "__braceweave_result.map(|()| __braceweave_out)")],
      [.scaffold "\x7d"]]

/-- An inline routine in its pieces. -/
def inlinePieces (p : Plan) (path : Option Text) : List Piece := unlinesOf (inlineLines p path)

theorem map_textOf_operationPieces (indent : Text) (op : Operation) :
    (operationPieces indent op).map textOf = operationLine indent op := by
  cases op with
  | literal text offset =>
    cases text with
    | nil => rfl
    | cons c text => simp [operationPieces, operationLine, textOf, Piece.text]
  | statements code offset => simp [operationPieces, operationLine, textOf, Piece.text]
  | formatted expr spec offset => simp [operationPieces, operationLine, textOf, Piece.text]

theorem map_textOf_includePieces (indent : Text) (path : Option Text) :
    (includePieces indent path).map textOf = includeLine indent path := by
  match path with
  | none | some [] => rfl
  | some (c :: path) => simp [includePieces, includeLine, textOf, Piece.text]

/-- An inline routine is the text of its pieces. -/
theorem unlines_inlineLines (p : Plan) (path : Option Text) :
    unlines ((inlineLines p path).map textOf) = inline p path := by
  have hsingle (q : Piece) : textOf [q] = q.text := List.append_nil _
  have hops : (p.operations.flatMap (operationPieces (indentUnit ++ indentUnit))).map textOf =
      operationLines (indentUnit ++ indentUnit) p := by
    rw [List.map_flatMap]
    exact congrArg p.operations.flatMap (funext (map_textOf_operationPieces _))
  unfold inlineLines inline
  simp only [List.map_append, hops, map_textOf_includePieces, List.map_cons, List.map_nil, hsingle,
    Piece.text]

/-! ### Lines -/

theorem line_scaffold {t : Text} (h : Silent (some '\n') t) : Line [.scaffold t] :=
  fun _ => writable_scaffold h

theorem behind_stringLiteral (before : Option Char) (t : Text) :
    behind before (stringLiteral t) = some '"' := behind_concat before _ '"'

/-- A string literal between texts without tokens. -/
theorem line_literal {a b : Text} (t : Text) (ha : quiet (some '\n') a = true)
    (hb : quiet (some '"') b = true) : Line [.scaffold a, .literal t, .scaffold b] := by
  intro s
  refine (writable_scaffold (silent_of_quiet ha)).cons ((writable_literal t).cons ?_)
  apply writable_scaffold
  show Silent (behind (behind (some '\n') a) (stringLiteral t)) b
  rw [behind_stringLiteral]
  exact silent_of_quiet hb

/-- What closes a call begins no token. -/
theorem silent_of_closing {before : Option Char} {t : Text} (h : ∀ c ∈ t, c ∈ [')', '?', ';']) :
    Silent before t := by
  refine silent_of_inert fun c hc => ?_
  have hclosing : c = ')' ∨ c = '?' ∨ c = ';' := by simpa using h c hc
  rcases hclosing with rfl | rfl | rfl
  · exact Dialect.rust_inert ⟨by decide, by decide⟩ (by decide)
  · exact Dialect.rust_inert ⟨by decide, by decide⟩ (by decide)
  · exact Dialect.rust_inert ⟨by decide, by decide⟩ (by decide)

def Closes : Operation → Prop
  | .literal _ _ => True
  | .statements code _ => Closed code.trim
  | .formatted expr _ _ => Closed expr

theorem line_of_operation {op : Operation} (h : Closes op) :
    ∀ ps ∈ operationPieces (indentUnit ++ indentUnit) op, Line ps := by
  have hspace : Token.Neutral (some ' ') := Token.neutral_blank (by decide)
  intro ps hps
  cases op with
  | literal text offset =>
    cases text with
    | nil => exact absurd hps List.not_mem_nil
    | cons c text =>
      obtain rfl := List.mem_singleton.mp hps
      exact line_literal _ (by decide +kernel) (by decide +kernel)
  | statements code offset =>
    obtain rfl := List.mem_singleton.mp hps
    intro s
    have hindent : Silent (some '\n') (indentUnit ++ indentUnit) :=
      silent_of_quiet (by decide +kernel)
    -- Behind statements the line ends, and a line feed is no character literal.
    exact (writable_scaffold hindent).cons (writable_code h hspace
      (Dialect.inert_of_isBlank (.inl rfl) (by decide)) (by decide) fun _ => rfl)
  | formatted expr spec offset =>
    obtain rfl := List.mem_singleton.mp hps
    intro s
    have hcall : Silent (some '\n')
        (indentUnit ++ indentUnit ++ ("f.write_fmt(::core::format_args!(" : String)) :=
      silent_of_quiet (by decide +kernel)
    have hcomma (before : Option Char) (t : Text) :
        Silent (behind before (stringLiteral t)) [',', ' '] := by
      rw [behind_stringLiteral]
      exact silent_of_quiet (by decide +kernel)
    have hclose (before : Option Char) : Silent before [')', ')', '?', ';'] :=
      silent_of_closing (by simp)
    refine (writable_scaffold hcall).cons ((writable_literal _).cons
      ((writable_scaffold (hcomma _ _)).cons (Writable.cons ?_ (writable_scaffold (hclose _)))))
    show Writable (some ' ') [.code expr] (')' :: ')' :: '?' :: ';' :: '\n' :: s)
    exact writable_code h hspace (Dialect.rust_inert ⟨by decide, by decide⟩ (by decide))
      (by decide) (by simp)

theorem line_of_include (path : Option Text) : ∀ ps ∈ includePieces indentUnit path, Line ps := by
  intro ps hps
  match path with
  | none | some [] => exact absurd hps List.not_mem_nil
  | some (c :: path) =>
    obtain rfl := List.mem_singleton.mp hps
    exact line_literal _ (by decide +kernel) (by decide +kernel)

/-- Digits begin no token. -/
theorem silent_ofNat (before : Option Char) (n : Nat) : Silent before (Text.ofNat n) := by
  refine silent_of_inert fun c hc => ?_
  have hdigit := Nat.isDigit_of_mem_toDigits (by decide) (by decide) hc
  have hinert : ∀ n < 58, 48 ≤ n →
      lowerChar (Char.ofNat n) = [Char.ofNat n] ∧ (Char.ofNat n).toNat ≠ 0x3a3 ∧
        Char.ofNat n ∉ Dialect.openings := by decide +kernel
  have hrange : 48 ≤ c.toNat ∧ c.toNat < 58 := by
    unfold Char.isDigit at hdigit
    rw [Bool.and_eq_true, decide_eq_true_iff, decide_eq_true_iff] at hdigit
    have hlow := UInt32.le_iff_toNat_le.mp hdigit.1
    have hhigh := UInt32.le_iff_toNat_le.mp hdigit.2
    exact ⟨hlow, Nat.lt_succ_of_le hhigh⟩
  have hc := hinert c.toNat hrange.2 hrange.1
  rw [Char.ofNat_toNat] at hc
  exact Dialect.rust_inert ⟨hc.1, hc.2.1⟩ hc.2.2

theorem line_of_inline {p : Plan} (hpath : '\n' ∉ p.path) (hops : ∀ op ∈ p.operations, Closes op)
    (path : Option Text) : ∀ ps ∈ inlineLines p path, Line ps := by
  -- A line that does not depend on the plan is evaluated.
  have fixed {t : Text} (h : quiet (some '\n') t = true) : Line [.scaffold t] :=
    line_scaffold (silent_of_quiet h)
  have hcapacity : Line [.scaffold (indentUnit ++
      ("let mut __braceweave_out = ::std::string::String::with_capacity(" : String) ++
        Text.ofNat p.estimatedSize ++ (");" : String))] := by
    refine line_scaffold (Silent.append (Silent.append ?_ (silent_ofNat _ _)) ?_)
    · exact silent_of_quiet (by decide +kernel)
    · exact silent_of_closing (by simp)
  have hremark : Line [.remark ("// " ++ header p)] := by
    intro s
    have hline : '\n' ∉ ' ' :: header p := by
      unfold header
      simp only [List.mem_cons, List.mem_append, not_or]
      exact ⟨by decide, ⟨by decide +kernel, hpath⟩, by decide +kernel⟩
    exact writable_remark hline
  have hoperations : ∀ ps ∈ p.operations.flatMap (operationPieces (indentUnit ++ indentUnit)),
      Line ps := by
    intro ps hps
    obtain ⟨op, hop, hps⟩ := List.mem_flatMap.mp hps
    exact line_of_operation (hops op hop) ps hps
  have hnone : ∀ ps ∈ ([] : List (List Piece)), Line ps := fun _ h => absurd h List.not_mem_nil
  unfold inlineLines
  simp only [List.forall_mem_append, List.forall_mem_cons]
  refine ⟨⟨⟨⟨⟨hremark, ?_, hnone⟩, line_of_include path⟩, hcapacity, ?_, ?_, ?_, hnone⟩,
    hoperations⟩, ?_, ?_, ?_, ?_, hnone⟩
  · exact fixed (by decide +kernel)
  · exact fixed (by decide +kernel)
  · exact fixed (by decide +kernel)
  · exact fixed (by decide +kernel)
  · exact fixed (by decide +kernel)
  · exact fixed (by decide +kernel)
  · exact fixed (by decide +kernel)
  · exact fixed (by decide +kernel)

/-- The code of a compiled template can be followed by other text. -/
theorem closes_of_compile {source : Source} {t : Template}
    (h : Template.compile rust source = .ok t) {op : Operation} (hop : op ∈ t.plan.operations) :
    Closes op := by
  rcases block_of_compile h hop with ⟨text, offset, rfl⟩ | ⟨s, b, spec, hb, hop⟩
  · trivial
  · rcases Operation.mem_ofBlock hop with ⟨hblank, rfl⟩ | ⟨tail, htail, rfl⟩
    · obtain ⟨ms, hms, hlast⟩ := Block.marks_of_trim (.inl rfl) hb hblank
      refine ⟨ms, hms, fun m hm => ?_⟩
      obtain rfl := Option.some.inj (hlast.symm.trans hm)
      rfl
    · obtain ⟨ms, hms, hcomment⟩ := Block.marks_of_expr (.inl rfl) hb htail
      exact ⟨ms, hms, fun m hm => hcomment rfl m (List.mem_of_getLast? hm)⟩

end Routine.Rust

open Routine.Rust (inline inlinePieces LexedInPieces)

/-- An inline routine in Rust is lexed piece by piece. For every compiled template with a path on
one line and every file to include, the tokens of the routine are the remark at its head, the string
literals that are written, and the tokens that each statement and each expression of the template
has alone, each at its place and within its piece. -/
theorem inline_lexedInPieces {source : Source} {t : Template}
    (h : Template.compile rust source = .ok t) (hpath : '\n' ∉ source.path) (path : Option Text) :
    LexedInPieces (inline t.plan path) (inlinePieces t.plan path) := by
  rw [← path_of_compile h] at hpath
  rw [← Routine.Rust.unlines_inlineLines]
  exact Routine.Rust.lexedInPieces_of_lines (Routine.Rust.line_of_inline hpath
    (fun op hop => Routine.Rust.closes_of_compile h hop) path)

/-- A quote in a literal text, a quote as a character literal, and a lifetime at the end of an
expression do not run into the text around them. -/
theorem inline_lexedInPieces_lifetime :
    ∃ t, Template.compile rust
        ⟨"t.tmpl", "\"\x7blet q = '\"'; /* ; */ name as &'a :>5\x7d"⟩ = .ok t ∧
      ('\n' ∉ ("t.tmpl" : String).toList) ∧
      t.plan.operations.map Operation.offset = [0, 2, 23] ∧
      LexedInPieces (inline t.plan (some "t.tmpl")) (inlinePieces t.plan (some "t.tmpl")) := by
  have hplan : (Template.compile rust
      ⟨"t.tmpl", "\"\x7blet q = '\"'; /* ; */ name as &'a :>5\x7d"⟩).toOption.map
        (fun t => t.plan.operations.map Operation.offset) = some [0, 2, 23] := by decide +kernel
  obtain ⟨t, htemplate, hoffsets⟩ := Option.map_eq_some_iff.mp hplan
  have hcompile := Outcome.ok_of_toOption htemplate
  have hpath : '\n' ∉ ("t.tmpl" : String).toList := by decide +kernel
  exact ⟨t, hcompile, hpath, hoffsets, inline_lexedInPieces hcompile hpath (some "t.tmpl")⟩

end Stencil
