import Stencil.Routine.Basic

/-!
# Rust routines

A record routine is an implementation of `Display` with a method that renders into a string of the
expected size.  An inline routine is a block whose value is the rendered string or an error.
-/

namespace Stencil.Routine.Rust

/-! ### String literals -/

/-- A character as it stands in a string literal. -/
def escaped (c : Char) : Text :=
  if c = '\\' then "\\\\"
  else if c = '"' then "\\\""
  else if c = '\n' then "\\n"
  else if c = '\r' then "\\r"
  else if c = '\t' then "\\t"
  else if c = '\x00' then "\\0"
  else if c.toNat < 0x20 || c.toNat = 0x7f then
    "\\u\x7b" ++ Text.hex 0 c.toNat ++ "\x7d"
  else [c]

def stringLiteral (t : Text) : Text := '"' :: t.flatMap escaped ++ ['"']

/-! ### Operations -/

/-- The format string for a value with the given format specifier. -/
def formatString (spec : Option FormatSpec) : Text :=
  match spec with
  | none => "\x7b\x7d"
  | some s => "\x7b:" ++ s.raw ++ "\x7d"

/-- The line of an operation, if it writes or runs anything.  Later lines of statements keep their
layout, so that raw strings are not changed. -/
def operationLine (indent : Text) : Operation → List Text
  | .literal [] _ => []
  | .literal text _ => [indent ++ "f.write_str(" ++ stringLiteral text ++ ")?;"]
  | .statements code _ => [indent ++ code.trim]
  | .formatted expr spec _ =>
    [indent ++ "f.write_fmt(::core::format_args!(" ++ stringLiteral (formatString spec) ++ ", "
      ++ expr ++ "))?;"]

def operationLines (indent : Text) (p : Plan) : List Text :=
  p.operations.flatMap (operationLine indent)

/-- The line that makes the routine depend on the file of the template. -/
def includeLine (indent : Text) (path : Option Text) : List Text :=
  match path with
  | none | some [] => []
  | some path =>
    [indent ++ "const _: &[u8] = ::core::include_bytes!(" ++ stringLiteral path ++ ");"]

/-! ### Routines -/

def bindingLine (indent : Text) (b : Binding) : Text :=
  let type := b.type.trim
  if type.isEmpty then indent ++ "let " ++ b.name ++ " = &self." ++ b.name ++ ";"
  else indent ++ "let " ++ b.name ++ ": &" ++ type ++ " = &self." ++ b.name ++ ";"

def record (p : Plan) (shape : RecordShape) (path : Option Text) : Text :=
  let one := indentUnit
  let two := indentUnit ++ indentUnit
  let clause := shape.whereClause.trim
  let whereClause := if clause.isEmpty then [] else ' ' :: clause
  unlines <|
    ["// " ++ header p,
      "impl" ++ shape.implGenerics ++ " ::core::fmt::Display for " ++ shape.typeName ++ whereClause
        ++ " \x7b",
      one ++ "fn fmt(&self, f: &mut ::core::fmt::Formatter<'_>) -> ::core::fmt::Result \x7b"]
    ++ includeLine two path
    ++ shape.bindings.map (bindingLine two)
    ++ operationLines two p
    ++ [two ++ "::core::result::Result::Ok(())",
      one ++ "\x7d",
      "\x7d",
      [],
      "impl" ++ shape.implGenerics ++ " " ++ shape.typeName ++ whereClause ++ " \x7b",
      one ++ "pub const ESTIMATED_SIZE: usize = " ++ Text.ofNat p.estimatedSize ++ ";",
      [],
      one ++ "pub fn render(&self) -> ::core::result::Result<::std::string::String, "
        ++ "::core::fmt::Error> \x7b",
      two ++ "let mut out = ::std::string::String::with_capacity(Self::ESTIMATED_SIZE);",
      two ++ "::core::fmt::Write::write_fmt(&mut out, ::core::format_args!(\"\x7b\x7d\", self))?;",
      two ++ "::core::result::Result::Ok(out)",
      one ++ "\x7d",
      "\x7d"]

def inline (p : Plan) (path : Option Text) : Text :=
  let one := indentUnit
  let two := indentUnit ++ indentUnit
  unlines <|
    ["// " ++ header p, "\x7b"]
    ++ includeLine one path
    ++ [one ++ "let mut __braceweave_out = ::std::string::String::with_capacity("
        ++ Text.ofNat p.estimatedSize ++ ");",
      one ++ "let __braceweave_result: ::core::result::Result<(), ::core::fmt::Error> = (|| \x7b",
      two ++ "use ::core::fmt::Write as _;",
      two ++ "let f = &mut __braceweave_out;"]
    ++ operationLines two p
    ++ [two ++ "::core::result::Result::Ok(())",
      one ++ "\x7d)();",
      one ++ "__braceweave_result.map(|()| __braceweave_out)",
      "\x7d"]

end Stencil.Routine.Rust
