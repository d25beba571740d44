import Stencil.Dialect.Basic
import Stencil.Pattern.Reader

/-!
# Built-in dialects

The dialects for templates with Rust and with Python code.
-/

namespace Stencil.Dialect

/-- The words of some lines, with single spaces between them. -/
def words (lines : List Text) : List Text := lines.flatMap (Text.splitAt ' ')

/-- The patterns that the given texts spell. -/
def patterns (sources : List Text) : List Pattern :=
  sources.filterMap fun source => (Pattern.read source).toOption

/-! ### Rust -/

def rustKeywords : List Text :=
  words [
    "as async await break const continue crate dyn else enum extern false fn for if impl in let",
    "loop match mod move mut pub ref return static struct super trait true type unsafe use",
    "where while yield"]

/-- The types and crates of Rust that need no declaration. -/
def rustBuiltins : List Text :=
  words [
    "alloc bool char core drop f32 f64 i128 i16 i32 i64 i8 isize std str u128 u16 u32 u64 u8",
    "usize"]

/-- The dialect of templates with Rust code. -/
def rust : Dialect where
  name := "rust"
  target := .rust
  quotes := [.text "\""]
  stringPrefixes := [.text "b", .text "c"]
  tripleQuotes := false
  multilineStrings := true
  rawHashes := true
  charQuote := some '\''
  lineComments := [.text "//"]
  blockComment := some ("/*", "*/")
  nestedComments := true
  terminator := ';'
  compoundColons := ["::"]
  typeFlags := [[], "?", "E", "X", "X?", "b", "e", "o", "p", "x", "x?"]
  keywords := rustKeywords
  builtins := rustBuiltins
  implicitNames := ["Self", "f", "self"]
  memberPrefixes := [".", "::"]
  skipFollowers := patterns ["\\s*!", "::", "\\s*:(?!:)"]
  bindingPatterns := patterns [
    "\\blet\\s+(?P<names>[^=:;]+)",
    "\\bfor\\s+(?P<names>[^;\x7b]+?)\\s+in\\b",
    "\\|(?P<names>[^|]*)\\|",
    "\\((?P<names>\\s*[a-z_]\\w*\\s*)\\)\\s*=>"]
  ignoreCapitalized := true
  specMarkers := []
  debugAcceptsSign := true

/-! ### Python -/

def pythonKeywords : List Text :=
  words [
    "False None True and as assert async await break class continue def del elif else except",
    "finally for from global if import in is lambda nonlocal not or pass raise return try while",
    "with yield"]

/-- The names that Python provides. -/
def pythonBuiltins : List Text :=
  words [
    "ArithmeticError AssertionError AttributeError BaseException BaseExceptionGroup",
    "BlockingIOError BrokenPipeError BufferError BytesWarning ChildProcessError",
    "ConnectionAbortedError ConnectionError ConnectionRefusedError ConnectionResetError",
    "DeprecationWarning EOFError Ellipsis EncodingWarning EnvironmentError Exception",
    "ExceptionGroup False FileExistsError FileNotFoundError FloatingPointError FutureWarning",
    "GeneratorExit IOError ImportError ImportWarning IndentationError IndexError",
    "InterruptedError IsADirectoryError KeyError KeyboardInterrupt LookupError MemoryError",
    "ModuleNotFoundError NameError None NotADirectoryError NotImplemented NotImplementedError",
    "OSError OverflowError PendingDeprecationWarning PermissionError ProcessLookupError",
    "RecursionError ReferenceError ResourceWarning RuntimeError RuntimeWarning",
    "StopAsyncIteration StopIteration SyntaxError SyntaxWarning SystemError SystemExit TabError",
    "TimeoutError True TypeError UnboundLocalError UnicodeDecodeError UnicodeEncodeError",
    "UnicodeError UnicodeTranslateError UnicodeWarning UserWarning ValueError Warning",
    "ZeroDivisionError abs aiter all anext any ascii bin bool breakpoint bytearray bytes",
    "callable chr classmethod compile complex copyright credits delattr dict dir divmod",
    "enumerate eval exec exit filter float format frozenset getattr globals hasattr hash help",
    "hex id input int isinstance issubclass iter len license list locals map max memoryview min",
    "next object oct open ord pow print property quit range repr reversed round set setattr",
    "slice sorted staticmethod str sum super tuple type vars zip"]

/-- The dialect of templates with Python code. -/
def python : Dialect where
  name := "python"
  target := .python
  quotes := [.text "\"", .text "'"]
  stringPrefixes := [.text "br", .text "rb", .text "fr", .text "rf", .text "r", .text "u",
    .text "b", .text "f"]
  tripleQuotes := true
  multilineStrings := false
  rawHashes := false
  charQuote := none
  lineComments := [.text "#"]
  blockComment := none
  nestedComments := false
  terminator := ';'
  compoundColons := [":="]
  typeFlags := [[], "?", "E", "X", "b", "e", "o", "x"]
  keywords := pythonKeywords
  builtins := pythonBuiltins
  implicitNames := ["self", "sink"]
  memberPrefixes := ["."]
  skipFollowers := patterns ["\\s*=(?!=)"]
  bindingPatterns := patterns [
    "^\\s*(?P<names>[A-Za-z_][\\w\\s,]*?)\\s*(?::[^=]+)?=(?!=)",
    "\\bfor\\s+(?P<names>[\\w\\s,()]+?)\\s+in\\b",
    "\\bimport\\s+(?P<names>[\\w\\s,.]+)",
    "\\bas\\s+(?P<names>[A-Za-z_]\\w*)",
    "\\bdef\\s+(?P<names>[A-Za-z_]\\w*)",
    "\\blambda\\s*(?P<names>[^:]*):",
    "(?P<names>[A-Za-z_]\\w*)\\s*:="]
  ignoreCapitalized := false
  specMarkers := ["#"]
  debugAcceptsSign := false

def builtin? (name : Text) : Option Dialect :=
  if name = "rust" then some rust else if name = "python" then some python else none

end Stencil.Dialect
