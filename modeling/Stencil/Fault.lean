import Stencil.Number.Digits
import Stencil.Value.Basic

/-!
# Faults

Why a template is not compiled.  A fault is a cause with what its message shows; the code and the
message of each cause are given here once.
-/

namespace Stencil

/-! ### Tokens that do not end -/

/-- A token that does not end. -/
inductive Unclosed where
  /-- A string that has to end on its line. -/
  | lineString
  | string
  | rawString
  | char
  | comment
deriving DecidableEq, Repr

def Unclosed.code : Unclosed → Text
  | .comment => "E_UNTERMINATED_COMMENT"
  | _ => "E_UNTERMINATED_LITERAL"

def Unclosed.message : Unclosed → Text
  | .lineString => "string literal is not closed before end of line"
  | .string => "string literal is never closed"
  | .rawString => "raw string literal is never closed"
  | .char => "character literal is never closed"
  | .comment => "block comment is never closed"

/-- Why no token can be told at a place. -/
inductive LexFault where
  | unclosed (token : Unclosed)
  /-- The dialect has a comment marker that is no text. -/
  | marker (value : Json)
  /-- A comment that covers nothing, so that reading on makes no progress. -/
  | emptyComment

/-! ### Format specifiers -/

/-- Why a format specifier is refused. -/
inductive SpecFault where
  | braceFill (fill : Char)
  | duplicateSign (sign : Char)
  | duplicateAlternate
  | duplicateZero
  | zeroWithAlignment
  | missingPrecision
  | signWithDebug (sign : Char)
  | indirectNumber (rest : Text)
  | lateSign (sign : Char)
  | lateAlternate
  | lateAlignment (marker : Char)
  | duplicatePrecision
  | digitsAfterPrecision (rest : Text)
  | wordForWidth (rest : Text)
  | unknownType (rest : Text)
deriving DecidableEq, Repr

def SpecFault.reason : SpecFault → Text
  | .braceFill fill => "fill character " ++ Text.quoted [fill] ++ " cannot be a brace"
  | .duplicateSign sign => "duplicate sign flag " ++ Text.quoted [sign]
  | .duplicateAlternate => "duplicate alternate-form flag '#'"
  | .duplicateZero => "duplicate zero-pad flag '0'"
  | .zeroWithAlignment => "zero-pad flag conflicts with explicit alignment"
  | .missingPrecision => "precision must be an unsigned integer after '.'"
  | .signWithDebug sign =>
    "sign flag " ++ Text.quoted [sign] ++ " cannot be combined with the debug type flag"
  | .indirectNumber rest =>
    "width and precision must be numeric literals, got " ++ rest.quoted
  | .lateSign sign => "sign flag " ++ Text.quoted [sign] ++ " must precede width and precision"
  | .lateAlternate => "alternate-form flag '#' must precede width and precision"
  | .lateAlignment marker => "alignment " ++ Text.quoted [marker] ++ " must come first"
  | .duplicatePrecision => "duplicate precision"
  | .digitsAfterPrecision rest => "unexpected digits " ++ rest.quoted ++ " after precision"
  | .wordForWidth rest => "width must be an unsigned integer, got " ++ rest.quoted
  | .unknownType rest => "unknown type flag " ++ rest.quoted

/-! ### Templates -/

/-- What is wrong with a template. -/
inductive TemplateFault where
  /-- A code block, opened at `opened`, that is not closed; at the end `depth` braces are open. -/
  | unbalanced (opened depth : Nat)
  | unclosed (token : Unclosed)
  /-- A format specifier without an expression before it. -/
  | missingExpression
  | spec (fault : SpecFault)
deriving DecidableEq, Repr

def TemplateFault.code : TemplateFault → Text
  | .unbalanced .. => "E_UNBALANCED_BRACES"
  | .unclosed token => token.code
  | .missingExpression => "E_MISSING_EXPRESSION"
  | .spec _ => "E_FORMAT_SPEC_INVALID"

def TemplateFault.message : TemplateFault → Text
  | .unbalanced opened depth =>
    "code block opened at offset " ++ Text.ofNat opened ++ " is never closed (depth "
      ++ Text.ofNat depth ++ " at end of file)"
  | .unclosed token => token.message
  | .missingExpression => "format specifier has no expression to format"
  | .spec fault => "invalid format specifier: " ++ fault.reason

/-- A fault and the offset at which it lies. -/
structure TemplateError where
  fault : TemplateFault
  offset : Int
deriving DecidableEq, Repr

/-- Why a pattern of the dialect cannot be used to find the names that it binds. -/
inductive BindingFault where
  /-- The pattern has no group of the name. -/
  | noGroup
  /-- The group took no part in the match. -/
  | unmatchedGroup
deriving DecidableEq, Repr

/-- Why a computation on a template stops. -/
inductive Failure where
  | template (error : TemplateError)
  | number (fault : NumberFault)
  | marker (value : Json)
  | emptyComment
  | binding (fault : BindingFault)

/-- A fault of lexing as the reason to stop, at the given offset. -/
def LexFault.at (offset : Nat) : LexFault → Failure
  | .unclosed token => .template ⟨.unclosed token, offset⟩
  | .marker value => .marker value
  | .emptyComment => .emptyComment

def Failure.message : Failure → Text
  | .template e => e.fault.code ++ ": " ++ e.fault.message
  | .number fault => fault.message
  | .marker value =>
    "startswith first arg must be str or a tuple of str, not " ++ (Value.ofJson value).kind
  | .emptyComment => "a line comment covers nothing"
  | .binding .noGroup => "no such group"
  | .binding .unmatchedGroup => "expected string or bytes-like object, got 'NoneType'"

end Stencil
