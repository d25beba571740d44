import Stencil.Dialect.Builtin
import Stencil.Script.Host
import Stencil.Text.Ranges
import Stencil.Value.Format
import Stencil.Value.Pretty

/-!
# Values of a host

The host program whose values are `Value`.  The names of the language are there with the spellings
of their objects, except for those that the place where an object lies in memory is part of, and
for the few long texts that the language shows about itself.  It has no texts with halves of
surrogate pairs.
-/

namespace Stencil

inductive ValueFault where
  | layout (fault : LayoutFault)
  /-- The answer is beyond what is known here of the host. -/
  | foreign (code : Text)
deriving DecidableEq, Repr

def ValueFault.message : ValueFault → Text
  | .layout fault => fault.message
  | .foreign code => "host code: " ++ code

/-- The boundaries of a class of characters such that a name of them alone is its own normal form.
The class is told only among the characters that names are made of. -/
def steadyBoundaries : List Nat :=
  [0x30, 0xaa, 0xb7, 0xba, 0xc0, 0x132, 0x134, 0x13f, 0x141, 0x149, 0x14a, 0x17f, 0x180, 0x1c4,
   0x1cd, 0x1f1, 0x1f4, 0x2b0, 0x2b9, 0x2e0, 0x2ec, 0x300, 0x34f, 0x350, 0x370, 0x374, 0x376, 0x387,
   0x388, 0x3d0, 0x3d7, 0x3f0, 0x3f3, 0x3f4, 0x3f7, 0x3f9, 0x3fa, 0x483, 0x48a, 0x587, 0x588, 0x591,
   0x5d0, 0x610, 0x620, 0x64b, 0x660, 0x670, 0x671, 0x675, 0x679, 0x6d6, 0x6e5, 0x6e7, 0x6ee, 0x711,
   0x712, 0x730, 0x74d, 0x7eb, 0x7f4, 0x7fd, 0x800, 0x816, 0x81a, 0x81b, 0x824, 0x825, 0x828, 0x829,
   0x840, 0x859, 0x860, 0x898, 0x8a0, 0x8ca, 0x900, 0x93c, 0x93d, 0x94d, 0x94e, 0x951, 0x955, 0x958,
   0x960, 0x9bc, 0x9bd, 0x9be, 0x9bf, 0x9cd, 0x9ce, 0x9d7, 0x9e0, 0x9fe, 0xa01, 0xa33, 0xa35, 0xa36,
   0xa38, 0xa3c, 0xa3e, 0xa4d, 0xa51, 0xa59, 0xa5c, 0xa5e, 0xa66, 0xabc, 0xabd, 0xacd, 0xad0, 0xb3c,
   0xb3d, 0xb3e, 0xb3f, 0xb4d, 0xb55, 0xb56, 0xb5f, 0xbbe, 0xbbf, 0xbcd, 0xbd0, 0xbd7, 0xbe6, 0xc3c,
   0xc3d, 0xc4d, 0xc58, 0xcbc, 0xcbd, 0xcc2, 0xcc3, 0xccd, 0xcdd, 0xd3b, 0xd3d, 0xd3e, 0xd3f, 0xd4d,
   0xd4e, 0xd57, 0xd5f, 0xdca, 0xdd0, 0xddf, 0xde6, 0xe33, 0xe34, 0xe38, 0xe40, 0xe48, 0xe4c, 0xeb3,
   0xeb4, 0xeb8, 0xebb, 0xec8, 0xecc, 0xedc, 0xede, 0xf18, 0xf20, 0xf35, 0xf3e, 0xf43, 0xf44, 0xf4d,
   0xf4e, 0xf52, 0xf53, 0xf57, 0xf58, 0xf5c, 0xf5d, 0xf69, 0xf6a, 0xf71, 0xf7e, 0xf80, 0xf88, 0xf93,
   0xf94, 0xf9d, 0xf9e, 0xfa2, 0xfa3, 0xfa7, 0xfa8, 0xfac, 0xfad, 0xfb5, 0xfb6, 0xfb7, 0xfb8, 0xfb9,
   0xfba, 0xfc6, 0x1000, 0x102e, 0x102f, 0x1037, 0x1038, 0x1039, 0x103b, 0x108d, 0x108e, 0x10fc,
   0x10fd, 0x1161, 0x1176, 0x11a8, 0x11c3, 0x135d, 0x1369, 0x1714, 0x171f, 0x1734, 0x1740, 0x17d2,
   0x17d3, 0x17dd, 0x17e0, 0x18a9, 0x18aa, 0x1939, 0x1946, 0x1a17, 0x1a19, 0x1a60, 0x1a61, 0x1a75,
   0x1a80, 0x1ab0, 0x1b00, 0x1b34, 0x1b36, 0x1b44, 0x1b45, 0x1b6b, 0x1b80, 0x1baa, 0x1bac, 0x1be6,
   0x1be7, 0x1bf2, 0x1c00, 0x1c37, 0x1c40, 0x1cd0, 0x1ce1, 0x1ce2, 0x1ce9, 0x1ced, 0x1cee, 0x1cf4,
   0x1cf5, 0x1cf8, 0x1cfa, 0x1d2c, 0x1d2f, 0x1d30, 0x1d3b, 0x1d3c, 0x1d4e, 0x1d4f, 0x1d6b, 0x1d78,
   0x1d79, 0x1d9b, 0x1e00, 0x1e9a, 0x1e9c, 0x1f71, 0x1f72, 0x1f73, 0x1f74, 0x1f75, 0x1f76, 0x1f77,
   0x1f78, 0x1f79, 0x1f7a, 0x1f7b, 0x1f7c, 0x1f7d, 0x1f80, 0x1fbb, 0x1fbc, 0x1fbe, 0x1fc2, 0x1fc9,
   0x1fca, 0x1fcb, 0x1fcc, 0x1fd3, 0x1fd6, 0x1fdb, 0x1fe0, 0x1fe3, 0x1fe4, 0x1feb, 0x1fec, 0x1ff9,
   0x1ffa, 0x1ffb, 0x1ffc, 0x2071, 0x2118, 0x2119, 0x212e, 0x212f, 0x2132, 0x2133, 0x214e, 0x2160,
   0x2180, 0x2c7c, 0x2c7e, 0x2cef, 0x2cf2, 0x2d6f, 0x2d80, 0x2de0, 0x3005, 0x302a, 0x3031, 0x3038,
   0x303b, 0x3099, 0x309d, 0x309f, 0x30a1, 0x30ff, 0x3105, 0x3131, 0x31a0, 0xa66f, 0xa67f, 0xa69c,
   0xa6a0, 0xa6f0, 0xa717, 0xa770, 0xa771, 0xa7f2, 0xa7f5, 0xa7f8, 0xa7fa, 0xa806, 0xa807, 0xa82c,
   0xa840, 0xa8c4, 0xa8c5, 0xa8e0, 0xa8f2, 0xa92b, 0xa930, 0xa953, 0xa960, 0xa9b3, 0xa9b4, 0xa9c0,
   0xa9cf, 0xaab0, 0xaab1, 0xaab2, 0xaab5, 0xaab7, 0xaab9, 0xaabe, 0xaac0, 0xaac1, 0xaac2, 0xaaf6,
   0xab01, 0xab5c, 0xab60, 0xab69, 0xab70, 0xabed, 0xabf0, 0xf900, 0xfa0e, 0xfa10, 0xfa11, 0xfa12,
   0xfa13, 0xfa15, 0xfa1f, 0xfa20, 0xfa21, 0xfa22, 0xfa23, 0xfa25, 0xfa27, 0xfa2a, 0xfe00, 0xfe20,
   0xfe73, 0xfe77, 0x10000, 0x101fd, 0x10280, 0x102e0, 0x10300, 0x10376, 0x10380, 0x10781, 0x10800,
   0x10a0d, 0x10a0e, 0x10a0f, 0x10a10, 0x10a38, 0x10a60, 0x10ae5, 0x10b00, 0x10d24, 0x10d30,
   0x10eab, 0x10eb0, 0x10f46, 0x10f70, 0x10f82, 0x10fb0, 0x11046, 0x11066, 0x11070, 0x11071,
   0x1107f, 0x11080, 0x110b9, 0x110c2, 0x11100, 0x11103, 0x11127, 0x11128, 0x11133, 0x11136,
   0x11173, 0x11176, 0x111c0, 0x111c1, 0x111ca, 0x111cb, 0x11235, 0x11237, 0x112e9, 0x112f0,
   0x1133b, 0x1133d, 0x1133e, 0x1133f, 0x1134d, 0x11350, 0x11357, 0x1135d, 0x11366, 0x11400,
   0x11442, 0x11443, 0x11446, 0x11447, 0x1145e, 0x1145f, 0x114b0, 0x114b1, 0x114ba, 0x114bb,
   0x114bd, 0x114be, 0x114c2, 0x114c4, 0x115af, 0x115b0, 0x115bf, 0x115d8, 0x1163f, 0x11640,
   0x116b6, 0x116b8, 0x1172b, 0x11730, 0x11839, 0x118a0, 0x11930, 0x11931, 0x1193d, 0x1193f,
   0x11943, 0x11950, 0x119e0, 0x119e1, 0x11a34, 0x11a35, 0x11a47, 0x11a50, 0x11a99, 0x11a9d,
   0x11c3f, 0x11c40, 0x11d42, 0x11d43, 0x11d44, 0x11d46, 0x11d97, 0x11d98, 0x16af0, 0x16b00,
   0x16b30, 0x16b40, 0x16ff0, 0x17000, 0x1bc9e, 0x1cf00, 0x1d165, 0x1da00, 0x1e000, 0x1e100,
   0x1e130, 0x1e137, 0x1e2ae, 0x1e2c0, 0x1e2ec, 0x1e2f0, 0x1e8d0, 0x1e900, 0x1e944, 0x1e94b,
   0x1ee00, 0x20000, 0x2f800, 0x30000]

namespace Value

/-- The normal form of a name. -/
def foldName (name : Text) : Except ValueFault Text :=
  if name.all (Text.within steadyBoundaries) then .ok name else .error (.foreign name)

/-! ### Names of the language -/

/-- The types among the names that Python provides, besides those in capitals. -/
def typeNames : List Text :=
  Dialect.words [
    "bool bytearray bytes classmethod complex dict enumerate filter float frozenset int list map",
    "memoryview object property range reversed set slice staticmethod str super tuple type zip"]

/-- The names whose objects speak about the language and the session. -/
def talkingNames : List Text :=
  Dialect.words ["copyright credits exit help license quit __doc__ __spec__"]

def nativeType (name : Text) : Script.Object Value :=
  .native "type" ("<class '" ++ name ++ "'>")

/-- The object that the language provides under a name. -/
def builtin (name : Text) : Except ValueFault (Option (Script.Object Value)) :=
  let function := .native "builtin_function_or_method" ("<built-in function " ++ name ++ ">")
  if talkingNames.contains name then .error (.foreign name)
  else if name = "__name__" then .ok (some (.constant (.text "builtins")))
  else if name = "__package__" then .ok (some (.constant (.text [])))
  else if name = "__loader__" then .ok (some (nativeType "_frozen_importlib.BuiltinImporter"))
  else if name = "__build_class__" || name = "__import__" then .ok (some function)
  else if !Dialect.pythonBuiltins.contains name then .ok none
  else if name = "None" then .ok (some (.constant .nothing))
  else if name = "True" || name = "False" then .ok (some (.constant (.bool (name = "True"))))
  else if name = "Ellipsis" then .ok (some (.native "ellipsis" name))
  else if name = "NotImplemented" then .ok (some (.native "NotImplementedType" name))
  else if name = "EnvironmentError" || name = "IOError" then .ok (some (nativeType "OSError"))
  else if typeNames.contains name || name.head?.any Char.isUpper then .ok (some (nativeType name))
  else .ok (some function)

/-! ### Spellings -/

def kindOf : Script.Object Value → Text
  | .constant v | .value v => v.kind
  | .surrogates _ => "str"
  | .helper _ | .routine .. => "function"
  | .sink .bare _ => "object"
  | .sink (.guarded _) _ => "GuardedSink"
  | .record type _ _ => type
  | .builtins => "dict"
  | .native kind _ => kind

/-- An object by the spelling that `spell` gives a value. -/
def spellObject (spell : Value → Text) (o : Script.Object Value) : Except ValueFault Text :=
  match o with
  | .constant v | .value v =>
    if v.hasLongInteger then .error (.layout .longInteger) else .ok (spell v)
  | .native _ spelled => .ok spelled
  | o => .error (.foreign (kindOf o))

/-- An object in the layout that a text spells. -/
def formatObject (layout : Text) (o : Script.Object Value) : Except ValueFault Text :=
  match o with
  | .constant v | .value v => (v.format layout).mapError .layout
  | .surrogates _ => .error (.foreign (kindOf o))
  | .record type _ _ => .error (.foreign type)
  | o => if layout.isEmpty then spellObject shown o else .error (.layout (.unsupported (kindOf o)))

end Value

instance : Script.Host Value ValueFault Text where
  text := id
  concat := List.flatten
  format := Value.formatObject
  formatText layout t := Value.formatObject layout (.constant (.text t))
  spelled := Value.spellObject Value.spelled
  pretty := Value.spellObject Value.pretty
  builtins replaced := if replaced.isSome then .error (.foreign "__builtins__") else .ok Value.builtin
  fold := Value.foldName
  named name := .error (.foreign name)

end Stencil
