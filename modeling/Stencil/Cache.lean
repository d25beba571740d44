import Stencil.FileTable
import Stencil.Log

/-!
# Compiled templates

Compiled templates are kept by their path and the name of their dialect, and serve again as long as
the text of the file has the same fingerprint.
-/

namespace Stencil

/-- A compiled template that is kept. -/
structure Cache.Entry where
  path : Text
  dialect : Text
  fingerprint : Text
  template : Template

/-- The compiled templates that are kept, and how often one served. -/
structure Cache where
  entries : List Cache.Entry
  hits : Nat
  misses : Nat

namespace Cache

def empty : Cache := ⟨[], 0, 0⟩

/-- Whether an entry is kept under a path and the name of a dialect. -/
def Entry.isAt (path dialect : Text) (e : Entry) : Bool := e.path = path && e.dialect = dialect

/-- The entry that is kept under a path and the name of a dialect. -/
def kept? (c : Cache) (path dialect : Text) : Option Entry :=
  c.entries.find? (Entry.isAt path dialect)

/-- The template that serves for a source, and the cache with this look-up counted. -/
def lookup (c : Cache) (s : Source) (dialect : Text) : Option Template × Cache :=
  match c.kept? s.path dialect with
  | some e =>
    -- An entry of another text stays until a template is stored in its place.
    if e.fingerprint = s.fingerprint then (some e.template, { c with hits := c.hits + 1 })
    else (none, { c with misses := c.misses + 1 })
  | none => (none, { c with misses := c.misses + 1 })

/-- The entries with a new one in the place of the one under the same path and dialect. -/
def putEntry (new : Entry) : List Entry → List Entry
  | [] => [new]
  | e :: es => if e.isAt new.path new.dialect then new :: es else e :: putEntry new es

def store (c : Cache) (t : Template) (dialect : Text) : Cache :=
  { c with entries := putEntry ⟨t.source.path, dialect, t.source.fingerprint, t⟩ c.entries }

/-! ### Small laws -/

theorem find?_putEntry_self (new : Entry) (entries : List Entry) :
    (putEntry new entries).find? (Entry.isAt new.path new.dialect) = some new := by
  induction entries with
  | nil => simp [putEntry, Entry.isAt]
  | cons e es ih =>
    rw [putEntry]
    split
    · simp [Entry.isAt]
    · rename_i h
      simp [h, ih]

/-- A template that is stored is found under its path and the name of its dialect. -/
theorem kept?_store (c : Cache) (t : Template) (dialect : Text) :
    (c.store t dialect).kept? t.source.path dialect =
      some ⟨t.source.path, dialect, t.source.fingerprint, t⟩ :=
  find?_putEntry_self ⟨t.source.path, dialect, t.source.fingerprint, t⟩ c.entries

end Cache

/-! ### Loading and compiling -/

/-- A diagnostic about a file as a whole. -/
def Diagnostic.ofFile (p : Path) (code message : Text) : Diagnostic :=
  ⟨code, Diagnostic.error, message, p.toText, ⟨0, 1, 1⟩, []⟩

/-- The source in the file that a path leads to. -/
def Source.load (files : FileTable) (p : Path) : Except Diagnostic Source := do
  if !files.hasFile p then
    throw (.ofFile p "E_TEMPLATE_NOT_FOUND" ("template not found: " ++ p.toText))
  let text ← (files.readText p).mapError fun fault =>
    .ofFile p "E_TEMPLATE_NOT_UTF8" ("template is not valid UTF-8: " ++ fault.message)
  return ⟨p.toText, text⟩

/-- What comes of compiling a template: the template or a fault, the cache afterwards, and the
lines of the log. -/
structure Compilation where
  result : Except CompileFault Template
  cache : Option Cache
  log : List LogLine

namespace Compilation

/-- The compilation of a source without a cache. -/
def fresh (d : Dialect) (s : Source) : Compilation :=
  match Template.compile d s with
  | .ok t => ⟨.ok t, none, t.log⟩
  | .error fault => ⟨.error fault, none, []⟩

/-- The compilation of a source with a cache. -/
def cached (d : Dialect) (s : Source) (c : Cache) : Compilation :=
  match c.lookup s d.name with
  | (some t, c) => ⟨.ok t, some c, [.compiler ("plan cache hit: " ++ s.path)]⟩
  | (none, c) =>
    let miss := LogLine.compiler ("plan cache miss: " ++ s.path)
    match Template.compile d s with
    | .ok t => ⟨.ok t, some (c.store t d.name), miss :: t.log⟩
    | .error fault => ⟨.error fault, some c, [miss]⟩

/-- The compilation of the template in a file.  A file that is not read leaves the cache alone. -/
def ofFile (files : FileTable) (d : Dialect) (p : Path) (cache : Option Cache) : Compilation :=
  match Source.load files p with
  | .error diagnostic => ⟨.error (.located diagnostic), cache, []⟩
  | .ok s =>
    match cache with
    | none => fresh d s
    | some c => cached d s c

end Compilation
end Stencil
