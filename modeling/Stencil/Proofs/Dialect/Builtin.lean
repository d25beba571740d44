import Stencil.Proofs.Dialect.Python
import Stencil.Proofs.Token.Swap

/-! # Marks of the built-in dialects

  Which characters the tokens of Rust and of Python begin and end with, and so which ones are inert
  in both: a text may be cut, and go on otherwise, at a blank, a brace, a terminator or a colon.
-/

namespace Stencil.Dialect

/-! ### Comments -/

theorem rust_regular : rust.Regular where
  markers e he := by
    have hmarkers : rust.lineComments = [.text ['/', '/']] := rfl
    rw [hmarkers, List.mem_singleton] at he
    exact ⟨['/', '/'], he, List.cons_ne_nil _ _, by decide⟩
  delimiters opener closer hb := by
    have hblock : rust.blockComment = some (['/', '*'], ['*', '/']) := rfl
    rw [hblock, Option.some.injEq, Prod.mk.injEq] at hb
    obtain ⟨rfl, rfl⟩ := hb
    exact ⟨List.cons_ne_nil _ _, List.cons_ne_nil _ _⟩

theorem python_regular : python.Regular where
  markers e he := by
    have hmarkers : python.lineComments = [.text ['#']] := rfl
    rw [hmarkers, List.mem_singleton] at he
    exact ⟨['#'], he, List.cons_ne_nil _ _, by decide⟩
  delimiters opener closer hb := by
    have hblock : python.blockComment = none := rfl
    rw [hblock] at hb
    cases hb

/-! ### Strings -/

/-- The letters of the prefixes of Rust strings. -/
theorem mem_rust_prefixes {p : Text} (hp : Entry.text p ∈ rust.stringPrefixes) {x : Char}
    (hx : x ∈ p) : x ∈ ['b', 'c'] := by
  have hall : rust.stringPrefixes = [.text ['b'], .text ['c']] := rfl
  rw [hall] at hp
  simp only [List.mem_cons, Entry.text.injEq, List.not_mem_nil, or_false] at hp
  rcases hp with rfl | rfl <;> simp_all

theorem rust_isQuote_iff {c : Char} : rust.isQuote c = true ↔ c = '"' := by
  have hquotes : rust.quotes = [.text ['"']] := rfl
  unfold isQuote
  rw [hquotes]
  simp only [List.any_cons, List.any_nil, Entry.isText, Bool.or_false, decide_eq_true_iff,
    List.cons.injEq, and_true]
  exact eq_comm

theorem rust_idle {x : Char} (hcase : Caseless x) (hx : x ∉ ['b', 'c', 'r', '#', '"']) :
    rust.Idle x where
  caseless := hcase
  noPrefix p hp hmem := by
    have hletter := mem_rust_prefixes hp hmem
    exact hx (List.mem_append_left ['r', '#', '"'] hletter)
  noQuote := by
    rw [← Bool.not_eq_true, rust_isQuote_iff]
    rintro rfl
    exact hx (by decide)
  noRaw _ hmem := hx (List.mem_append_right ['b', 'c'] hmem)

theorem python_idle {x : Char} (hx : OpensNoString x) : python.Idle x where
  caseless := hx.caseless
  noPrefix := hx.noPrefix
  noQuote := hx.noQuote
  noRaw hraw := absurd hraw (by decide)

/-! ### How tokens begin -/

theorem rust_opensComment {x : Char} (h : rust.OpensComment x) : x = '/' := by
  have hmarkers : rust.lineComments = [.text ['/', '/']] := rfl
  have hblock : rust.blockComment = some (['/', '*'], ['*', '/']) := rfl
  rcases h with ⟨m, hm, hhead⟩ | ⟨opener, closer, hb, hhead⟩
  · rw [hmarkers, List.mem_singleton] at hm
    obtain rfl := Entry.text.inj hm
    exact (Option.some.inj hhead).symm
  · rw [hblock, Option.some.injEq, Prod.mk.injEq] at hb
    obtain ⟨rfl, rfl⟩ := hb
    exact (Option.some.inj hhead).symm

theorem python_opensComment {x : Char} (h : python.OpensComment x) : x = '#' := by
  have hmarkers : python.lineComments = [.text ['#']] := rfl
  have hblock : python.blockComment = none := rfl
  rcases h with ⟨m, hm, hhead⟩ | ⟨opener, closer, hb, _⟩
  · rw [hmarkers, List.mem_singleton] at hm
    obtain rfl := Entry.text.inj hm
    exact (Option.some.inj hhead).symm
  · rw [hblock] at hb
    cases hb

theorem rust_apart : rust.Apart where
  toRegular := rust_regular
  quotes q hq := by
    obtain rfl := rust_isQuote_iff.mp hq
    refine ⟨⟨by decide, by decide⟩, fun p hp hmem => ?_⟩
    exact absurd (mem_rust_prefixes hp hmem) (by decide)
  raw _ := ⟨rust_isQuote_iff.mpr rfl, by rw [← Bool.not_eq_true, rust_isQuote_iff]; decide⟩
  chars q hq := by
    have hchar : rust.charQuote = some '\'' := rfl
    rw [hchar, Option.some.injEq] at hq
    subst hq
    exact rust_idle ⟨by decide, by decide⟩ (by decide)
  comments y hy := by
    obtain rfl := rust_opensComment hy
    have hchar : rust.charQuote = some '\'' := rfl
    refine ⟨rust_idle ⟨by decide, by decide⟩ (by decide), ?_⟩
    rw [hchar]
    decide

theorem python_apart : python.Apart where
  toRegular := python_regular
  quotes q hq := by
    have hcase : Caseless '"' ∧ Caseless '\'' := ⟨⟨by decide, by decide⟩, ⟨by decide, by decide⟩⟩
    rcases python_isQuote_iff.mp hq with rfl | rfl
    · exact ⟨hcase.1, fun p hp hmem => absurd (mem_python_prefixes hp hmem) (by decide)⟩
    · exact ⟨hcase.2, fun p hp hmem => absurd (mem_python_prefixes hp hmem) (by decide)⟩
  raw hraw := absurd hraw (by decide)
  chars q hq := by
    have hchar : python.charQuote = none := rfl
    rw [hchar] at hq
    cases hq
  comments y hy := by
    obtain rfl := python_opensComment hy
    have hchar : python.charQuote = none := rfl
    refine ⟨python_idle opensNoString_hash, ?_⟩
    rw [hchar]
    simp

/-! ### Inert characters -/

def openings : Text := ['b', 'c', 'r', 'f', 'u', '#', '"', '\'', '/', '*']

theorem rust_inert {x : Char} (hcase : Caseless x) (hx : x ∉ openings) : rust.Inert x where
  toIdle := rust_idle hcase fun hmem =>
    hx (List.Subset.trans (by decide : ['b', 'c', 'r', '#', '"'] ⊆ openings)
      (List.Subset.refl _) hmem)
  noMarker m hm hmem := by
    have hmarkers : rust.lineComments = [.text ['/', '/']] := rfl
    rw [hmarkers, List.mem_singleton] at hm
    obtain rfl := Entry.text.inj hm
    simp only [List.mem_cons, List.not_mem_nil, or_false, or_self] at hmem
    exact hx (hmem ▸ by decide)
  noDelimiter opener closer hb := by
    have hblock : rust.blockComment = some (['/', '*'], ['*', '/']) := rfl
    rw [hblock, Option.some.injEq, Prod.mk.injEq] at hb
    obtain ⟨rfl, rfl⟩ := hb
    exact ⟨fun hmem => hx ((by decide : ['/', '*'] ⊆ openings) hmem),
      fun hmem => hx ((by decide : ['*', '/'] ⊆ openings) hmem)⟩
  noChar hquote := by
    have hchar : rust.charQuote = some '\'' := rfl
    rw [hchar, Option.some.injEq] at hquote
    exact hx (hquote ▸ by decide)

theorem python_inert {x : Char} (hcase : Caseless x) (hx : x ∉ openings) : python.Inert x where
  toIdle := python_idle {
    caseless := hcase
    noPrefix := fun p hp hmem =>
      hx ((by decide : ['b', 'r', 'f', 'u'] ⊆ openings) (mem_python_prefixes hp hmem))
    noQuote := by
      rw [← Bool.not_eq_true, python_isQuote_iff]
      rintro (rfl | rfl) <;> exact hx (by decide) }
  noMarker m hm hmem := by
    have hmarkers : python.lineComments = [.text ['#']] := rfl
    rw [hmarkers, List.mem_singleton] at hm
    obtain rfl := Entry.text.inj hm
    rw [List.mem_singleton] at hmem
    exact hx (hmem ▸ by decide)
  noDelimiter opener closer hb := by
    have hblock : python.blockComment = none := rfl
    rw [hblock] at hb
    cases hb
  noChar hquote := by
    have hchar : python.charQuote = none := rfl
    rw [hchar] at hquote
    cases hquote

/-- Blanks are inert in both dialects. -/
theorem not_mem_openings_of_isBlank {c : Char} (h : isBlank c = true) : c ∉ openings := by
  intro hmem
  have hnone : openings.all (isBlank · = false) = true := by decide
  have hc := of_decide_eq_true (List.all_eq_true.mp hnone c hmem)
  rw [h] at hc
  exact absurd hc (by decide)

/-! ### Both dialects -/

section builtin
variable {d : Dialect} {x : Char}

theorem apart_of_builtin (hd : d = rust ∨ d = python) : d.Apart := by
  rcases hd with rfl | rfl
  · exact rust_apart
  · exact python_apart

theorem inert_of_builtin (hd : d = rust ∨ d = python) (hx : Caseless x) (hno : x ∉ openings) :
    d.Inert x := by
  rcases hd with rfl | rfl
  · exact rust_inert hx hno
  · exact python_inert hx hno

theorem inert_of_isBlank (hd : d = rust ∨ d = python) (hx : isBlank x = true) : d.Inert x :=
  inert_of_builtin hd (caseless_of_isBlank hx) (not_mem_openings_of_isBlank hx)

theorem terminator_of_builtin (hd : d = rust ∨ d = python) : d.terminator = ';' := by
  rcases hd with rfl | rfl <;> rfl

end builtin

end Stencil.Dialect
