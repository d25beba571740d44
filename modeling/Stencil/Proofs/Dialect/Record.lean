import Stencil.Dialect.Record
import Stencil.Proofs.Outcome

/-! # What is known of a dialect that was read

  A record is checked while it is read, so that a dialect read from a record keeps what was
  checked. Proofs about the tokens of a dialect need that its block comments do not end at once.
-/

namespace Stencil.Dialect

/-- The dialect of a record that gives a name and a writer alone. -/
def plain : Dialect where
  name := ['d']
  target := .rust
  quotes := [.text ['"']]
  stringPrefixes := []
  tripleQuotes := false
  multilineStrings := true
  rawHashes := false
  charQuote := none
  lineComments := []
  blockComment := none
  nestedComments := false
  terminator := ';'
  compoundColons := []
  typeFlags := [[]]
  keywords := []
  builtins := []
  implicitNames := []
  memberPrefixes := []
  skipFollowers := []
  bindingPatterns := []
  ignoreCapitalized := false
  specMarkers := []
  debugAcceptsSign := true

namespace Record

/-- Delimiters of block comments are not empty. -/
theorem blockComment_ne_nil {value : Option Json} {opener closer : Text}
    (h : blockComment value = .ok (some (opener, closer))) : opener ≠ [] ∧ closer ≠ [] := by
  unfold blockComment at h
  split at h
  · simp at h
  · simp at h
  · split at h
    · simp at h
    · next hempty =>
      obtain ⟨rfl, rfl⟩ := Prod.mk.inj (Option.some.inj (Except.ok.inj h))
      rw [Bool.or_eq_true, not_or, List.isEmpty_iff, List.isEmpty_iff] at hempty
      exact hempty
  · simp at h

/-! ### Parts of a record -/

/-- The value that a part of a record has under a key. -/
def member (record : Json) (part key : Text) : Option Json :=
  (valueOr record part (.obj [])).get? key

theorem eq_get?_of_inner {part : Json} {key : Text} {value : Option Json}
    (h : inner part key = .ok value) : value = part.get? key := by
  unfold inner at h
  split at h
  · exact (Except.ok.inj h).symm
  · cases h

/-- The fields that have to be lists of texts. -/
def textKeys : List Text :=
  ["compound_colon_tokens", "spec_comment_markers", "type_flags", "keywords", "builtins",
    "implicit_names", "member_prefixes", "skip_followers", "binding_patterns"]

/-- Those of them whose texts are patterns. -/
def patternKeys : List Text := ["skip_followers", "binding_patterns"]

theorem texts_of_patterns {record : Json} {key : Text} {ps : List Pattern}
    (h : patterns record key = .ok ps) : ∃ ts, texts record key = .ok ts := by
  obtain ⟨ts, hts, _⟩ := Outcome.bind_ok_iff.mp h
  exact ⟨ts, hts⟩

/-- What was read where a record became a dialect. -/
structure ReadFrom (record : Json) (d : Dialect) : Prop where
  blockComment : blockComment (member record "comments" "block") = .ok d.blockComment
  quotes : entries ((member record "strings" "quotes").getD (.arr [.str "\""])) = .ok d.quotes
  prefixes : ∃ es, entries ((member record "strings" "prefixes").getD (.arr [])) = .ok es ∧
    longestFirst es = .ok d.stringPrefixes
  lineComments : entries ((member record "comments" "line").getD (.arr [])) = .ok d.lineComments
  texts : ∀ key ∈ textKeys, ∃ ts, texts record key = .ok ts
  patterns : ∀ key ∈ patternKeys, ∃ ps, patterns record key = .ok ps

theorem readFrom {record : Json} {d : Dialect} (h : read record = .ok d) : ReadFrom record d := by
  unfold read at h
  split at h
  · split at h
    · split at h
      · exact absurd h Outcome.throw_bind_ne_ok
      · -- One step for each field, in the order in which they are read.
        obtain ⟨_, _, h⟩ := Outcome.bind_ok_iff.mp h
        obtain ⟨_, hblock, h⟩ := Outcome.bind_ok_iff.mp h
        obtain ⟨_, hblockComment, h⟩ := Outcome.bind_ok_iff.mp h
        obtain ⟨_, _, h⟩ := Outcome.bind_ok_iff.mp h
        obtain ⟨_, _, h⟩ := Outcome.bind_ok_iff.mp h
        obtain ⟨_, _, h⟩ := Outcome.bind_ok_iff.mp h
        obtain ⟨_, hcolons, h⟩ := Outcome.bind_ok_iff.mp h
        obtain ⟨_, _, h⟩ := Outcome.bind_ok_iff.mp h
        obtain ⟨_, hline, h⟩ := Outcome.bind_ok_iff.mp h
        obtain ⟨_, hmarkers, h⟩ := Outcome.bind_ok_iff.mp h
        obtain ⟨_, _, h⟩ := Outcome.bind_ok_iff.mp h
        obtain ⟨_, hquotes, h⟩ := Outcome.bind_ok_iff.mp h
        obtain ⟨_, hquoteEntries, h⟩ := Outcome.bind_ok_iff.mp h
        obtain ⟨_, hprefixes, h⟩ := Outcome.bind_ok_iff.mp h
        obtain ⟨_, hprefixEntries, h⟩ := Outcome.bind_ok_iff.mp h
        obtain ⟨_, hlongest, h⟩ := Outcome.bind_ok_iff.mp h
        obtain ⟨_, _, h⟩ := Outcome.bind_ok_iff.mp h
        obtain ⟨_, _, h⟩ := Outcome.bind_ok_iff.mp h
        obtain ⟨_, _, h⟩ := Outcome.bind_ok_iff.mp h
        obtain ⟨_, hlineEntries, h⟩ := Outcome.bind_ok_iff.mp h
        obtain ⟨_, _, h⟩ := Outcome.bind_ok_iff.mp h
        obtain ⟨_, htypeFlags, h⟩ := Outcome.bind_ok_iff.mp h
        obtain ⟨_, hkeywords, h⟩ := Outcome.bind_ok_iff.mp h
        obtain ⟨_, hbuiltins, h⟩ := Outcome.bind_ok_iff.mp h
        obtain ⟨_, himplicit, h⟩ := Outcome.bind_ok_iff.mp h
        obtain ⟨_, hmember, h⟩ := Outcome.bind_ok_iff.mp h
        obtain ⟨_, hskip, h⟩ := Outcome.bind_ok_iff.mp h
        obtain ⟨_, hbinding, h⟩ := Outcome.bind_ok_iff.mp h
        obtain rfl := Except.ok.inj h
        rw [eq_get?_of_inner hblock] at hblockComment
        rw [eq_get?_of_inner hquotes] at hquoteEntries
        rw [eq_get?_of_inner hprefixes] at hprefixEntries
        rw [eq_get?_of_inner hline] at hlineEntries
        refine ⟨hblockComment, hquoteEntries, ⟨_, hprefixEntries, hlongest⟩, hlineEntries, ?_, ?_⟩
        · simp only [textKeys, List.forall_mem_cons]
          exact ⟨⟨_, hcolons⟩, ⟨_, hmarkers⟩, ⟨_, htypeFlags⟩, ⟨_, hkeywords⟩, ⟨_, hbuiltins⟩,
            ⟨_, himplicit⟩, ⟨_, hmember⟩, texts_of_patterns hskip, texts_of_patterns hbinding, nofun⟩
        · simp only [patternKeys, List.forall_mem_cons]
          exact ⟨⟨_, hskip⟩, ⟨_, hbinding⟩, nofun⟩
    · exact absurd h Outcome.throw_ne_ok
  · exact absurd h Outcome.throw_ne_ok

/-- The delimiters of the block comments of a dialect that was read are not empty. -/
theorem delimiters_ne_nil {record : Json} {d : Dialect} (h : read record = .ok d)
    {opener closer : Text} (hblock : d.blockComment = some (opener, closer)) :
    opener ≠ [] ∧ closer ≠ [] := by
  have hvalue := (readFrom h).blockComment
  rw [hblock] at hvalue
  exact blockComment_ne_nil hvalue

/-- The block comments of a dialect that was read end with something. -/
theorem closer_ne_nil {record : Json} {d : Dialect} (h : read record = .ok d)
    {opener closer : Text} (hblock : d.blockComment = some (opener, closer)) : closer ≠ [] :=
  (delimiters_ne_nil h hblock).2

/-- A record that gives, besides a name and a writer, the strings and the comments. -/
def plainWith (strings comments : List (Text × Json)) : Json :=
  .obj [("name", .str ['d']), ("writer", .str "rust"), ("strings", .obj strings),
    ("comments", .obj comments)]

end Record
end Stencil.Dialect
