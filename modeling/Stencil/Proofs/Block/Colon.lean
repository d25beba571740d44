import Mathlib.Data.List.Basic
import Stencil.Proofs.Block.Parts
import Stencil.Proofs.Text.Cut
import Stencil.Proofs.Text.Word

/-! # The colon of a format specifier

  A colon in the tail of a block introduces a format specifier unless it means something else: it
  may be part of a token (`Block.InCompound`), or stand behind the label of a loop
  (`Block.BehindLabel`). The reader tests for the first by trying the tokens at every offset that
  makes the colon a part of them, and for the second by going backwards from the colon. The last
  colon that passes both tests is the one it takes (`Block.specColon?_eq_some_iff`).
-/

namespace Stencil

namespace Block

variable {d : Dialect} {masked : Text} {start i : Nat}

/-! ### Colons with another meaning -/

/-- The colon at offset `i` is part of a token of the dialect that stands around it. -/
def InCompound (d : Dialect) (masked : Text) (i : Nat) : Prop :=
  ∃ token ∈ d.compoundColons, ∃ pos, token[pos]? = some ':' ∧ pos ≤ i ∧
    token <+: masked.drop (i - pos)

theorem isCompoundColon_iff : isCompoundColon d masked i = true ↔ InCompound d masked i := by
  unfold isCompoundColon InCompound
  simp only [List.any_eq_true, Bool.and_eq_true, decide_eq_true_eq, Prod.exists,
    List.mem_zipIdx_iff_getElem?, List.isPrefixOf_iff_prefix]
  constructor
  · rintro ⟨token, htoken, c, pos, hpos, ⟨rfl, hle⟩, hprefix⟩
    exact ⟨token, htoken, pos, hpos, hle, hprefix⟩
  · rintro ⟨token, htoken, pos, hpos, hle, hprefix⟩
    exact ⟨token, htoken, ':', pos, hpos, ⟨rfl, hle⟩, hprefix⟩

/-- The quote behind `before` and the name `first :: rest` make up a label: no word and no ampersand
stands right before the quote, and the name begins with a plain character. -/
structure IsLabel (before : Text) (first : Char) (rest : Text) : Prop where
  alone : ∀ c ∈ before.getLast?, isWordChar c = false ∧ c ≠ '&'
  first : isPlainStart first = true
  rest : ∀ c ∈ rest, isWordChar c = true

/-- What stands in front of offset `i` ends in a label and blanks. -/
def BehindLabel (d : Dialect) (masked : Text) (i : Nat) : Prop :=
  ∃ quote ∈ d.charQuote, ∃ before first rest blanks, IsLabel before first rest ∧
    blanks.all isBlank = true ∧ masked.take i = before ++ quote :: first :: (rest ++ blanks)

theorem endsInLabelQuote_iff {quote : Char} {t : Text} :
    endsInLabelQuote quote t = true ↔
      ∃ u, t = quote :: u ∧ ∀ c ∈ u.head?, isWordChar c = false ∧ c ≠ '&' := by
  cases t with
  | nil => simp [endsInLabelQuote]
  | cons c t =>
    rw [endsInLabelQuote, Bool.and_eq_true, decide_eq_true_eq]
    cases t with
    | nil => simp
    | cons b t => simp

/-- The name is read from its end, and each character of it may be its first. -/
theorem endsInLabel_iff {quote : Char} {t : Text} :
    endsInLabel quote t = true ↔
      ∃ before first rest, t.reverse = before ++ quote :: first :: rest ∧
        IsLabel before first rest := by
  induction t with
  | nil => simp [endsInLabel]
  | cons c t ih =>
    rw [endsInLabel, Bool.and_eq_true, Bool.or_eq_true, Bool.and_eq_true, ih, endsInLabelQuote_iff,
      List.reverse_cons]
    constructor
    · rintro ⟨hword, ⟨hfirst, u, rfl, halone⟩ | ⟨before, first, rest, ht, hlabel⟩⟩
      · refine ⟨u.reverse, c, [], by simp, ⟨?_, hfirst, nofun⟩⟩
        rw [List.getLast?_reverse]
        exact halone
      · refine ⟨before, first, rest ++ [c], by simp [ht], ⟨hlabel.alone, hlabel.first, ?_⟩⟩
        rw [List.forall_mem_append]
        exact ⟨hlabel.rest, by simpa using hword⟩
    · rintro ⟨before, first, rest, ht, hlabel⟩
      -- The last character is that of the rest of the name, or the name has no more than it.
      rcases List.eq_nil_or_concat rest with rfl | ⟨rest, b, rfl⟩
      · obtain ⟨hrev, hc⟩ := List.append_inj' (ht.trans (List.append_cons before quote [first])) rfl
        obtain rfl : c = first := List.singleton_inj.mp hc
        have hword := isWordChar_of_isPlainStart hlabel.first
        refine ⟨hword, .inl ⟨hlabel.first, before.reverse, ?_, ?_⟩⟩
        · rw [← List.reverse_reverse t, hrev, List.reverse_concat]
        · rw [List.head?_reverse]
          exact hlabel.alone
      · have hconcat : before ++ quote :: first :: rest.concat b =
            (before ++ quote :: first :: rest) ++ [b] := by simp
        obtain ⟨hrev, hc⟩ := List.append_inj' (ht.trans hconcat) rfl
        obtain rfl : c = b := List.singleton_inj.mp hc
        have hrest := hlabel.rest
        rw [List.concat_eq_append, List.forall_mem_append] at hrest
        exact ⟨hrest.2 c (List.mem_singleton_self c),
          .inr ⟨before, first, rest, hrev, ⟨hlabel.alone, hlabel.first, hrest.1⟩⟩⟩

theorem isLabelColon_iff : isLabelColon d masked i = true ↔ BehindLabel d masked i := by
  unfold isLabelColon BehindLabel
  -- Only the text in front of the colon is looked at.
  generalize masked.take i = t
  simp only [Option.any_eq_true, endsInLabel_iff]
  refine exists_congr fun quote => and_congr_right fun _ => ?_
  constructor
  · rintro ⟨before, first, rest, ht, hlabel⟩
    refine ⟨before, first, rest, (t.reverse.takeWhile isBlank).reverse, hlabel, ?_, ?_⟩
    · rw [List.all_reverse]
      exact List.all_takeWhile
    · calc t = (t.reverse.takeWhile isBlank ++ t.reverse.dropWhile isBlank).reverse := by
            rw [List.takeWhile_append_dropWhile, List.reverse_reverse]
        _ = before ++ quote :: first :: rest ++ (t.reverse.takeWhile isBlank).reverse := by
            rw [List.reverse_append, ht]
        _ = _ := by simp
  · rintro ⟨before, first, rest, blanks, hlabel, hblanks, rfl⟩
    refine ⟨before, first, rest, ?_, hlabel⟩
    -- The last character of the name is not blank, so that the blanks end at it.
    have hsplit : (before ++ quote :: first :: (rest ++ blanks)).reverse =
        blanks.reverse ++ (before ++ quote :: first :: rest).reverse := by simp
    have hblank : ∀ c ∈ blanks.reverse, isBlank c = true := fun c hc =>
      List.all_eq_true.mp hblanks c (List.mem_reverse.mp hc)
    rw [hsplit, Text.dropWhile_run_append hblank, List.reverse_reverse]
    intro c hc
    rw [List.head?_reverse] at hc
    have hname : before ++ quote :: first :: rest = (before ++ [quote]) ++ first :: rest := by simp
    rw [hname, List.getLast?_append_of_ne_nil _ (List.cons_ne_nil first rest)] at hc
    have hword : isWordChar c = true := by
      rcases List.mem_cons.mp (List.mem_of_getLast? hc) with rfl | hmem
      · exact isWordChar_of_isPlainStart hlabel.first
      · exact hlabel.rest c hmem
    rw [← Bool.not_eq_true]
    intro hblank
    rw [Dialect.isWordChar_of_isBlank hblank] at hword
    cases hword

/-! ### The last colon -/

/-- A colon of the tail from `start` on that introduces a format specifier: it stands at depth zero,
counted from there, and has no other meaning. -/
structure SpecColon (d : Dialect) (masked : Text) (start i : Nat) : Prop where
  behind : start ≤ i
  outer : OuterAt (masked.drop start) ':' (i - start)
  notCompound : ¬ InCompound d masked i
  notLabel : ¬ BehindLabel d masked i

/-- The last colon that introduces a format specifier. -/
structure LastColon (d : Dialect) (masked : Text) (start i : Nat) : Prop extends
    SpecColon d masked start i where
  last : ∀ j, SpecColon d masked start j → j ≤ i

/-- The offsets of the colons that introduce a format specifier. -/
def specColons (d : Dialect) (masked : Text) (start : Nat) : List Nat :=
  (outerFrom (· = ':') start 0 (masked.drop start)).filter fun i =>
    !isCompoundColon d masked i && !isLabelColon d masked i

theorem mem_specColons_iff : i ∈ specColons d masked start ↔ SpecColon d masked start i := by
  unfold specColons
  rw [List.mem_filter, mem_outerFrom_iff, Bool.and_eq_true, Bool.not_eq_true', Bool.not_eq_true',
    ← Bool.not_eq_true, ← Bool.not_eq_true, isCompoundColon_iff, isLabelColon_iff]
  constructor
  · rintro ⟨⟨j, c, rfl, hc, htest, hdepth⟩, hcompound, hlabel⟩
    obtain rfl : c = ':' := of_decide_eq_true htest
    refine ⟨Nat.le_add_right start j, ?_, hcompound, hlabel⟩
    rw [Nat.add_sub_cancel_left]
    exact ⟨hc, hdepth⟩
  · rintro ⟨hbehind, ⟨hc, hdepth⟩, hcompound, hlabel⟩
    exact ⟨⟨i - start, ':', by omega, hc, rfl, hdepth⟩, hcompound, hlabel⟩

theorem specColon?_eq_some_iff :
    specColon? d masked start = some i ↔ LastColon d masked start i := by
  have hincreasing : (specColons d masked start).Pairwise (· < ·) := pairwise_outerFrom.filter _
  have hlast := getLast?_eq_some_iff_of_increasing hincreasing (n := i)
  simp only [mem_specColons_iff] at hlast
  show (specColons d masked start).getLast? = some i ↔ _
  rw [hlast]
  constructor
  · rintro ⟨hcolon, hlast⟩
    exact ⟨hcolon, hlast⟩
  · rintro ⟨hcolon, hlast⟩
    exact ⟨hcolon, hlast⟩

theorem specColon?_eq_none_iff :
    specColon? d masked start = none ↔ ∀ i, ¬ SpecColon d masked start i := by
  show (specColons d masked start).getLast? = none ↔ _
  simp only [List.getLast?_eq_none_iff, List.eq_nil_iff_forall_not_mem, mem_specColons_iff]

end Block
end Stencil
