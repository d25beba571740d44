/-!
# Texts

A text is the list of its characters, so every offset, length and column of this library counts
characters.  This module holds the operations on texts that the others share: slices, the first
occurrence of a text in another, cutting at a character, and the spelling of numbers.
-/

namespace Stencil

/-- A text is the list of its characters.  A lone surrogate is no character here: texts that have no
UTF-8 bytes, and files whose names are no UTF-8, are outside this library.  Where a script spells
such a text by escapes, its host has to do with it. -/
abbrev Text := List Char

/-- A string literal stands for its characters wherever a text is expected. -/
instance : Coe String Text := ⟨String.toList⟩

namespace Text

/-! ### Slices and occurrences -/

/-- The characters of `t` from offset `a` up to, but not including, offset `b`. -/
def slice (t : Text) (a b : Nat) : Text := (t.drop a).take (b - a)

/-- The offset of the first occurrence of `needle` in a text. -/
def offsetOf? (needle : Text) : Text → Option Nat
  | [] => if needle.isEmpty then some 0 else none
  | c :: t => if needle.isPrefixOf (c :: t) then some 0 else (offsetOf? needle t).map (· + 1)

def occursIn (needle t : Text) : Bool := (offsetOf? needle t).isSome

/-- The part of a text before the first `sep`, and the part after it, if there is one. -/
def cut (sep : Char) : Text → Text × Option Text
  | [] => ([], none)
  | c :: t =>
    if c = sep then ([], some t)
    else
      let (before, after) := cut sep t
      (c :: before, after)

def endsWith (t tail : Text) : Bool := tail.isSuffixOf t

def splitAt (sep : Char) : Text → List Text
  | [] => [[]]
  | c :: t =>
    if c = sep then [] :: splitAt sep t
    else
      match splitAt sep t with
      | [] => [[c]]
      | piece :: pieces => (c :: piece) :: pieces

def join (sep : Text) : List Text → Text
  | [] => []
  | [t] => t
  | t :: ts => t ++ sep ++ join sep ts

def pad (c : Char) (n : Nat) : Text := List.replicate n c

def utf8Size : Text → Nat
  | [] => 0
  | c :: t => c.utf8Size + utf8Size t

/-- The order of texts by their code points, the shorter of two first when it begins the other. -/
def le : Text → Text → Bool
  | [], _ => true
  | _ :: _, [] => false
  | a :: s, b :: t => if a.val < b.val then true else if b.val < a.val then false else le s t

/-! ### Numbers -/

def ofNat (n : Nat) : Text := Nat.toDigits 10 n

/-- The decimal digits of an integer, after a minus sign if it is negative. -/
def ofInt : Int → Text
  | .ofNat n => ofNat n
  | .negSucc n => '-' :: ofNat (n + 1)

/-- The digits of `n` in lower-case hexadecimal, with zeros in front up to `width` digits. -/
def hex (width n : Nat) : Text :=
  let digits := Nat.toDigits 16 n
  pad '0' (width - digits.length) ++ digits

/-! ### Small laws -/

theorem cut_fst_append (sep : Char) (t : Text) :
    (cut sep t).1 ++ ((cut sep t).2.elim [] (sep :: ·)) = t := by
  induction t with
  | nil => rfl
  | cons c t ih =>
    by_cases h : c = sep
    · simp [cut, h]
    · simp [cut, h, ih]

theorem length_slice_le (t : Text) (a b : Nat) : (slice t a b).length ≤ b - a := by
  simp only [slice, List.length_take]
  omega

theorem utf8Size_append (s t : Text) : utf8Size (s ++ t) = utf8Size s + utf8Size t := by
  induction s with
  | nil => simp [utf8Size]
  | cons c s ih => simp [utf8Size, ih, Nat.add_assoc]

theorem splitAt_ne_nil (sep : Char) (t : Text) : splitAt sep t ≠ [] := by
  cases t with
  | nil => simp [splitAt]
  | cons c t =>
    rw [splitAt]
    split
    · simp
    · split <;> simp

theorem join_cons_cons (sep : Text) (t u : Text) (ts : List Text) :
    join sep (t :: u :: ts) = t ++ sep ++ join sep (u :: ts) := rfl

/-- Splitting loses nothing. -/
theorem join_splitAt (sep : Char) (t : Text) : join [sep] (splitAt sep t) = t := by
  induction t with
  | nil => rfl
  | cons c t ih =>
    obtain ⟨piece, pieces, h⟩ := List.exists_cons_of_ne_nil (splitAt_ne_nil sep t)
    rw [h] at ih
    by_cases hc : c = sep
    · simp [splitAt, hc, h, join, ih]
    · cases pieces with
      | nil => simp_all [splitAt, join]
      | cons next rest =>
        rw [join_cons_cons] at ih
        simp [splitAt, hc, h, join_cons_cons]
        simpa using ih

end Text
end Stencil
