import Stencil.Json.Printer
import Stencil.Json.Reader
import Stencil.Proofs.Text.Cut

/-! # Compact JSON texts

  A compact text is written by one value only, floating-point numbers apart (`Json.Exact`), and this
  is so wherever it stands: the text of a value ends at the same place whatever comes after it, as
  long as no digit does (`compact_append_inj`).

  - The first character tells the kind of the value (`kind_of_compact`).
  - A number goes on as long as there are digits (`Text.ofInt_append_inj`).
  - A string ends where the reader of strings finds its end, and the reader gives back the
    characters that were written (`stringBody_string`).
  - Items and members are parted by commas, and a bracket ends them (`join_append_inj`).
-/

namespace Stencil

/-! ### Numbers -/

namespace Text

variable {r s : Text}

/-- A text that goes on no number in front of it: it does not begin with a digit. -/
def EndsNumber (r : Text) : Prop := ∀ c ∈ r.head?, c.isDigit = false

theorem endsNumber_nil : EndsNumber [] := nofun

theorem endsNumber_cons {c : Char} (h : c.isDigit = false) (r : Text) : EndsNumber (c :: r) := by
  intro b hb
  obtain rfl := Option.some.inj hb
  exact h

theorem isDigit_of_mem_ofNat {n : Nat} {c : Char} (h : c ∈ ofNat n) : c.isDigit = true :=
  Nat.isDigit_of_mem_toDigits (by decide) (by decide) h

theorem ofNat_append_inj {m n : Nat} (hr : EndsNumber r) (hs : EndsNumber s)
    (h : ofNat m ++ r = ofNat n ++ s) : m = n ∧ r = s := by
  obtain ⟨hdigits, hrest⟩ := run_append_inj (f := Char.isDigit) (fun _ => isDigit_of_mem_ofNat) hr
    (fun _ => isDigit_of_mem_ofNat) hs h
  have hvalue := congrArg (Nat.ofDigitChars 10 · 0) hdigits
  dsimp only [ofNat] at hvalue
  rw [Nat.ofDigitChars_ten_toDigits, Nat.ofDigitChars_ten_toDigits] at hvalue
  exact ⟨hvalue, hrest⟩

/-- The digits of a number are not empty, and begin with no minus sign. -/
theorem exists_ofNat_eq_cons (n : Nat) : ∃ c t, ofNat n = c :: t ∧ c.isDigit = true := by
  obtain ⟨c, t, h⟩ := List.exists_cons_of_ne_nil (Nat.toDigits_ne_nil (n := n) (b := 10))
  exact ⟨c, t, h, isDigit_of_mem_ofNat (h ▸ List.mem_cons_self)⟩

theorem ofNat_append_ne_minus (n : Nat) : ofNat n ++ r ≠ '-' :: s := by
  obtain ⟨c, t, hn, hc⟩ := exists_ofNat_eq_cons n
  intro h
  rw [hn] at h
  rw [(List.cons.inj h).1] at hc
  cases hc

theorem ofInt_append_inj {m n : Int} (hr : EndsNumber r) (hs : EndsNumber s)
    (h : ofInt m ++ r = ofInt n ++ s) : m = n ∧ r = s := by
  cases m with
  | ofNat m =>
    cases n with
    | ofNat n =>
      obtain ⟨rfl, hrest⟩ := ofNat_append_inj hr hs h
      exact ⟨rfl, hrest⟩
    | negSucc n => exact absurd h (ofNat_append_ne_minus m)
  | negSucc m =>
    cases n with
    | ofNat n => exact absurd h.symm (ofNat_append_ne_minus n)
    | negSucc n =>
      obtain ⟨hn, hrest⟩ := ofNat_append_inj hr hs (List.cons.inj h).2
      obtain rfl := Nat.succ.inj hn
      exact ⟨rfl, hrest⟩

end Text

namespace Json

open Text (EndsNumber endsNumber_cons)

variable {r s : Text}

/-! ### Strings -/

/-- A control is written with four digits, which the reader takes for it. -/
theorem hex_control {n : Nat} (h : n < 0x20) :
    ∃ a b c d, Text.hex 4 n = [a, b, c, d] ∧ fourDigits? a b c d = some n := by
  have hall : ∀ n < 0x20, ['0', '1'].any (fun c => "0123456789abcdef".toList.any fun d =>
      Text.hex 4 n = ['0', '0', c, d] && fourDigits? '0' '0' c d = some n) = true := by
    decide +kernel
  obtain ⟨c, _, hc⟩ := List.any_eq_true.mp (hall n h)
  obtain ⟨d, _, hd⟩ := List.any_eq_true.mp hc
  rw [Bool.and_eq_true, decide_eq_true_eq, decide_eq_true_eq] at hd
  exact ⟨'0', '0', c, d, hd.1, hd.2⟩

theorem stringBody_escape {e c : Char} (he : e ≠ 'u') (hc : shortEscape? e = some c) (t : Text) :
    stringBody ('\\' :: e :: t) =
      (stringBody t).map fun (units, rest) => (c.toNat :: units, rest) := by
  rw [stringBody, hc]
  · cases stringBody t <;> rfl
  · intro a b c d u hu
    exact absurd hu he

/-- What is written for a character is read as that character. -/
theorem stringBody_stringChar (c : Char) (t : Text) :
    stringBody (stringChar c ++ t) =
      (stringBody t).map fun (units, rest) => (c.toNat :: units, rest) := by
  unfold stringChar
  -- The two marks and the five controls that have a letter.
  split
  · next h => exact h ▸ stringBody_escape (by decide) rfl t
  split
  · next h => exact h ▸ stringBody_escape (by decide) rfl t
  split
  · next h => exact h ▸ stringBody_escape (by decide) rfl t
  split
  · next h => exact h ▸ stringBody_escape (by decide) rfl t
  split
  · next h => exact h ▸ stringBody_escape (by decide) rfl t
  split
  · next h => exact h ▸ stringBody_escape (e := 'b') (c := '\x08') (by decide) rfl t
  split
  · next h => exact h ▸ stringBody_escape (e := 'f') (c := '\x0c') (by decide) rfl t
  split
  · next h =>
    obtain ⟨d₁, d₂, d₃, d₄, hhex, hread⟩ := hex_control h
    rw [hhex]
    show stringBody ('\\' :: 'u' :: d₁ :: d₂ :: d₃ :: d₄ :: t) = _
    rw [stringBody, hread]
    cases stringBody t <;> rfl
  · next hquote hslash _ _ _ _ _ hcontrol =>
    have hbare : (decide (c.toNat < 0x20) || decide (c = '\\')) = false := by
      simp [hcontrol, hslash]
    rw [List.singleton_append, stringBody, hbare]
    · cases stringBody t <;> rfl
    · exact hquote
    · intro _ _ _ _ _ hc
      exact absurd hc hslash
    · intro _ _ hc
      exact absurd hc hslash

/-- The reader of strings gives back what was written, and stops behind the closing quote. -/
theorem stringBody_string (t rest : Text) :
    stringBody (t.flatMap stringChar ++ '"' :: rest) = some (t.map Char.toNat, rest) := by
  induction t with
  | nil => rw [List.flatMap_nil, List.nil_append, stringBody, List.map_nil]
  | cons c t ih =>
    rw [List.flatMap_cons, List.append_assoc, stringBody_stringChar, ih]
    rfl

theorem string_append (t r : Text) : string t ++ r = '"' :: (t.flatMap stringChar ++ '"' :: r) := by
  simp [string]

theorem string_append_inj {t u : Text} (h : string t ++ r = string u ++ s) : t = u ∧ r = s := by
  rw [string_append, string_append] at h
  have hread := congrArg stringBody (List.cons.inj h).2
  rw [stringBody_string, stringBody_string] at hread
  obtain ⟨hchars, hrest⟩ := Prod.mk.inj (Option.some.inj hread)
  exact ⟨(List.map_inj_right fun _ _ => Char.toNat_inj.mp).mp hchars, hrest⟩

/-! ### Kinds of values -/

/-- The kinds of values that a first character tells apart. -/
inductive Kind where
  | null
  | bool
  | number
  | string
  | array
  | object

/-- The kind of the value whose text begins with a character. -/
def Kind.ofChar? (c : Char) : Option Kind :=
  if c = 'n' then some .null
  else if c = 't' || c = 'f' then some .bool
  else if c = '"' then some .string
  else if c = '[' then some .array
  else if c = '{' then some .object
  else if c.isDigit || c = '-' then some .number
  else none

def kind : Json → Kind
  | .null => .null
  | .bool _ => .bool
  | .int _ | .real _ => .number
  | .str _ => .string
  | .arr _ => .array
  | .obj _ => .object

/-- A value without floating-point numbers: its text tells it exactly. -/
inductive Exact : Json → Prop where
  | null : Exact .null
  | bool (b : Bool) : Exact (.bool b)
  | int (n : Int) : Exact (.int n)
  | str (t : Text) : Exact (.str t)
  | arr {items : List Json} : (∀ j ∈ items, Exact j) → Exact (.arr items)
  | obj {members : List (Text × Json)} : (∀ m ∈ members, Exact m.2) → Exact (.obj members)

theorem Kind.ofChar?_digit {c : Char} (h : c.isDigit = true) : ofChar? c = some .number := by
  have hne {b : Char} (hb : b.isDigit = false) : c ≠ b := by
    rintro rfl
    rw [hb] at h
    cases h
  unfold ofChar?
  rw [if_neg (hne rfl), if_neg (by simp [hne]), if_neg (hne rfl), if_neg (hne rfl),
    if_neg (hne rfl), if_pos (by simp [h])]

/-- The first character of a text tells the kind of its value. -/
theorem kind_of_compact {j : Json} (hj : Exact j) :
    ∃ c t, compact j = c :: t ∧ Kind.ofChar? c = some j.kind := by
  cases hj with
  | null => exact ⟨'n', "ull".toList, rfl, rfl⟩
  | bool b =>
    cases b with
    | true => exact ⟨'t', "rue".toList, rfl, rfl⟩
    | false => exact ⟨'f', "alse".toList, rfl, rfl⟩
  | int n =>
    cases n with
    | ofNat n =>
      obtain ⟨c, t, hn, hc⟩ := Text.exists_ofNat_eq_cons n
      exact ⟨c, t, hn, Kind.ofChar?_digit hc⟩
    | negSucc n => exact ⟨'-', _, rfl, rfl⟩
  | str t => exact ⟨'"', _, rfl, rfl⟩
  | arr h => exact ⟨'[', _, rfl, rfl⟩
  | obj h => exact ⟨'{', _, rfl, rfl⟩

/-- Texts that go on from the same place belong to values of the same kind. -/
theorem kind_eq_of_append {j k : Json} (hj : Exact j) (hk : Exact k)
    (h : compact j ++ r = compact k ++ s) : j.kind = k.kind := by
  obtain ⟨c, t, hc, hjc⟩ := kind_of_compact hj
  obtain ⟨b, u, hb, hkb⟩ := kind_of_compact hk
  rw [hc, hb] at h
  rw [(List.cons.inj h).1, hkb] at hjc
  exact (Option.some.inj hjc).symm

/-! ### Items and members -/

theorem compactItems_eq (js : List Json) : compactItems js = Text.join [','] (js.map compact) := by
  induction js with
  | nil => rfl
  | cons j js ih =>
    rw [compactItems, ih]
    cases js with
    | nil => simp [Text.join]
    | cons k js => simp [Text.join]

theorem compactMembers_eq (ms : List (Text × Json)) :
    compactMembers ms = Text.join [','] (ms.map compactMember) := by
  induction ms with
  | nil => rfl
  | cons m ms ih =>
    rw [compactMembers, ih]
    cases ms with
    | nil => simp [Text.join]
    | cons n ms => simp [Text.join]

/-- What comes behind the first part of a list: each later part after a comma, then the bracket. -/
def behindFirst {α : Type} (f : α → Text) (close : Char) (r : Text) : List α → Text
  | [] => close :: r
  | x :: xs => ',' :: (f x ++ behindFirst f close r xs)

theorem join_cons_append {α : Type} (f : α → Text) (close : Char) (x : α) (xs : List α) (r : Text) :
    Text.join [','] ((x :: xs).map f) ++ close :: r = f x ++ behindFirst f close r xs := by
  induction xs generalizing x with
  | nil => rfl
  | cons y ys ih =>
    rw [List.map_cons, List.map_cons, Text.join_cons_cons, ← List.map_cons, List.append_assoc, ih,
      List.append_assoc]
    rfl

/-- A part of a list that is read in one way, whatever the list goes on with. -/
def ReadOnce {α : Type} (f : α → Text) (x y : α) : Prop :=
  ∀ {r s : Text}, EndsNumber r → EndsNumber s → f x ++ r = f y ++ s → x = y ∧ r = s

section Parts

variable {α : Type} {f : α → Text} {close : Char} {xs ys : List α}

theorem endsNumber_behindFirst (hclose : close.isDigit = false) (r : Text) (xs : List α) :
    EndsNumber (behindFirst f close r xs) := by
  cases xs with
  | nil => exact endsNumber_cons hclose r
  | cons x xs => exact endsNumber_cons rfl _

theorem behindFirst_inj (hclose : close.isDigit = false) (hcomma : close ≠ ',')
    (hread : ∀ x ∈ xs, ∀ y ∈ ys, ReadOnce f x y)
    (h : behindFirst f close r xs = behindFirst f close s ys) : xs = ys ∧ r = s := by
  induction xs generalizing ys with
  | nil =>
    cases ys with
    | nil => exact ⟨rfl, (List.cons.inj h).2⟩
    | cons y ys => exact absurd (List.cons.inj h).1 hcomma
  | cons x xs ih =>
    cases ys with
    | nil => exact absurd (List.cons.inj h).1.symm hcomma
    | cons y ys =>
      obtain ⟨rfl, hrest⟩ := hread x List.mem_cons_self y List.mem_cons_self
        (endsNumber_behindFirst hclose r xs) (endsNumber_behindFirst hclose s ys)
        (List.cons.inj h).2
      obtain ⟨rfl, rfl⟩ := ih (fun x hx y hy =>
        hread x (List.mem_cons_of_mem _ hx) y (List.mem_cons_of_mem _ hy)) hrest
      exact ⟨rfl, rfl⟩

/-- A list of parts between commas is read in one way up to its bracket, if each part is. A part
never begins with the bracket, so that an empty list is known, too. -/
theorem join_append_inj (hclose : close.isDigit = false) (hcomma : close ≠ ',')
    (hread : ∀ x ∈ xs, ∀ y ∈ ys, ReadOnce f x y)
    (hxs : ∀ x ∈ xs, ∀ t u, f x ++ t ≠ close :: u) (hys : ∀ y ∈ ys, ∀ t u, f y ++ t ≠ close :: u)
    (h : Text.join [','] (xs.map f) ++ close :: r = Text.join [','] (ys.map f) ++ close :: s) :
    xs = ys ∧ r = s := by
  cases xs with
  | nil =>
    cases ys with
    | nil => exact ⟨rfl, (List.cons.inj h).2⟩
    | cons y ys =>
      rw [join_cons_append] at h
      exact absurd h.symm (hys y List.mem_cons_self _ _)
  | cons x xs =>
    rw [join_cons_append] at h
    cases ys with
    | nil => exact absurd h (hxs x List.mem_cons_self _ _)
    | cons y ys =>
      rw [join_cons_append] at h
      obtain ⟨rfl, hrest⟩ := hread x List.mem_cons_self y List.mem_cons_self
        (endsNumber_behindFirst hclose r xs) (endsNumber_behindFirst hclose s ys) h
      obtain ⟨rfl, rfl⟩ := behindFirst_inj hclose hcomma (fun x hx y hy =>
        hread x (List.mem_cons_of_mem _ hx) y (List.mem_cons_of_mem _ hy)) hrest
      exact ⟨rfl, rfl⟩

end Parts

/-! ### Values -/

theorem compact_append_ne {j : Json} (hj : Exact j) {c : Char} (hc : Kind.ofChar? c = none)
    (t u : Text) : compact j ++ t ≠ c :: u := by
  obtain ⟨b, v, hb, hkind⟩ := kind_of_compact hj
  intro h
  rw [hb] at h
  rw [(List.cons.inj h).1, hc] at hkind
  cases hkind

theorem compactMember_append_ne (m : Text × Json) (t u : Text) :
    compactMember m ++ t ≠ '}' :: u := by
  obtain ⟨key, value⟩ := m
  rw [compactMember, List.append_assoc, string_append]
  intro h
  exact absurd (List.cons.inj h).1 (by decide)

theorem readOnce_compactMember {m n : Text × Json} (h : ReadOnce compact m.2 n.2) :
    ReadOnce compactMember m n := by
  obtain ⟨key, value⟩ := m
  obtain ⟨key', value'⟩ := n
  intro r s hr hs heq
  rw [compactMember, compactMember, List.append_assoc, List.append_assoc] at heq
  obtain ⟨rfl, hrest⟩ := string_append_inj heq
  obtain ⟨rfl, rfl⟩ := h hr hs (List.cons.inj hrest).2
  exact ⟨rfl, rfl⟩

/-- A compact text is read in one way. The induction is on the value: the kind of the other is known
from the first character, and the parts of an array or an object are read one after the other. -/
theorem compact_append_inj {j : Json} (hj : Exact j) :
    ∀ {k : Json}, Exact k → ReadOnce compact j k := by
  induction hj with
  | null =>
    intro k hk r s _ _ h
    have hkind := kind_eq_of_append .null hk h
    cases hk with
    | null => exact ⟨rfl, List.append_cancel_left h⟩
    | _ => cases hkind
  | bool b =>
    intro k hk r s _ _ h
    have hkind := kind_eq_of_append (.bool b) hk h
    cases hk with
    | bool b' =>
      cases b <;> cases b'
      · exact ⟨rfl, List.append_cancel_left h⟩
      · exact absurd (List.cons.inj h).1 (by decide)
      · exact absurd (List.cons.inj h).1 (by decide)
      · exact ⟨rfl, List.append_cancel_left h⟩
    | _ => cases hkind
  | int n =>
    intro k hk r s hr hs h
    have hkind := kind_eq_of_append (.int n) hk h
    cases hk with
    | int m =>
      obtain ⟨rfl, rfl⟩ := Text.ofInt_append_inj hr hs h
      exact ⟨rfl, rfl⟩
    | _ => cases hkind
  | str t =>
    intro k hk r s _ _ h
    have hkind := kind_eq_of_append (.str t) hk h
    cases hk with
    | str u =>
      obtain ⟨rfl, rfl⟩ := string_append_inj h
      exact ⟨rfl, rfl⟩
    | _ => cases hkind
  | @arr items hitems ih =>
    intro k hk r s _ _ h
    have hkind := kind_eq_of_append (.arr hitems) hk h
    cases hk with
    | @arr items' hitems' =>
      rw [compact, compact, compactItems_eq, compactItems_eq] at h
      -- The items are read one by one, up to the bracket behind the last one.
      have hlist : Text.join [','] (items.map compact) ++ ']' :: r =
          Text.join [','] (items'.map compact) ++ ']' :: s := by simpa using h
      obtain ⟨rfl, rfl⟩ := join_append_inj rfl (by decide)
        (fun x hx y hy => ih x hx (hitems' y hy))
        (fun x hx => compact_append_ne (hitems x hx) rfl)
        (fun y hy => compact_append_ne (hitems' y hy) rfl) hlist
      exact ⟨rfl, rfl⟩
    | _ => cases hkind
  | @obj members hmembers ih =>
    intro k hk r s _ _ h
    have hkind := kind_eq_of_append (.obj hmembers) hk h
    cases hk with
    | @obj members' hmembers' =>
      rw [compact, compact, compactMembers_eq, compactMembers_eq] at h
      have hlist : Text.join [','] (members.map compactMember) ++ '}' :: r =
          Text.join [','] (members'.map compactMember) ++ '}' :: s := by simpa using h
      obtain ⟨rfl, rfl⟩ := join_append_inj rfl (by decide)
        (fun x hx y hy => readOnce_compactMember (ih x hx (hmembers' y hy)))
        (fun x _ => compactMember_append_ne x) (fun y _ => compactMember_append_ne y) hlist
      exact ⟨rfl, rfl⟩
    | _ => cases hkind

/-- Different values have different compact texts. -/
theorem compact_inj {j k : Json} (hj : Exact j) (hk : Exact k) (h : compact j = compact k) :
    j = k := by
  refine (compact_append_inj hj hk Text.endsNumber_nil Text.endsNumber_nil ?_).1
  rw [List.append_nil, List.append_nil, h]

end Json
end Stencil
