import Stencil.Proofs.Block.PlainStep
import Stencil.Proofs.Text.Layout

/-! # Python code with other gaps

  Python code may be laid out anew between its tokens: where it has blanks with a line end among
  them, it may have a line feed and other blanks. The strings stay what they are, if no token has a
  line end in it.

  * **Strings**: `strings` are those of a text that is lexed, in order.
  * **`Linewise`**: the derivation of a lexed text whose tokens have no line ends in them, with its
    strings.
  * **`Gap`**: two texts that are the same but for the blanks in front, of which the first ones end
    a line and the second ones begin with a line feed.
  * **`Relaid`**: one text in place of another at the end of any code keeps the strings of it all.
    It is reflexive, transitive and kept by a text in front, and holds of the two sides of a gap.
-/

namespace Stencil

open Dialect (python)

/-! ### The strings of a text -/

def stringsOf : Text → List Mark → List Text
  | c :: t, .opens .string :: ms =>
    (c :: t.take (ms.takeWhile (· = .inside .string)).length) :: stringsOf t ms
  | _ :: t, _ :: ms => stringsOf t ms
  | _, _ => []

/-- The strings of a text that is lexed on its own, in order. -/
def strings (d : Dialect) (t : Text) : Except Failure (List Text) :=
  (marks d t).map (stringsOf t)

/-- All line ends of a text are outside its tokens. -/
def LineEndsOutside (t : Text) (ms : List Mark) : Prop :=
  ∀ q ∈ t.zip ms, Text.isLineEnd q.1 = true → q.2 = .plain

instance (t : Text) (ms : List Mark) : Decidable (LineEndsOutside t ms) :=
  inferInstanceAs (Decidable (∀ q ∈ t.zip ms, Text.isLineEnd q.1 = true → q.2 = .plain))

/-- A text without a line end. -/
def InLine (t : Text) : Prop := ∀ c ∈ t, Text.isLineEnd c = false

/-- Python code after the character `before` is lexed, no token has a line end in it, and the
strings are the given ones. -/
inductive Linewise : (before : Option Char) → Text → List Text → Prop
  | nil {before} : Linewise before [] []
  /-- A character that opens no token. -/
  | plain {before c t ss} (h : Token.at? python before (c :: t) = .ok none)
      (next : Linewise (some c) t ss) : Linewise before (c :: t) ss
  /-- A comment, which is `c` and the characters `x` after it. -/
  | comment {before c x t ss}
      (h : Token.at? python before (c :: (x ++ t)) = .ok (some ⟨.comment, x.length + 1⟩))
      (hline : InLine (c :: x)) (next : Linewise (c :: x).getLast? t ss) :
      Linewise before (c :: (x ++ t)) ss
  /-- A string, which is `c` and the characters `x` after it. -/
  | string {before c x t ss}
      (h : Token.at? python before (c :: (x ++ t)) = .ok (some ⟨.string, x.length + 1⟩))
      (hline : InLine (c :: x)) (next : Linewise (c :: x).getLast? t ss) :
      Linewise before (c :: (x ++ t)) ((c :: x) :: ss)

variable {before before' : Option Char} {c : Char} {p r t t' u w x : Text} {ss : List Text}
  {ms : List Mark}

/-! ### Strings from marks -/

/-- Characters that open no string are passed. -/
theorem stringsOf_replicate_append {m : Mark} (hm : m ≠ .opens .string) :
    stringsOf (x ++ t) (List.replicate x.length m ++ ms) = stringsOf t ms := by
  induction x with
  | nil => rfl
  | cons c x ih =>
    rw [List.cons_append, List.length_cons, List.replicate_succ, List.cons_append, stringsOf]
    · exact ih
    · exact hm

/-- A string is taken as a whole. -/
theorem stringsOf_token {d : Dialect} (h : Lexed d before t ms) :
    stringsOf (c :: (x ++ t))
        (.opens .string :: (List.replicate x.length (.inside .string) ++ ms)) =
      (c :: x) :: stringsOf t ms := by
  have htake := takeWhile_inside x.length (h.head_ne_inside .string)
  rw [stringsOf, htake, List.length_replicate, List.take_left,
    stringsOf_replicate_append (by simp)]

/-- The tokens of Python are comments and strings. -/
theorem Token.python_kind {kind : Token.Kind} {n : Nat}
    (h : Token.at? python before (c :: t) = .ok (some ⟨kind, n⟩)) :
    kind = .comment ∨ kind = .string := by
  rw [Token.at?_python] at h
  split at h
  · obtain ⟨rfl, _⟩ := Token.mk.inj (Option.some.inj (Except.ok.inj h))
    exact .inl rfl
  · obtain ⟨o, _, ho⟩ := Outcome.map_ok_iff.mp h
    obtain ⟨_, _, htoken⟩ := Option.map_eq_some_iff.mp ho
    obtain ⟨rfl, _⟩ := Token.mk.inj htoken
    exact .inr rfl

theorem Lexed.linewise (h : Lexed python before t ms) (hends : LineEndsOutside t ms) :
    Linewise before t (stringsOf t ms) := by
  induction h with
  | nil => exact .nil
  | plain htoken _ ih =>
    exact .plain htoken (ih fun q hq => hends q (List.mem_cons_of_mem _ hq))
  | @token before kind c x t ms htoken next ih =>
    have hzip :
        (c :: (x ++ t)).zip (.opens kind :: (List.replicate x.length (.inside kind) ++ ms)) =
          (c, .opens kind) :: (x.zip (List.replicate x.length (.inside kind)) ++ t.zip ms) := by
      rw [List.zip_cons_cons, List.zip_append (by rw [List.length_replicate])]
    rw [LineEndsOutside, hzip] at hends
    -- A line end in the token would stand outside it.
    have hline : InLine (c :: x) := by
      intro y hy
      rw [← Bool.not_eq_true]
      intro hend
      rcases List.mem_cons.mp hy with rfl | hy
      · exact absurd (hends _ List.mem_cons_self hend) (by simp)
      · obtain ⟨i, hi, rfl⟩ := List.mem_iff_getElem.mp hy
        have hmem : (x[i], Mark.inside kind) ∈ x.zip (List.replicate x.length (.inside kind)) := by
          rw [List.mem_iff_getElem]
          exact ⟨i, by simpa using hi, by simp⟩
        have hplain := hends _ (List.mem_cons_of_mem _ (List.mem_append_left _ hmem)) hend
        exact absurd hplain (by simp)
    have hnext := ih fun q hq => hends q (List.mem_cons_of_mem _ (List.mem_append_right _ hq))
    rcases Token.python_kind htoken with rfl | rfl
    · rw [stringsOf, stringsOf_replicate_append (by simp)]
      · exact .comment htoken hline hnext
      · simp
    · rw [stringsOf_token next]
      exact .string htoken hline hnext

theorem Linewise.exists_lexed (h : Linewise before t ss) :
    ∃ ms, Lexed python before t ms ∧ stringsOf t ms = ss := by
  induction h with
  | nil => exact ⟨[], .nil, rfl⟩
  | plain htoken _ ih =>
    obtain ⟨ms, hms, hss⟩ := ih
    exact ⟨_, .plain htoken hms, hss⟩
  | comment htoken _ _ ih =>
    obtain ⟨ms, hms, hss⟩ := ih
    refine ⟨_, .token htoken hms, ?_⟩
    rw [stringsOf, stringsOf_replicate_append (by simp)]
    · exact hss
    · simp
  | string htoken _ _ ih =>
    obtain ⟨ms, hms, rfl⟩ := ih
    exact ⟨_, .token htoken hms, stringsOf_token hms⟩

theorem Linewise.strings_eq (h : Linewise none t ss) : strings python t = .ok ss := by
  obtain ⟨ms, hms, rfl⟩ := h.exists_lexed
  rw [strings, marks_ok_iff.mpr hms]
  rfl

/-! ### Gaps -/

/-- Two texts that are the same but for the blanks in front. Those of the first have a line end
among them, unless there is nothing but blanks; the second begins with a line feed, or is empty. -/
structure Gap (t t' : Text) : Prop where
  same : t.dropWhile isBlank = t'.dropWhile isBlank
  ends : t.dropWhile isBlank = [] ∨ ∃ c ∈ t.takeWhile isBlank, Text.isLineEnd c = true
  feeds : ∀ c ∈ t'.head?, c = '\n'

namespace Gap

theorem blank_left (h : Gap t t') : ∀ c ∈ t.head?, isBlank c = true := by
  intro c hc
  obtain ⟨t, rfl⟩ := List.head?_eq_some_iff.mp hc
  rw [← Bool.not_eq_false]
  intro hno
  have hdrop : (c :: t).dropWhile isBlank = c :: t := List.dropWhile_cons_of_neg (by simp [hno])
  have htake : (c :: t).takeWhile isBlank = [] := List.takeWhile_cons_of_neg (by simp [hno])
  rcases h.ends with hnil | ⟨_, hmem, _⟩
  · rw [hdrop] at hnil
    exact absurd hnil (List.cons_ne_nil c t)
  · rw [htake] at hmem
    exact absurd hmem List.not_mem_nil

theorem blank_right (h : Gap t t') : ∀ c ∈ t'.head?, isBlank c = true := by
  intro c hc
  obtain rfl := h.feeds c hc
  decide

/-- What a text begins with, up to a line end, is blank at a gap. -/
theorem all_blank (h : Gap (u ++ w) t') (hu : InLine u) : u.all isBlank = true := by
  by_cases hall : u.dropWhile isBlank = []
  · rw [← List.takeWhile_append_dropWhile (p := isBlank) (l := u), hall, List.append_nil]
    exact List.all_takeWhile
  · exfalso
    rcases h.ends with hnil | ⟨c, hmem, hend⟩
    · rw [Text.dropWhile_append_of_ends hall] at hnil
      exact hall (List.append_eq_nil_iff.mp hnil).1
    · rw [Text.takeWhile_append_of_ends hall] at hmem
      rw [hu c ((List.takeWhile_prefix _).subset hmem)] at hend
      exact absurd hend (by decide)

end Gap

/-! ### Tokens at a gap -/

/-- Behind the run of a flag, only what stands behind the blanks matters. -/
theorem Token.reachesBrace_gap (h : Gap t t') (r : Text) :
    reachesBrace (r ++ t) = reachesBrace (r ++ t') := by
  have hrun {s : Text} (hs : ∀ c ∈ s.head?, isBlank c = true) : s.dropWhile runsOn = s := by
    cases s with
    | nil => rfl
    | cons c s => exact List.dropWhile_cons_of_neg (by simp [runsOn, hs c rfl])
  unfold reachesBrace
  rw [dropWhile_run_append, dropWhile_run_append, hrun h.blank_left, hrun h.blank_right, h.same]
  by_cases hnil : r.dropWhile runsOn = []
  · rw [if_pos hnil, if_pos hnil]
  · rw [if_neg hnil, if_neg hnil]
    cases (r.dropWhile runsOn).dropWhile isBlank <;> rfl

/-- Where a comment of Python code opens, and how far it goes. -/
theorem Token.at?_python_comment_iff :
    at? python before (c :: (x ++ t)) = .ok (some ⟨.comment, x.length + 1⟩) ↔
      c = '#' ∧ '\n' ∉ x ∧ (∀ y ∈ t.head?, y = '\n') ∧
        (before == some ':' && reachesBrace (x ++ t)) = false := by
  constructor
  · intro h
    obtain ⟨rfl, hline, hend⟩ := Blanked.python_comment h
    rw [at?_python] at h
    split at h
    · next hopens =>
      rw [isSpecFlag_hash] at hopens
      exact ⟨rfl, fun hmem => hline (List.mem_cons_of_mem _ hmem), hend, hopens.2⟩
    · obtain ⟨o, _, ho⟩ := Outcome.map_ok_iff.mp h
      obtain ⟨_, _, htoken⟩ := Option.map_eq_some_iff.mp ho
      exact absurd (congrArg Token.kind htoken) (by simp)
  · rintro ⟨rfl, hline, hend, hflag⟩
    -- The comment goes to the end of its line, which is the end of `x`.
    have hrest : t.takeWhile (· ≠ '\n') = [] := by
      cases t with
      | nil => rfl
      | cons y t =>
        rw [hend y rfl]
        rfl
    have hlen : ('#' :: (x ++ t)).takeWhile (· ≠ '\n') = '#' :: x :=
      Text.takeWhile_line (t := '#' :: x) (by simp [hline]) hrest
    rw [at?_python, if_pos ⟨rfl, by rw [isSpecFlag_hash, hflag]⟩, hlen, List.length_cons]

namespace Gap

/-- No string begins in front of one side of a gap, if none does in front of the other. -/
theorem quotedString_none (h : Gap t t')
    (hnone : Token.quotedString python before (c :: (r ++ t)) = .ok none) :
    Token.quotedString python before (c :: (r ++ t')) = .ok none := by
  have hidle {s : Text} (hs : ∀ c ∈ s.head?, isBlank c = true) : ∀ c ∈ s.head?, python.Idle c :=
    fun c hc => (Dialect.inert_of_isBlank (.inr rfl) (hs c hc)).toIdle
  have nothing : ∀ n ∈ (none : Option Nat), n ≤ (c :: r).length := fun _ h => absurd h (by simp)
  have hne : c :: r ≠ [] := List.cons_ne_nil c r
  exact (Token.quotedString_append_iff hne (hidle h.blank_right) nothing).mpr
    ((Token.quotedString_append_iff hne (hidle h.blank_left) nothing).mp hnone)

/-- Where no token opens in front of one side of a gap, none does in front of the other. -/
theorem at?_none (h : Gap t t') (hnone : Token.at? python before (c :: (r ++ t)) = .ok none) :
    Token.at? python before (c :: (r ++ t')) = .ok none := by
  rw [Blanked.at?_python_none_iff] at hnone ⊢
  refine ⟨?_, h.quotedString_none hnone.2⟩
  rintro rfl
  have hflag := hnone.1 rfl
  rw [Token.isSpecFlag_hash] at hflag ⊢
  rwa [← Token.reachesBrace_gap h]

/-- A comment in front of a gap stays. -/
theorem comment (h : Gap t t') (hcomment : Token.at? python before
      (c :: (x ++ (r ++ t))) = .ok (some ⟨.comment, x.length + 1⟩)) :
    Token.at? python before (c :: (x ++ (r ++ t'))) = .ok (some ⟨.comment, x.length + 1⟩) := by
  obtain ⟨rfl, hline, hend, hflag⟩ := Token.at?_python_comment_iff.mp hcomment
  rw [← List.append_assoc, Token.reachesBrace_gap h, List.append_assoc] at hflag
  refine Token.at?_python_comment_iff.mpr ⟨rfl, hline, ?_, hflag⟩
  cases r with
  | nil => exact h.feeds
  | cons z r => exact hend

/-- A comment that goes on into a gap ends in front of the other side. -/
theorem comment_cut (h : Gap (w ++ u) t') (hcomment : Token.at? python before
      (c :: ((x ++ w) ++ u)) = .ok (some ⟨.comment, (x ++ w).length + 1⟩)) :
    Token.at? python before (c :: (x ++ t')) = .ok (some ⟨.comment, x.length + 1⟩) := by
  obtain ⟨rfl, hline, _, hflag⟩ := Token.at?_python_comment_iff.mp hcomment
  rw [List.append_assoc, Token.reachesBrace_gap h] at hflag
  exact Token.at?_python_comment_iff.mpr
    ⟨rfl, fun hmem => hline (List.mem_append_left _ hmem), h.feeds, hflag⟩

/-- A string in front of a gap stays. -/
theorem string (h : Gap t t') (hstring : Token.at? python before
      (c :: (x ++ (r ++ t))) = .ok (some ⟨.string, x.length + 1⟩)) :
    Token.at? python before (c :: (x ++ (r ++ t'))) = .ok (some ⟨.string, x.length + 1⟩) := by
  refine Token.at?_literal_swap (r := c :: x) Dialect.python_apart (by simp) hstring ?_
  intro z hz hquote
  cases r with
  | nil =>
    obtain rfl := h.feeds z hz
    exact absurd hquote (by decide)
  | cons y r => exact hz

end Gap

namespace Linewise

/-- What stands in front matters for the first token alone. -/
theorem of_before (h : Linewise before t ss)
    (hbefore : ∀ c u, t = c :: u → Token.at? python before' t = Token.at? python before t) :
    Linewise before' t ss := by
  cases h with
  | nil => exact .nil
  | plain htoken next => exact .plain ((hbefore _ _ rfl).trans htoken) next
  | comment htoken hline next => exact .comment ((hbefore _ _ rfl).trans htoken) hline next
  | string htoken hline next => exact .string ((hbefore _ _ rfl).trans htoken) hline next

/-- A blank in front of code is passed, and the code is read as it is after nothing. -/
theorem blank_iff (hc : isBlank c = true) :
    Linewise before (c :: t) ss ↔ Linewise none t ss := by
  have htoken : Token.at? python before (c :: t) = .ok none := Token.at?_python_of_isBlank hc t
  have hneutral : Token.Neutral (some c) := Token.neutral_blank hc
  have hsame (u : Text) := Token.at?_of_neutral hneutral (d := python) u
  refine ⟨fun h => ?_, fun h => .plain htoken (h.of_before fun _ _ _ => hsame _)⟩
  generalize hu : c :: t = u at h
  cases h with
  | nil => exact absurd hu (List.cons_ne_nil _ _)
  | plain _ next =>
    obtain ⟨rfl, rfl⟩ := List.cons.inj hu
    exact next.of_before fun _ _ _ => (hsame _).symm
  | comment h =>
    rw [← hu, htoken] at h
    simp at h
  | string h =>
    rw [← hu, htoken] at h
    simp at h

/-- All blanks in front of code are passed. -/
theorem dropWhile_iff (hhead : ∀ c ∈ t.head?, isBlank c = true) :
    Linewise before t ss ↔ Linewise none (t.dropWhile isBlank) ss := by
  induction t generalizing before with
  | nil =>
    exact ⟨fun h => h.of_before fun _ _ h => absurd h (by simp),
      fun h => h.of_before fun _ _ h => absurd h (by simp)⟩
  | cons c t ih =>
    have hc := hhead c rfl
    rw [blank_iff hc, List.dropWhile_cons_of_pos hc]
    by_cases hnext : ∀ y ∈ t.head?, isBlank y = true
    · exact ih hnext
    · cases t with
      | nil => rfl
      | cons y u =>
        have hy : ¬ isBlank y = true := by simpa using hnext
        rw [List.dropWhile_cons_of_neg hy]

/-- One side of a gap is lexed like the other, whatever stands in front. -/
theorem of_gap (hgap : Gap t t') (h : Linewise before t ss) : Linewise before' t' ss := by
  rw [dropWhile_iff hgap.blank_right, ← hgap.same]
  exact (dropWhile_iff hgap.blank_left).mp h

/-- Code with one side of a gap at its end is lexed like code with the other. The induction is along
the code in front of the gap, of which only a comment can reach into the gap. -/
theorem regap (hgap : Gap t t') (h : Linewise before (p ++ t) ss) :
    Linewise before (p ++ t') ss := by
  generalize hu : p ++ t = u at h
  induction h generalizing p with
  | @nil before =>
    obtain ⟨rfl, rfl⟩ := List.append_eq_nil_iff.mp hu
    exact of_gap hgap (.nil : Linewise before [] [])
  | @plain before c u ss htoken next ih =>
    cases p with
    | nil =>
      obtain rfl : t = c :: u := hu
      exact of_gap hgap (.plain htoken next)
    | cons c' p =>
      rw [List.cons_append, List.cons.injEq] at hu
      obtain ⟨rfl, rfl⟩ := hu
      rw [List.cons_append]
      exact .plain (hgap.at?_none htoken) (ih rfl)
  | @comment before c x u ss htoken hline next ih =>
    cases p with
    | nil =>
      obtain rfl : t = c :: (x ++ u) := hu
      exact of_gap hgap (.comment htoken hline next)
    | cons c' p =>
      rw [List.cons_append, List.cons.injEq] at hu
      obtain ⟨rfl, hu⟩ := hu
      rw [List.cons_append]
      rcases List.append_eq_append_iff.mp hu with ⟨v, rfl, rfl⟩ | ⟨q, rfl, rfl⟩
      · -- The comment goes on into the gap, and behind it the line ends.
        have hv : v.all isBlank = true := hgap.all_blank fun y hy =>
          hline y (List.mem_cons_of_mem _ (List.mem_append_right _ hy))
        have hdrop : (v ++ u).dropWhile isBlank = u.dropWhile isBlank :=
          List.dropWhile_append_of_pos (List.all_eq_true.mp hv)
        have hblank : ∀ y ∈ u.head?, isBlank y = true := by
          intro y hy
          obtain rfl := (Blanked.python_comment htoken).2.2 y hy
          decide
        have hnext : Linewise (c' :: p).getLast? t' ss := by
          rw [dropWhile_iff hgap.blank_right, ← hgap.same, hdrop]
          exact (dropWhile_iff hblank).mp next
        exact .comment (hgap.comment_cut htoken)
          (fun y hy => hline y (List.mem_append_left v hy)) hnext
      · -- The comment ends in front of the gap.
        rw [List.append_assoc]
        exact .comment (hgap.comment htoken) hline (ih rfl)
  | @string before c x u ss htoken hline next ih =>
    cases p with
    | nil =>
      obtain rfl : t = c :: (x ++ u) := hu
      exact of_gap hgap (.string htoken hline next)
    | cons c' p =>
      rw [List.cons_append, List.cons.injEq] at hu
      obtain ⟨rfl, hu⟩ := hu
      obtain ⟨q, rfl, rfl⟩ : ∃ q, p = x ++ q ∧ u = q ++ t := by
        rcases List.append_eq_append_iff.mp hu with ⟨v, rfl, rfl⟩ | hsplit
        · -- A string that went on into the gap would end in a blank.
          have hv : v.all isBlank = true := hgap.all_blank fun y hy =>
            hline y (List.mem_cons_of_mem _ (List.mem_append_right _ hy))
          obtain rfl := Token.literal_no_blanks (fun _ => Dialect.inert_of_isBlank (.inr rfl))
            (by simp) htoken (r := c' :: p) rfl hv
          exact ⟨[], by simp, by simp⟩
        · exact hsplit
      rw [List.cons_append, List.append_assoc]
      exact .string (hgap.string htoken) hline (ih rfl)

end Linewise

/-! ### Code laid out anew -/

theorem isBlank_of_isLineEnd (h : Text.isLineEnd c = true) : isBlank c = true := by
  have hends : [0xa, 0xb, 0xc, 0xd, 0x1c, 0x1d, 0x1e, 0x85, 0x2028, 0x2029] ⊆ blanks := by decide
  exact List.contains_iff_mem.mpr (hends (List.contains_iff_mem.mp h))

namespace Gap

/-- Blanks at the end of code. -/
theorem stop (hw : w.all isBlank = true) : Gap w ['\n'] ∧ Gap w [] := by
  have hdrop : w.dropWhile isBlank = [] := List.dropWhile_eq_nil_iff.mpr (List.all_eq_true.mp hw)
  exact ⟨⟨hdrop, .inl hdrop, by simp⟩, ⟨hdrop, .inl hdrop, by simp⟩⟩

/-- A line end, and a line feed in its place. -/
theorem lineEnd (hc : Text.isLineEnd c = true) (t : Text) : Gap (c :: t) ('\n' :: t) where
  same := by
    rw [List.dropWhile_cons_of_pos (isBlank_of_isLineEnd hc),
      List.dropWhile_cons_of_pos (by decide)]
  ends := by
    rw [List.takeWhile_cons_of_pos (isBlank_of_isLineEnd hc)]
    exact .inr ⟨c, List.mem_cons_self, hc⟩
  feeds := by simp

/-- A line feed that stays. -/
theorem feed (t : Text) : Gap ('\n' :: t) ('\n' :: t) := lineEnd (by decide) t

/-- Blanks in front of a gap belong to it. -/
theorem blanks_append (hw : w.all isBlank = true) (h : Gap t t') : Gap (w ++ t) t' where
  same := by rw [List.dropWhile_append_of_pos (List.all_eq_true.mp hw), h.same]
  ends := by
    rw [List.dropWhile_append_of_pos (List.all_eq_true.mp hw),
      List.takeWhile_append_of_pos (List.all_eq_true.mp hw)]
    refine h.ends.imp_right ?_
    rintro ⟨c, hmem, hc⟩
    exact ⟨c, List.mem_append_right w hmem, hc⟩
  feeds := h.feeds

/-- The blanks of a line, and others in their place. -/
theorem margin (hu : u.all isBlank = true) (hw : w.all isBlank = true) (t : Text) :
    Gap ('\n' :: (u ++ t)) ('\n' :: (w ++ t)) where
  same := by
    rw [List.dropWhile_cons_of_pos (by decide), List.dropWhile_cons_of_pos (by decide),
      List.dropWhile_append_of_pos (List.all_eq_true.mp hu),
      List.dropWhile_append_of_pos (List.all_eq_true.mp hw)]
  ends := by
    rw [List.takeWhile_cons_of_pos (by decide)]
    exact .inr ⟨'\n', List.mem_cons_self, by decide⟩
  feeds := by simp

end Gap

/-- At the end of any code the second text has the strings of the first. -/
def Relaid (t t' : Text) : Prop :=
  ∀ before p ss, Linewise before (p ++ t) ss → Linewise before (p ++ t') ss

namespace Relaid

theorem refl (t : Text) : Relaid t t := fun _ _ _ h => h

theorem trans (h : Relaid t t') (h' : Relaid t' u) : Relaid t u :=
  fun before p ss hp => h' before p ss (h before p ss hp)

theorem prepend (h : Relaid t t') (u : Text) : Relaid (u ++ t) (u ++ t') := by
  intro before p ss hp
  rw [← List.append_assoc] at hp ⊢
  exact h before (p ++ u) ss hp

theorem of_gap (h : Gap t t') : Relaid t t' := fun _ _ _ hp => hp.regap h

/-- A line may be moved to another margin, and have other blanks and another end behind it. -/
theorem line (hu : u.all isBlank = true) (hw : w.all isBlank = true) (h : Gap t t') (r : Text) :
    Relaid ('\n' :: (u ++ (r ++ t))) ('\n' :: (w ++ (r ++ t'))) := by
  have hend : Relaid ('\n' :: (w ++ (r ++ t))) ('\n' :: (w ++ (r ++ t'))) := by
    have hprepend := (of_gap h).prepend ('\n' :: (w ++ r))
    rwa [List.cons_append, List.cons_append, List.append_assoc, List.append_assoc] at hprepend
  exact (of_gap (Gap.margin hu hw (r ++ t))).trans hend

/-- Code at the start of a line is code on its own. -/
theorem linewise (h : Relaid ('\n' :: t) ('\n' :: t')) (ht : Linewise none t ss) :
    Linewise none t' ss := by
  have hfeed := h none [] ss ((Linewise.blank_iff (by decide)).mpr ht)
  exact (Linewise.blank_iff (by decide)).mp hfeed

end Relaid

end Stencil
