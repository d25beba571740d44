import Stencil.Proofs.Dialect.Python
import Stencil.Proofs.Token.Marks

/-! # Python code cut at the end of a line

  Code that is lexed without a fault may not be lexed so when it is cut at the end of its first
  line. There are two ways for that to happen:

  - a string goes on past the line end, and is not closed before it;
  - a number sign right after a colon opens a comment of the whole code, but looks like the flag of
    a format specifier once nothing follows the line. What the comment hid is then lexed as code.

  `BreaksAt` says that one of them happens, in terms of the marks of the whole code, and
  `lexes_iff_not_breaksAt` that nothing else can. The proof goes along the line. At each place
  `at?_python_cut` compares the token of the whole with that of the line: the two lexings go on
  together until one of the two ways shows, or a comment takes the rest of the line in both.
-/

namespace Stencil

open Dialect (python OpensNoString)

/-! ### Tokens of the line and of the whole -/

namespace Token

variable {before : Option Char} {r s w rest : Text} {x : Char}

/-- A blank opens no token. -/
theorem at?_python_of_isBlank {c : Char} (hc : isBlank c = true) (t : Text) :
    at? python before (c :: t) = .ok none := by
  have hne : c ≠ '#' := Dialect.ne_of_isBlank hc (by decide)
  rw [at?_python, if_neg fun h => hne h.1,
    quotedString_of_opensNoString (Dialect.opensNoString_of_isBlank hc)]
  rfl

theorem isSpecFlag_hash (before : Option Char) (t : Text) :
    isSpecFlag python ['#'] before ('#' :: t) = (before == some ':' && reachesBrace t) := rfl

/-- What a token of the whole becomes in the line, where the line ends before a blank. -/
theorem at?_python_cut {c : Char} (hs : s.head?.any isBlank = true) {o : Option Token}
    (h : at? python before (c :: (r ++ s)) = .ok o) :
    (o = none ∧ at? python before (c :: r) = .ok none) ∨
    (∃ n, o = some ⟨.string, n + 1⟩ ∧ n ≤ r.length ∧
      at? python before (c :: r) = .ok (some ⟨.string, n + 1⟩)) ∨
    (∃ u q v, o = some ⟨.string, u.length + 1⟩ ∧ r.length < u.length ∧
      c :: (r ++ s) = u ++ q :: v ∧ python.isQuote q = true ∧
      ∃ e, at? python before (c :: r) = .error e) ∨
    (c = '#' ∧ isSpecFlag python ['#'] before (c :: (r ++ s)) = false ∧
      o = some ⟨.comment, ((c :: (r ++ s)).takeWhile (· ≠ '\n')).length⟩) := by
  obtain ⟨x, s, rfl⟩ : ∃ x s', s = x :: s' := by
    cases s with
    | nil => exact absurd hs (by decide)
    | cons x s => exact ⟨x, s, rfl⟩
  have hopens := Dialect.opensNoString_of_isBlank (show isBlank x = true from hs)
  have hlead : (lead python before (c :: r ++ x :: s)).length < (c :: r).length :=
    lead_lt_of_opensNoString hopens (List.cons_ne_nil c r)
  rw [at?_python] at h
  split at h
  · next hcomment => exact .inr (.inr (.inr ⟨hcomment.1, hcomment.2, (Except.ok.inj h).symm⟩))
  · next hcomment =>
    -- The line opens no comment that the whole does not open.
    have hline : ¬ (c = '#' ∧ isSpecFlag python ['#'] before (c :: r) = false) := by
      rintro ⟨rfl, hflag⟩
      apply hcomment
      refine ⟨rfl, ?_⟩
      rw [← Bool.not_eq_true] at hflag ⊢
      intro hwhole
      exact hflag (isSpecFlag_of_append (r := '#' :: r) (s := x :: s) (by simp) hwhole)
    rw [at?_python, if_neg hline]
    obtain ⟨found, hfound, hmap⟩ := Outcome.map_ok_iff.mp h
    rw [Outcome.mapError_ok_iff] at hfound
    cases found with
    | none =>
      have hpart := quotedString_none_of_append hlead hfound
      rw [hpart]
      exact .inl ⟨hmap.symm, rfl⟩
    | some n =>
      obtain ⟨u, q, v, htext, rfl, hq⟩ := quotedString_ends hfound
      -- The string ends in the line, or at a quote behind it.
      by_cases hfits : u.length ≤ r.length
      · have hpart : quotedString python before (c :: r) = .ok (some (u.length + 1)) :=
          quotedString_of_append (r := c :: r) hfound (Nat.succ_le_succ hfits)
        rw [hpart]
        exact .inr (.inl ⟨u.length, hmap.symm, hfits, rfl⟩)
      · obtain ⟨e, he⟩ := quotedString_error_of_append hopens.noQuote hlead hfound
          (by rw [List.length_cons]; omega)
        rw [he]
        exact .inr (.inr (.inl ⟨u, q, v, hmap.symm, by omega, htext, hq, _, rfl⟩))

/-- A flag of the line that is none of the whole runs to the end of the line. -/
theorem runsOn_of_flag (hlast : ∀ c ∈ r.getLast?, isBlank c = false)
    (hpart : reachesBrace r = true) (hwhole : reachesBrace (r ++ s) = false) :
    r.all runsOn = true := by
  have hsplit := List.takeWhile_append_dropWhile (p := runsOn) (l := r)
  by_cases hrun : r.dropWhile runsOn = []
  · rw [hrun, List.append_nil] at hsplit
    rw [← hsplit]
    exact List.all_takeWhile
  · exfalso
    by_cases hblank : (r.dropWhile runsOn).dropWhile isBlank = []
    · -- The line would end in a blank.
      have hall := List.takeWhile_append_dropWhile (p := isBlank) (l := r.dropWhile runsOn)
      rw [hblank, List.append_nil] at hall
      obtain ⟨u, c, hu⟩ : ∃ u c, r.dropWhile runsOn = u ++ [c] :=
        ⟨_, _, (List.dropLast_concat_getLast hrun).symm⟩
      have hmem : c ∈ r.getLast? := by
        rw [← hsplit, hu, ← List.append_assoc]
        exact List.getLast?_concat
      have hblanks : (r.dropWhile runsOn).all isBlank = true := by
        rw [← hall]
        exact List.all_takeWhile
      have hc := List.all_eq_true.mp hblanks c (by rw [hu]; simp)
      rw [hlast c hmem] at hc
      exact absurd hc (by decide)
    · -- The run would stop at a character of the line, and the whole would be no flag for it.
      have hsame : reachesBrace (r ++ s) = reachesBrace r := by
        unfold reachesBrace
        rw [dropWhile_run_append, if_neg hrun, if_neg hblank]
        obtain ⟨c, t, ht⟩ := List.exists_cons_of_ne_nil hblank
        rw [ht]
        rfl
      rw [hsame, hpart] at hwhole
      exact absurd hwhole (by decide)

/-- A text that is all run looks like a flag. -/
theorem reachesBrace_of_runsOn (h : r.all runsOn = true) : reachesBrace r = true := by
  have hnil : r.dropWhile runsOn = [] := by
    rw [← List.append_nil r, List.dropWhile_append_of_pos (List.all_eq_true.mp h)]
    rfl
  unfold reachesBrace
  rw [hnil]
  rfl

end Token

/-! ### Marks around a line end -/

section lineEnd
variable {kind : Token.Kind} {pending offset : Nat} {before : Option Char} {r w rest : Text}
  {ms : List Mark}

theorem marksFrom_blank {c : Char} (hc : isBlank c = true) (t : Text) :
    marksFrom python kind 0 offset before (c :: t) =
      (marksFrom python kind 0 (offset + 1) none t).map (.plain :: ·) := by
  have hword := Dialect.isWordChar_of_isBlank hc
  have hcolon : c ≠ ':' := Dialect.ne_of_isBlank hc (by decide)
  rw [marksFrom, Token.at?_python_of_isBlank hc, ← marksFrom_after hword hcolon]

/-- Outside tokens, the blanks at the end of a line and the line end are plain. -/
theorem mark_lineEnd (hw : w.all isBlank = true)
    (h : marksFrom python kind 0 offset before (w ++ '\n' :: rest) = .ok ms) :
    ms[w.length]? = some .plain := by
  induction w generalizing offset before ms with
  | nil =>
    rw [List.nil_append, marksFrom_blank (by decide)] at h
    obtain ⟨ms, _, rfl⟩ := Outcome.map_ok_iff.mp h
    rfl
  | cons c w ih =>
    rw [List.all_cons, Bool.and_eq_true] at hw
    rw [List.cons_append, marksFrom_blank hw.1] at h
    obtain ⟨ms, hms, rfl⟩ := Outcome.map_ok_iff.mp h
    exact ih hw.2 hms

/-- Blanks in front do not change whether a text is lexed. -/
theorem marks_blanks_append {b t : Text} (hb : b.all isBlank = true) :
    (∃ ms, marks python (b ++ t) = .ok ms) ↔ ∃ ms, marks python t = .ok ms := by
  induction b with
  | nil => rfl
  | cons c b ih =>
    rw [List.all_cons, Bool.and_eq_true] at hb
    rw [← ih hb.2]
    unfold marks
    rw [List.cons_append, marksFrom_blank hb.1, Outcome.exists_map_ok_iff]
    exact exists_marksFrom_congr

/-! ### The two ways in which a line breaks -/

/-- The line `r`, with blanks `w` after it, is not lexed alone, although the code that goes on after
it has the marks `ms`. -/
inductive BreaksAt (before : Option Char) (r w : Text) (ms : List Mark) : Prop
  /-- A string goes on past the line end. -/
  | string (h : ms[(r ++ w).length]? = some (.inside .string))
  /-- A comment right after a colon looks like a flag, and hides what is not lexed alone. -/
  | comment {q u} (hr : r = q ++ '#' :: u) (hcolon : (before.toList ++ q).getLast? = some ':')
      (hopens : ms[q.length]? = some (.opens .comment)) (hrun : u.all Token.runsOn = true)
      (hfault : ¬ ∃ ms', marks python u = .ok ms')

/-- Where no comment opens, a line breaks further on or not at all. -/
theorem breaksAt_cons_iff {c : Char} {m : Mark} (hm : m ≠ .opens .comment) :
    BreaksAt before (c :: r) w (m :: ms) ↔ BreaksAt (some c) r w ms := by
  -- What stands in front of a flag further on does not depend on `before`.
  have hcolon (q : Text) :
      (before.toList ++ c :: q).getLast? = ((some c).toList ++ q).getLast? := by
    show _ = (c :: q).getLast?
    rw [List.getLast?_append, List.getLast?_cons]
    rfl
  constructor
  · intro h
    cases h with
    | string h => exact .string h
    | @comment q u hr hq hopens hrun hfault =>
      cases q with
      | nil => exact absurd (Option.some.inj hopens) hm
      | cons c' q =>
        obtain ⟨rfl, hr'⟩ := List.cons.inj hr
        rw [hcolon] at hq
        exact .comment hr' hq hopens hrun hfault
  · intro h
    cases h with
    | string h => exact .string h
    | @comment q u hr hq hopens hrun hfault =>
      refine .comment (q := c :: q) (by rw [hr]; rfl) ?_ hopens hrun hfault
      rw [hcolon]
      exact hq

/-- The character at which a string ends lies behind the line end, if it does not lie in the
line. -/
theorem quote_behind_lineEnd {u v : Text} {q : Char} (hw : w.all isBlank = true)
    (hq : python.isQuote q = true) (hlen : r.length ≤ u.length)
    (htext : r ++ (w ++ '\n' :: rest) = u ++ q :: v) : (r ++ w).length < u.length := by
  rw [← Nat.not_le]
  intro hle
  -- Otherwise the quote would be one of the blanks or the line feed.
  have hmem : q ∈ w ++ ['\n'] := by
    have hat : (r ++ (w ++ '\n' :: rest))[u.length]? = some q := by
      rw [htext, List.getElem?_append_right (Nat.le_refl _), Nat.sub_self]
      rfl
    have hsplit : w ++ '\n' :: rest = (w ++ ['\n']) ++ rest := by simp
    rw [List.length_append] at hle
    rw [List.getElem?_append_right hlen, hsplit,
      List.getElem?_append_left (by simp; omega)] at hat
    exact List.mem_of_getElem? hat
  have hblank : isBlank q = true := by
    rcases List.mem_append.mp hmem with h | h
    · exact List.all_eq_true.mp hw q h
    · obtain rfl := List.mem_singleton.mp h
      decide
  rw [(Dialect.opensNoString_of_isBlank hblank).noQuote] at hq
  exact absurd hq (by decide)

/-- A string that the line does not close breaks it: the line end is inside the string. -/
theorem breaksAt_of_string {c : Char} {u v : Text} {q : Char} (hw : w.all isBlank = true)
    (hq : python.isQuote q = true) (hlen : r.length < u.length)
    (htext : c :: (r ++ (w ++ '\n' :: rest)) = u ++ q :: v)
    (h : marksFrom python .string u.length offset (some c) (r ++ (w ++ '\n' :: rest)) = .ok ms) :
    BreaksAt before (c :: r) w (.opens .string :: ms) := by
  have hbehind := quote_behind_lineEnd (r := c :: r) hw hq hlen htext
  obtain ⟨u, rfl⟩ : ∃ u', u = c :: u' := by
    cases u with
    | nil => exact absurd hlen (Nat.not_lt_zero _)
    | cons c' u => exact ⟨u, by rw [(List.cons.inj htext).1]⟩
  have hinner : r ++ (w ++ '\n' :: rest) = u ++ [q] ++ v := by
    rw [List.append_assoc]
    exact (List.cons.inj htext).2
  have hlength : (c :: u).length = (u ++ [q]).length := by simp
  rw [hinner, hlength] at h
  obtain ⟨_, ms, rfl, _⟩ := marksFrom_append h
  apply BreaksAt.string
  rw [← hlength]
  show (List.replicate (c :: u).length _ ++ ms)[(r ++ w).length]? = _
  have hshort : (r ++ w).length < (c :: u).length := by
    rw [List.cons_append, List.length_cons] at hbehind
    omega
  rw [List.getElem?_append_left (by simpa using hshort), List.getElem?_replicate, if_pos hshort]

/-- Where a comment takes the rest of the line, the line can only break in the second way: if the
number sign looks like a flag, and what stands behind it is not lexed alone. -/
theorem breaksAt_of_comment (h : marksFrom python .comment (r ++ w).length offset (some '#')
      (r ++ (w ++ '\n' :: rest)) = .ok ms) :
    BreaksAt before ('#' :: r) w (.opens .comment :: ms) ↔
      before = some ':' ∧ r.all Token.runsOn = true ∧ ¬ ∃ ms', marks python r = .ok ms' := by
  rw [← List.append_assoc] at h
  obtain ⟨before', ms, rfl, hrest⟩ := marksFrom_append h
  have hfeed := mark_lineEnd (w := []) rfl hrest
  constructor
  · intro hbreaks
    cases hbreaks with
    | string hinside =>
      -- The line feed ends the comment, and is inside nothing.
      rw [List.cons_append, List.length_cons, List.getElem?_cons_succ,
        List.getElem?_append_right (by simp)] at hinside
      simp only [List.length_replicate, Nat.sub_self] at hinside
      rw [List.length_nil] at hfeed
      rw [hfeed] at hinside
      simp at hinside
    | @comment q u hr hcolon hopens hrun hfault =>
      cases q with
      | nil =>
        obtain rfl := (List.cons.inj hr).2
        refine ⟨?_, hrun, hfault⟩
        rw [List.append_nil] at hcolon
        cases before with
        | none => simp at hcolon
        | some c => exact hcolon
      | cons c q =>
        -- Inside the comment no other one opens.
        exfalso
        have hr' : r = q ++ '#' :: u := (List.cons.inj hr).2
        have hshort : q.length < (r ++ w).length := by
          rw [hr']
          simp only [List.length_append, List.length_cons]
          omega
        rw [List.length_cons, List.getElem?_cons_succ,
          List.getElem?_append_left (by simpa using hshort), List.getElem?_replicate,
          if_pos hshort] at hopens
        simp at hopens
  · rintro ⟨rfl, hrun, hfault⟩
    exact .comment (q := []) rfl rfl rfl hrun hfault

/-- The line from a number sign on, which opens a comment of the whole code, is lexed alone unless
it looks like a flag and what stands behind it is not lexed. -/
theorem lexes_hash_iff (hline : '\n' ∉ r) (hlast : ∀ c ∈ r.getLast?, isBlank c = false)
    (hwhole : Token.isSpecFlag python ['#'] before ('#' :: (r ++ (w ++ '\n' :: rest))) = false) :
    (∃ ms', marksFrom python kind 0 offset before ('#' :: r) = .ok ms') ↔
      ¬ (before = some ':' ∧ r.all Token.runsOn = true ∧ ¬ ∃ ms', marks python r = .ok ms') := by
  rw [marksFrom, Token.at?_python]
  by_cases hflag : Token.isSpecFlag python ['#'] before ('#' :: r) = true
  · rw [if_neg (by rw [hflag]; simp), Token.quotedString_of_opensNoString
      Dialect.opensNoString_hash]
    rw [Token.isSpecFlag_hash, Bool.and_eq_true, beq_iff_eq] at hflag
    rw [Token.isSpecFlag_hash, hflag.1] at hwhole
    -- The number sign is a flag of the line alone, so that the line is lexed on behind it.
    have hrun := Token.runsOn_of_flag hlast hflag.2 (by simpa using hwhole)
    have hlexes : (∃ ms', marksFrom python kind 0 (offset + 1) (some '#') r = .ok ms') ↔
        ∃ ms', marks python r = .ok ms' := by
      unfold marks
      rw [marksFrom_after (by decide) (by decide)]
      exact exists_marksFrom_congr
    refine Outcome.exists_map_ok_iff.trans ?_
    rw [hlexes]
    constructor
    · rintro hlexed ⟨_, _, hfault⟩
      exact hfault hlexed
    · intro h
      rw [not_and, not_and, Classical.not_not] at h
      exact h hflag.1 hrun
  · -- The number sign opens a comment of the line too, and that is the rest of it.
    rw [Bool.not_eq_true] at hflag
    have hlength : (('#' :: r).takeWhile (· ≠ '\n')).length = r.length + 1 := by
      have htake : ('#' :: r ++ []).takeWhile (· ≠ '\n') = '#' :: r :=
        Text.takeWhile_line (by simp [hline]) rfl
      rw [List.append_nil] at htake
      rw [htake]
      rfl
    rw [if_pos ⟨rfl, hflag⟩, hlength]
    dsimp only
    rw [marksFrom_of_le_pending (Nat.le_refl _)]
    refine ⟨fun _ => ?_, fun _ => ⟨_, rfl⟩⟩
    rintro ⟨rfl, hrun, _⟩
    rw [Token.isSpecFlag_hash, Token.reachesBrace_of_runsOn hrun] at hflag
    exact absurd hflag (by decide)

/-- A line with blanks after it, of code that is lexed without a fault, is lexed alone if and only
if it does not break. The induction is along the line, through the tokens of the whole code; the
first `pending` characters of the line belong to a token that ends within it. -/
theorem lexes_iff_not_breaksAt (hline : '\n' ∉ r) (hlineEnd : '\n' ∉ w)
    (hw : w.all isBlank = true) (hlast : ∀ c ∈ r.getLast?, isBlank c = false)
    (hpending : pending ≤ r.length)
    (h : marksFrom python kind pending offset before (r ++ (w ++ '\n' :: rest)) = .ok ms) :
    (∃ ms', marksFrom python kind pending offset before r = .ok ms') ↔
      ¬ BreaksAt before r w ms := by
  induction r generalizing kind pending offset before ms with
  | nil =>
    obtain rfl := Nat.le_zero.mp hpending
    refine ⟨fun _ hbreaks => ?_, fun _ => ⟨[], rfl⟩⟩
    cases hbreaks with
    | string hinside =>
      -- With no token pending at the end of the line, the line feed is in none.
      have hplain := mark_lineEnd hw h
      rw [List.nil_append, hplain] at hinside
      simp at hinside
    | comment hr => simp at hr
  | cons c r ih =>
    have hlast' : ∀ x ∈ r.getLast?, isBlank x = false := by
      intro x hx
      apply hlast x
      rw [List.getLast?_cons, Option.mem_def.mp hx]
      rfl
    have hline' : '\n' ∉ r := fun hmem => hline (List.mem_cons_of_mem c hmem)
    -- A step that both lexings take together.
    have step {kind : Token.Kind} {pending : Nat} {ms : List Mark} {m : Mark}
        (hm : m ≠ .opens .comment) (hpending : pending ≤ r.length)
        (h : marksFrom python kind pending (offset + 1) (some c) (r ++ (w ++ '\n' :: rest)) =
          .ok ms) :
        (∃ ms', (marksFrom python kind pending (offset + 1) (some c) r).map (m :: ·) = .ok ms') ↔
          ¬ BreaksAt before (c :: r) w (m :: ms) := by
      rw [breaksAt_cons_iff hm, ← ih hline' hlast' hpending h, Outcome.exists_map_ok_iff]
    cases pending with
    | succ pending =>
      rw [List.cons_append, marksFrom] at h
      obtain ⟨ms, hms, rfl⟩ := Outcome.map_ok_iff.mp h
      rw [marksFrom]
      exact step (by simp) (Nat.le_of_succ_le_succ hpending) hms
    | zero =>
      have hhead : (w ++ '\n' :: rest).head?.any isBlank = true := by
        cases w with
        | nil => rfl
        | cons x w => exact (Bool.and_eq_true _ _ ▸ hw : _ ∧ _).1
      rw [List.cons_append, marksFrom] at h
      rw [marksFrom]
      split at h
      · simp at h
      · next htoken =>
        obtain ⟨ms, hms, rfl⟩ := Outcome.map_ok_iff.mp h
        rcases Token.at?_python_cut hhead htoken with
          ⟨_, hpart⟩ | ⟨_, ho, _⟩ | ⟨_, _, _, ho, _⟩ | ⟨_, _, ho⟩
        · rw [hpart]
          exact step (by simp) (Nat.zero_le _) hms
        · simp at ho
        · simp at ho
        · simp at ho
      · simp at h
      · next kind' n htoken =>
        obtain ⟨ms, hms, rfl⟩ := Outcome.map_ok_iff.mp h
        rcases Token.at?_python_cut hhead htoken with
          ⟨ho, _⟩ | ⟨_, ho, hfits, hpart⟩ | ⟨u, q, v, ho, hlong, htext, hq, e, hpart⟩ |
          ⟨rfl, hwhole, ho⟩
        · simp at ho
        · -- A string within the line.
          obtain ⟨rfl, rfl⟩ : kind' = .string ∧ n = _ := by simpa using ho
          rw [hpart]
          exact step (by simp) hfits hms
        · -- A string that goes on past the line end.
          obtain ⟨rfl, rfl⟩ : kind' = .string ∧ n = _ := by simpa using ho
          rw [hpart]
          constructor
          · rintro ⟨_, h⟩
            simp at h
          · intro hnot
            exact absurd (breaksAt_of_string hw hq hlong htext hms) hnot
        · -- A comment to the line end.
          have hlength : (('#' :: (r ++ (w ++ '\n' :: rest))).takeWhile (· ≠ '\n')).length =
              (r ++ w).length + 1 := by
            have hmem : '\n' ∉ '#' :: (r ++ w) := by simp [hline', hlineEnd]
            rw [← List.append_assoc, ← List.cons_append, Text.takeWhile_line hmem rfl]
            rfl
          rw [hlength] at ho
          obtain ⟨rfl, hn⟩ := Token.mk.inj (Option.some.inj ho)
          obtain rfl := Nat.succ.inj hn
          rw [breaksAt_of_comment hms]
          exact lexes_hash_iff hline' hlast' hwhole

end lineEnd

end Stencil
