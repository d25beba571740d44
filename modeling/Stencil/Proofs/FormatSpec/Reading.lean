import Stencil.Proofs.FormatSpec
import Stencil.Proofs.Number
import Stencil.Proofs.Text.Cut

/-! # What a format specifier is read as

  Each reader takes one part off the front of a text, if the part is there, and leaves the rest. A
  specifier is read by running the readers in a row, with a check or two behind each of them.

  * `readSign_eq_iff` and its like say what a reader takes, and from what is left that it took all;
  * `Spelled` lists the readings and the checks of a whole specifier;
  * `read_ok_iff` says that a text is read as a specifier just when they all succeed.
-/

namespace Stencil

/-! ### Markers -/

theorem Alignment.ofChar?_eq_some_iff {c : Char} {a : Alignment} :
    Alignment.ofChar? c = some a ↔ c = a.char := by
  constructor
  · intro h
    unfold Alignment.ofChar? at h
    split at h
    · next hc =>
      obtain rfl := Option.some.inj h
      exact hc
    split at h
    · next hc =>
      obtain rfl := Option.some.inj h
      exact hc
    split at h
    · next hc =>
      obtain rfl := Option.some.inj h
      exact hc
    · cases h
  · rintro rfl
    cases a <;> rfl

theorem Alignment.bind_ofChar?_eq_none_iff {o : Option Char} :
    o.bind Alignment.ofChar? = none ↔ ∀ a : Alignment, o ≠ some a.char := by
  simp [Option.eq_none_iff_forall_ne_some, Alignment.ofChar?_eq_some_iff, Option.bind_eq_some_iff]

theorem Sign.ofChar?_eq_some_iff {c : Char} {s : Sign} : Sign.ofChar? c = some s ↔ c = s.char := by
  constructor
  · intro h
    unfold Sign.ofChar? at h
    split at h
    · next hc =>
      obtain rfl := Option.some.inj h
      exact hc
    split at h
    · next hc =>
      obtain rfl := Option.some.inj h
      exact hc
    · cases h
  · rintro rfl
    cases s <;> rfl

namespace FormatSpec

/-! ### The readers one by one -/

section readers
variable {t rest : Text}

/-- A fill character is told by the marker behind it. So where no fill is read, no marker is left at
the front, and where no alignment is read either, none is left behind the first character. -/
theorem readAlignment_eq_iff {fill : Option Char} {align : Option Alignment} :
    readAlignment t = (fill, align, rest) ↔
      t = fill.toList ++ (align.map Alignment.char).toList ++ rest ∧
      (fill.isSome → align.isSome) ∧
      (fill = none → ∀ a : Alignment, rest.head? ≠ some a.char) ∧
      (align = none → ∀ a : Alignment, (rest.drop 1).head? ≠ some a.char) := by
  constructor
  · intro h
    cases t with
    | nil =>
      obtain ⟨rfl, rfl, rfl⟩ : none = fill ∧ none = align ∧ [] = rest := by
        simpa [readAlignment] using h
      simp
    | cons c t =>
      rw [readAlignment] at h
      -- The marker behind the first character is looked at before that character is.
      cases hnext : t.head?.bind Alignment.ofChar? with
      | some a =>
        obtain ⟨b, hb, hab⟩ := Option.bind_eq_some_iff.mp hnext
        obtain rfl := Alignment.ofChar?_eq_some_iff.mp hab
        obtain ⟨t, rfl⟩ := List.head?_eq_some_iff.mp hb
        rw [hnext] at h
        obtain ⟨rfl, rfl, rfl⟩ : some c = fill ∧ some a = align ∧ t = rest := by simpa using h
        simp
      | none =>
        rw [hnext] at h
        rw [Alignment.bind_ofChar?_eq_none_iff] at hnext
        cases hc : Alignment.ofChar? c with
        | some a =>
          rw [hc] at h
          obtain rfl := Alignment.ofChar?_eq_some_iff.mp hc
          obtain ⟨rfl, rfl, rfl⟩ : none = fill ∧ some a = align ∧ t = rest := by simpa using h
          simpa using hnext
        | none =>
          rw [hc] at h
          obtain ⟨rfl, rfl, rfl⟩ : none = fill ∧ none = align ∧ c :: t = rest := by simpa using h
          refine ⟨rfl, fun h => absurd h Bool.false_ne_true, fun _ a ha => ?_, fun _ => hnext⟩
          rw [Alignment.ofChar?_eq_some_iff.mpr (Option.some.inj ha)] at hc
          cases hc
  · rintro ⟨rfl, hfill, hfirst, hsecond⟩
    cases fill with
    | some c =>
      obtain ⟨a, rfl⟩ := Option.isSome_iff_exists.mp (hfill rfl)
      cases a <;> rfl
    | none =>
      have hfirst := Alignment.bind_ofChar?_eq_none_iff.mpr (hfirst rfl)
      cases align with
      | some a =>
        show readAlignment (a.char :: rest) = _
        rw [readAlignment, hfirst, Alignment.ofChar?_eq_some_iff.mpr rfl]
      | none =>
        show readAlignment rest = _
        cases rest with
        | nil => rfl
        | cons c rest =>
          have hsecond := Alignment.bind_ofChar?_eq_none_iff.mpr (hsecond rfl)
          rw [List.drop_one, List.tail_cons] at hsecond
          rw [List.head?_cons, Option.bind_some] at hfirst
          rw [readAlignment, hsecond, hfirst]

theorem readSign_eq_iff {sign : Option Sign} :
    readSign t = (sign, rest) ↔
      t = (sign.map Sign.char).toList ++ rest ∧
      (sign = none → ∀ s : Sign, rest.head? ≠ some s.char) := by
  constructor
  · intro h
    cases t with
    | nil =>
      obtain ⟨rfl, rfl⟩ : none = sign ∧ [] = rest := by simpa [readSign] using h
      simp
    | cons c t =>
      rw [readSign] at h
      split at h
      · next s hs =>
        obtain rfl := Sign.ofChar?_eq_some_iff.mp hs
        obtain ⟨rfl, rfl⟩ : some s = sign ∧ t = rest := by simpa using h
        simp
      · next hc =>
        obtain ⟨rfl, rfl⟩ : none = sign ∧ c :: t = rest := by simpa using h
        refine ⟨rfl, fun _ s hs => ?_⟩
        rw [Sign.ofChar?_eq_some_iff.mpr (Option.some.inj hs)] at hc
        cases hc
  · rintro ⟨rfl, hhead⟩
    cases sign with
    | some s => cases s <;> rfl
    | none =>
      show readSign rest = _
      cases rest with
      | nil => rfl
      | cons c rest =>
        have hc : Sign.ofChar? c = none := by
          rw [Option.eq_none_iff_forall_ne_some]
          intro s hs
          exact hhead rfl s (congrArg some (Sign.ofChar?_eq_some_iff.mp hs))
        rw [readSign, hc]

theorem readSign_fst_eq_none_iff :
    (readSign t).1 = none ↔ ∀ s : Sign, t.head? ≠ some s.char := by
  constructor
  · intro h
    obtain ⟨ht, hhead⟩ := readSign_eq_iff.mp (Prod.mk.eta (p := readSign t)).symm
    rw [h] at ht
    rw [show t = (readSign t).2 from ht]
    exact hhead h
  · intro h
    have hnone : readSign t = (none, t) := readSign_eq_iff.mpr ⟨rfl, fun _ => h⟩
    rw [hnone]

theorem readFlag_eq_iff {flag : Char} {found : Bool} :
    readFlag flag t = (found, rest) ↔
      t = (if found then [flag] else []) ++ rest ∧ (found = false → rest.head? ≠ some flag) := by
  constructor
  · intro h
    cases t with
    | nil =>
      obtain ⟨rfl, rfl⟩ : false = found ∧ [] = rest := by simpa [readFlag] using h
      simp
    | cons c t =>
      by_cases hc : c = flag
      · obtain ⟨rfl, rfl⟩ : true = found ∧ t = rest := by simpa [readFlag, hc] using h
        simp [hc]
      · obtain ⟨rfl, rfl⟩ : false = found ∧ c :: t = rest := by simpa [readFlag, hc] using h
        simp [hc]
  · rintro ⟨rfl, hhead⟩
    cases found with
    | true => exact if_pos rfl
    | false =>
      show readFlag flag rest = _
      cases rest with
      | nil => rfl
      | cons c rest => exact if_neg fun hc => hhead rfl (congrArg some hc)

theorem readFlag_fst_eq_false_iff {flag : Char} :
    (readFlag flag t).1 = false ↔ t.head? ≠ some flag := by
  constructor
  · intro h
    obtain ⟨ht, hhead⟩ := readFlag_eq_iff.mp (Prod.mk.eta (p := readFlag flag t)).symm
    rw [h] at ht
    rw [show t = (readFlag flag t).2 from ht]
    exact hhead h
  · intro h
    have hnone : readFlag flag t = (false, t) := readFlag_eq_iff.mpr ⟨rfl, fun _ => h⟩
    rw [hnone]

/-- The number that a run of digits stands for, if it has any. -/
def numberOf (digits : Text) : Option Nat :=
  if digits = [] then none else some (decimalNotation digits)

theorem readCount_ok_iff {n : Option Nat} :
    readCount t = .ok (n, rest) ↔
      ∃ digits, t = digits ++ rest ∧ IsNumeral digits ∧ (∀ c ∈ rest.head?, isDigit c = false) ∧
        numberOf digits = n := by
  unfold readCount numberOf
  dsimp only
  constructor
  · intro h
    -- The digits are the longest run of them, which is unique.
    have hsplit := (List.takeWhile_append_dropWhile (p := isDigit) (l := t)).symm
    have hends : ∀ c ∈ (t.dropWhile isDigit).head?, isDigit c = false := by
      intro c hc
      have hnot := List.head?_dropWhile_not isDigit t
      rw [Option.mem_def.mp hc] at hnot
      exact hnot
    refine ⟨t.takeWhile isDigit, ?_⟩
    split at h
    · next hnone =>
      obtain ⟨rfl, rfl⟩ := Prod.mk.inj (Except.ok.inj h)
      rw [List.isEmpty_iff] at hnone
      rw [hnone] at hsplit ⊢
      exact ⟨hsplit, .nil, hends, if_pos rfl⟩
    · next hsome =>
      obtain ⟨value, hvalue, h⟩ := Outcome.bind_ok_iff.mp h
      obtain ⟨rfl, rfl⟩ := Prod.mk.inj (Except.ok.inj h)
      rw [List.isEmpty_iff] at hsome
      obtain ⟨hnumeral, rfl⟩ := readNumber_ok_iff.mp hvalue
      exact ⟨hsplit, hnumeral, hends, if_neg hsome⟩
  · rintro ⟨digits, rfl, hnumeral, hends, rfl⟩
    have hdigits := hnumeral.digits
    rw [Text.takeWhile_run_append hdigits hends, Text.dropWhile_run_append hdigits hends]
    by_cases hnone : digits = []
    · rw [hnone]
      rfl
    · rw [if_neg hnone, if_neg (mt List.isEmpty_iff.mp hnone),
        readNumber_ok_iff.mpr ⟨hnumeral, rfl⟩]
      rfl

end readers
/-! ### The readers in a row -/

/-- The precision at the start of a text, if there is a point, and the rest. -/
inductive Pointed : Text → Option Nat → Text → Prop where
  | none {t : Text} (h : t.head? ≠ some '.') : Pointed t none t
  | some {t rest : Text} {n : Nat} (h : readCount t = .ok (some n, rest)) :
      Pointed ('.' :: t) (some n) rest

theorem pointed_point_iff {t rest : Text} {precision : Option Nat} :
    Pointed ('.' :: t) precision rest ↔
      ∃ n, precision = some n ∧ readCount t = .ok (some n, rest) := by
  constructor
  · rintro (h | h)
    · exact absurd rfl h
    · exact ⟨_, rfl, h⟩
  · rintro ⟨n, rfl, h⟩
    exact .some h

theorem pointed_iff_of_ne {t rest : Text} {precision : Option Nat} (ht : t.head? ≠ some '.') :
    Pointed t precision rest ↔ precision = none ∧ rest = t := by
  constructor
  · rintro (h | h)
    · exact ⟨rfl, rfl⟩
    · exact absurd rfl ht
  · rintro ⟨rfl, rfl⟩
    exact .none ht

/-- The text `t` is read as `s` part by part, each part in the rest of the one before it: what is
left behind the alignment is `signed`, behind the sign `alternated`, behind the flags `padded` and
`counted`, and behind the width `pointed`. -/
structure Spelled (d : Dialect) (t : Text) (s : FormatSpec)
    (signed alternated padded counted pointed : Text) : Prop where
  raw : s.raw = t
  alignment : readAlignment t = (s.fill, s.align, signed)
  noBrace : ∀ c ∈ s.fill, c ≠ '\x7b' ∧ c ≠ '\x7d'
  sign : readSign signed = (s.sign, alternated)
  oneSign : s.sign.isSome → (readSign alternated).1 = none
  alternate : readFlag '#' alternated = (s.alternate, padded)
  oneAlternate : s.alternate → (readFlag '#' padded).1 = false
  padZero : readFlag '0' padded = (s.padZero, counted)
  oneZero : s.padZero → (readFlag '0' counted).1 = false
  zeroAlone : s.padZero → s.align = none
  width : readCount counted = .ok (s.width, pointed)
  precision : Pointed pointed s.precision s.typeFlag
  type : s.typeFlag ∈ d.typeFlags
  debugSign : s.sign.isSome → s.typeFlag.endsWith ['?'] → d.debugAcceptsSign

/-- A text is read as a specifier just when all its readings and checks succeed. Each check is taken
off what comes behind it, from the last one to the first. -/
theorem read_ok_iff {d : Dialect} {offset : Int} {t : Text} {s : FormatSpec} :
    read d offset t = .ok s ↔
      ∃ signed alternated padded counted pointed,
        Spelled d t s signed alternated padded counted pointed := by
  -- No reader depends on a check, so that all of them up to the width are run first.
  rcases halign : readAlignment t with ⟨fill, align, signed⟩
  rcases hsign : readSign signed with ⟨sign, alternated⟩
  rcases halternate : readFlag '#' alternated with ⟨alternate, padded⟩
  rcases hzero : readFlag '0' padded with ⟨padZero, counted⟩
  unfold read
  simp -zeta only [halign, hsign, halternate, hzero]
  extract_lets place refuse counts padding zeros alternates signs
  have checked {c : Bool} {next : Unit → Except Failure FormatSpec} {fault : SpecFault} {o : Int} :
      (if c = true then refuse fault o >>= next else next ()) = .ok s ↔
        c = false ∧ next () = .ok s := by
    cases c <;> simp [refuse]
  have hcounts : counts () = .ok s ↔
      ∃ width pointed precision type, readCount counted = .ok (width, pointed) ∧
        Pointed pointed precision type ∧ type ∈ d.typeFlags ∧
        (sign.isSome → type.endsWith ['?'] → d.debugAcceptsSign) ∧
        ⟨t, fill, align, sign, alternate, padZero, width, precision, type⟩ = s := by
    unfold counts
    rcases readCount counted with e | ⟨width, pointed⟩
    -- Digits that are no number end the reading, and there is no width then.
    · simp [bind, Except.bind]
    rw [Outcome.mapError_ok, Outcome.ok_bind]
    extract_lets typed
    have htyped {precision : Option Nat} {type : Text} : typed (precision, type) = .ok s ↔
        type ∈ d.typeFlags ∧ (sign.isSome → type.endsWith ['?'] → d.debugAcceptsSign) ∧
          ⟨t, fill, align, sign, alternate, padZero, width, precision, type⟩ = s := by
      unfold typed
      extract_lets spec finish
      rw [← List.contains_iff_mem]
      cases d.typeFlags.contains type with
      | false => simp [refuse]
      | true =>
        rw [if_pos rfl]
        cases sign with
        | none => simp [finish, spec, pure, Except.pure]
        | some sign =>
          rw [checked]
          simp [finish, spec, pure, Except.pure]
    refine (show _ ↔ ∃ precision type, Pointed pointed precision type ∧
      typed (precision, type) = .ok s from ?_).trans ?_
    · split
      · next more hmore =>
        obtain rfl : pointed = '.' :: more := hmore
        simp only [pointed_point_iff]
        -- Behind the point, no number and no digits are both refused.
        rcases readCount more with e | ⟨_ | n, rest⟩
        · simp [bind, Except.bind]
        · simp [refuse, bind, Except.bind]
        · simp [bind, Except.bind, pure, Except.pure]
      · next hno =>
        have hhead : pointed.head? ≠ some '.' := by
          intro h
          obtain ⟨more, hmore⟩ := List.head?_eq_some_iff.mp h
          exact hno more hmore
        simp [pointed_iff_of_ne hhead, bind, Except.bind, pure, Except.pure]
    · simp [htyped]
  have hpadding : padding () = .ok s ↔ (padZero → align = none) ∧ counts () = .ok s := by
    rw [checked]
    simp
  have hzeros : zeros () = .ok s ↔
      (padZero → (readFlag '0' counted).1 = false) ∧ padding () = .ok s := by
    rw [checked]
    simp
  have halternates : alternates () = .ok s ↔
      (alternate → (readFlag '#' padded).1 = false) ∧ zeros () = .ok s := by
    rw [checked]
    simp
  have hsigns : signs () = .ok s ↔
      (sign.isSome → (readSign alternated).1 = none) ∧ alternates () = .ok s := by
    unfold signs
    cases sign.isSome with
    | false => simp
    | true => rcases readSign alternated with ⟨_ | again, rest⟩ <;> simp [refuse]
  refine (show _ ↔ (∀ c ∈ fill, c ≠ '\x7b' ∧ c ≠ '\x7d') ∧ signs () = .ok s
    from ?_).trans ?_
  · cases fill with
    | none => simp
    | some c =>
      rw [checked]
      simp
  rw [hsigns, halternates, hzeros, hpadding, hcounts]
  constructor
  · rintro ⟨hbrace, hone, htwo, hthree, hfour, width, pointed, precision, type, hwidth, hpointed,
      htype, hdebug, rfl⟩
    exact ⟨_, _, _, _, _, {
      raw := rfl, alignment := halign, noBrace := hbrace, sign := hsign, oneSign := hone,
      alternate := halternate, oneAlternate := htwo, padZero := hzero, oneZero := hthree,
      zeroAlone := hfour, width := hwidth, precision := hpointed, type := htype,
      debugSign := hdebug }⟩
  · rintro ⟨_, _, _, _, pointed, h⟩
    obtain ⟨rfl, hrest⟩ := Prod.mk.inj (halign.symm.trans h.alignment)
    obtain ⟨rfl, rfl⟩ := Prod.mk.inj hrest
    obtain ⟨rfl, rfl⟩ := Prod.mk.inj (hsign.symm.trans h.sign)
    obtain ⟨rfl, rfl⟩ := Prod.mk.inj (halternate.symm.trans h.alternate)
    obtain ⟨rfl, rfl⟩ := Prod.mk.inj (hzero.symm.trans h.padZero)
    refine ⟨h.noBrace, h.oneSign, h.oneAlternate, h.oneZero, h.zeroAlone, s.width, pointed,
      s.precision, s.typeFlag, h.width, h.precision, h.type, h.debugSign, ?_⟩
    rw [← h.raw]

end FormatSpec
end Stencil
