import Stencil.Pattern.Matching

/-! # Groups that every match records

  A match of a pattern records the extents of the groups that took part in it. For some groups the
  tree alone tells that they took part, whatever the text is (`Node.records`). A tree is run with a
  continuation, so the statement about it is one about steps: a step that succeeds does so by calling
  its continuation at some place, and there the group is recorded (`Leads`).

  - `leads_run`: what the tree tells of a group holds for every run.
  - `recorded_of_mem_matchesIn`: it holds for every match that is found in a text.
-/

namespace Stencil.Pattern

variable {text : Array Char} {g : Nat}

/-- A group has been matched on the way to a place. -/
def Place.Recorded (g : Nat) (p : Place) : Prop := (p.extent? g).isSome

/-- Whether every match of a tree records the group `g`. -/
def Node.records (g : Nat) : Node → Bool
  | .seq a b => a.records g || b.records g
  | .alt a b => a.records g && b.records g
  | .repetition _ least _ body => 0 < least && body.records g
  | .group (some i) body => i = g || body.records g
  | .group none body | .atomic body => body.records g
  | .ahead negated body | .behind negated _ body => !negated && body.records g
  | .condition _ yes no => yes.records g && no.records g
  | _ => false

/-- A step that succeeds has called its continuation at a place where the group `g` is recorded, if
it was recorded before the step or `b` is set. -/
def Leads (g : Nat) (b : Bool) (step : Continuation → Continuation) : Prop :=
  ∀ k p q, step k p = some q → ∃ p', k p' = some q ∧ (p.Recorded g ∨ b = true → p'.Recorded g)

/-! ### Places -/

theorem recorded_cons {p : Place} {i a b : Nat} (h : i = g ∨ p.Recorded g) :
    Place.Recorded g { p with groups := (i, a, b) :: p.groups } := by
  unfold Place.Recorded Place.extent? at h ⊢
  rw [Option.isSome_map, List.find?_cons]
  split
  · rfl
  · next hi =>
    rcases h with rfl | h
    · simp at hi
    · rwa [Option.isSome_map] at h

/-! ### Steps -/

namespace Leads

variable {a b : Bool} {s s' : Continuation → Continuation}

/-- Of two attempts one after the other, one has succeeded. -/
theorem either {x y : Option Place} {q : Place}
    (h : (match x with
      | some q => some q
      | none => y) = some q) : x = some q ∨ y = some q := by
  cases x with
  | none => exact .inr h
  | some q' => exact .inl h

/-- A step that only tests the place, or moves on in the text, keeps what is recorded. -/
theorem of_move (h : ∀ k p q, s k p = some q → ∃ pos, k { p with pos := pos } = some q) :
    Leads g false s := by
  intro k p q hrun
  obtain ⟨pos, hk⟩ := h k p q hrun
  refine ⟨_, hk, fun hp => ?_⟩
  rcases hp with hp | hp
  · exact hp
  · cases hp

/-- One step after the other records what either of them does. -/
theorem comp (hs : Leads g a s) (hs' : Leads g b s') : Leads g (a || b) fun k => s (s' k) := by
  intro k p q hrun
  obtain ⟨p₁, hrun₁, hrec₁⟩ := hs _ p q hrun
  obtain ⟨p₂, hk, hrec₂⟩ := hs' k p₁ q hrun₁
  refine ⟨p₂, hk, fun h => hrec₂ ?_⟩
  rw [Bool.or_eq_true] at h
  rcases h with h | h | h
  · exact .inl (hrec₁ (.inl h))
  · exact .inl (hrec₁ (.inr h))
  · exact .inr h

/-- Less may be claimed of a step than it does. -/
theorem of_imp (hs : Leads g a s) (h : b = true → a = true) : Leads g b s := by
  intro k p q hrun
  obtain ⟨p', hk, hrec⟩ := hs k p q hrun
  exact ⟨p', hk, fun hp => hrec (hp.imp_right h)⟩

/-- A step that is run to its first success, and then goes on from there. -/
theorem first (hs : Leads g a s) {p q : Place} (h : s some p = some q) :
    p.Recorded g ∨ a = true → q.Recorded g := by
  obtain ⟨p', hp', hrec⟩ := hs some p q h
  obtain rfl := Option.some.inj hp'
  exact hrec

theorem one {test : Char → Bool} : Leads g false (Pattern.one text test) := by
  apply of_move
  intro k p q h
  unfold Pattern.one at h
  split at h
  · split at h
    · exact ⟨p.pos + 1, h⟩
    · cases h
  · cases h

theorem all {f : Folding} {t : Text} : Leads g false (Pattern.all text f t) := by
  induction t with
  | nil => exact of_move fun k p q h => ⟨p.pos, h⟩
  | cons c t ih => exact one.comp ih

/-- A step that is taken at least once records what it does once. -/
theorem times (hs : Leads g a s) (n : Nat) : Leads g (0 < n && a) (Pattern.times s n) := by
  induction n with
  | zero => exact of_move fun k p q h => ⟨p.pos, h⟩
  | succ n ih =>
    refine (hs.comp ih).of_imp fun h => ?_
    rw [Bool.and_eq_true] at h
    rw [h.2, Bool.true_or]

/-- A step that may be left out keeps what is recorded. -/
theorem upTo (hs : Leads g a s) (many : Bool) (n : Nat) (last : Option Nat) :
    Leads g false (Pattern.upTo s many n last) := by
  induction n generalizing last with
  | zero => exact of_move fun k p q h => ⟨p.pos, h⟩
  | succ n ih =>
    intro k p q h
    rw [Pattern.upTo] at h
    have h : k p = some q ∨
        (if last = some p.pos then none
          else s (Pattern.upTo s many n (some p.pos) k) p) = some q := by
      split at h
      · exact (either h).symm
      · exact either h
    rcases h with h | h
    · exact ⟨p, h, fun hp => hp.elim id nofun⟩
    · split at h
      · cases h
      · exact (hs.comp (ih _)).of_imp (b := false) nofun k p q h

end Leads

/-! ### Trees -/

/-- A test of the neighbourhood goes on with the groups it has found, at the place it started. -/
theorem Leads.around {a negated : Bool} {found : Option Place} {k : Continuation} {p q : Place}
    (h : (match found with
      | some q => if negated then none else k { p with groups := q.groups }
      | none => if negated then k p else none) = some q)
    (hfound : ∀ p', found = some p' → p.Recorded g ∨ a = true → p'.Recorded g) :
    ∃ p', k p' = some q ∧ (p.Recorded g ∨ (!negated && a) = true → p'.Recorded g) := by
  cases found with
  | none =>
    cases negated with
    | false => cases h
    | true => exact ⟨p, h, fun hp => hp.elim id nofun⟩
  | some p' =>
    cases negated with
    | true => cases h
    | false => exact ⟨_, h, hfound p' rfl⟩

/-- What a tree tells of a group holds for every run of it. -/
theorem leads_run (n : Node) : Leads g (n.records g) (n.run text) := by
  induction n with
  | empty => exact Leads.of_move fun k p q h => ⟨p.pos, h⟩
  | char | any | set => exact Leads.one
  | seq a b iha ihb => exact iha.comp ihb
  | alt a b iha ihb =>
    intro k p q h
    rcases Leads.either h with h | h
    · exact iha.of_imp (fun h => (Bool.and_eq_true _ _ ▸ h).1) k p q h
    · exact ihb.of_imp (fun h => (Bool.and_eq_true _ _ ▸ h).2) k p q h
  | repetition appetite least most body ih =>
    -- However many more runs are tried, the body has run as often as it has to.
    have taken (many : Bool) (more : Nat) : Leads g (0 < least && body.records g)
        fun k => times (body.run text) least (upTo (body.run text) many more none k) :=
      ((ih.times least).comp (ih.upTo many more none)).of_imp (by simp)
    intro k p q h
    cases appetite with
    | greedy => exact taken true _ k p q h
    | lazy => exact taken false _ k p q h
    | possessive =>
      rw [Node.run] at h
      split at h
      · next q' hq' => exact ⟨q', h, (taken true _).first hq'⟩
      · cases h
  | group index body ih =>
    cases index with
    | none => exact ih
    | some i =>
      intro k p q h
      obtain ⟨p', hk, hrec⟩ := ih _ p q h
      refine ⟨_, hk, fun hp => recorded_cons ?_⟩
      -- The group has been recorded already, or it is this one or one of the body.
      rcases hp with hp | hp
      · exact .inr (hrec (.inl hp))
      · rw [Node.records, Bool.or_eq_true, decide_eq_true_iff] at hp
        exact hp.imp_right fun h => hrec (.inr h)
  | back f index least most =>
    intro k p q h
    rw [Node.run] at h
    split at h
    · exact Leads.all k p q h
    · cases h
  | ahead negated body ih =>
    intro k p q h
    exact Leads.around h fun p' hp' => ih.first hp'
  | behind negated width body ih =>
    intro k p q h
    refine Leads.around h fun p' hp' => ?_
    split at hp'
    · cases hp'
    · exact ih.first (p := { p with pos := p.pos - width }) hp'
  | atomic body ih =>
    intro k p q h
    rw [Node.run] at h
    split at h
    · next q' hq' => exact ⟨q', h, ih.first hq'⟩
    · cases h
  | condition index yes no ihyes ihno =>
    intro k p q h
    rw [Node.run] at h
    split at h
    · exact ihyes.of_imp (fun h => (Bool.and_eq_true _ _ ▸ h).1) k p q h
    · exact ihno.of_imp (fun h => (Bool.and_eq_true _ _ ▸ h).2) k p q h
  | start | stop | textStart | textEnd =>
    apply Leads.of_move
    intro k p q h
    rw [Node.run] at h
    split at h
    · exact ⟨p.pos, h⟩
    · cases h
  | boundary negated ascii =>
    apply Leads.of_move
    intro k p q h
    rw [Node.run] at h
    dsimp only at h
    split at h
    · exact ⟨p.pos, h⟩
    · cases h

/-! ### Matches -/

variable {p : Pattern} {m : Match}

theorem recorded_of_matchAt? (hg : p.root.records g = true) {nonempty : Bool} {pos : Nat}
    (h : matchAt? p text nonempty pos = some m) : m.reached.Recorded g := by
  obtain ⟨q, hrun, rfl⟩ := Option.map_eq_some_iff.mp h
  obtain ⟨p', hk, hrec⟩ := leads_run p.root _ _ q hrun
  split at hk
  · cases hk
  · obtain rfl := Option.some.inj hk
    exact hrec (.inr hg)

theorem recorded_of_searchFrom (hg : p.root.records g = true) {nonempty : Bool} {count pos : Nat}
    (h : searchFrom p text nonempty count pos = some m) : m.reached.Recorded g := by
  induction count generalizing nonempty pos with
  | zero => cases h
  | succ count ih =>
    rw [searchFrom] at h
    split at h
    · next hm =>
      obtain rfl := Option.some.inj h
      exact recorded_of_matchAt? hg hm
    · exact ih h

theorem recorded_of_mem_matchesFrom (hg : p.root.records g = true) {nonempty : Bool}
    {count pos : Nat} (h : m ∈ matchesFrom p text count nonempty pos) : m.reached.Recorded g := by
  induction count generalizing nonempty pos with
  | zero => cases h
  | succ count ih =>
    rw [matchesFrom] at h
    split at h
    · cases h
    · next hfound =>
      rcases List.mem_cons.mp h with rfl | h
      · exact recorded_of_searchFrom hg hfound
      · exact ih h

/-- A group that every match of the tree records is recorded by every match in a text. -/
theorem recorded_of_mem_matchesIn (hg : p.root.records g = true) {t : Text}
    (h : m ∈ p.matchesIn t) : m.reached.Recorded g := recorded_of_mem_matchesFrom hg h

end Stencil.Pattern
