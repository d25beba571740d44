import Stencil.FormatSpec
import Stencil.Proofs.Outcome

/-! # Where a format specifier is refused

  A format specifier is read part by part, each from what the parts before it left over. So a fault
  that is reported where some rest begins lies in the specifier, from its start to its end.
-/

namespace Stencil

open Outcome (FailsOnly)

/-- A reason to refuse the specifier `t`, which stands at `offset`: digits of it spell no number, or
a fault lies in it. -/
def Failure.InSpec (offset : Int) (t : Text) : Failure → Prop
  | .number _ => True
  | .template ⟨.spec _, o⟩ => offset ≤ o ∧ o ≤ offset + t.length
  | _ => False

namespace FormatSpec

/-! ### What is left over -/

theorem length_readAlignment_le (t : Text) : (readAlignment t).2.2.length ≤ t.length := by
  cases t with
  | nil => exact Nat.le_refl _
  | cons c t =>
    rw [readAlignment]
    split
    · rw [List.length_drop, List.length_cons]
      omega
    · split
      · exact Nat.le_succ _
      · exact Nat.le_refl _

theorem length_readSign_le (t : Text) : (readSign t).2.length ≤ t.length := by
  cases t with
  | nil => exact Nat.le_refl _
  | cons c t =>
    rw [readSign]
    split
    · exact Nat.le_succ _
    · exact Nat.le_refl _

theorem length_readFlag_le (flag : Char) (t : Text) : (readFlag flag t).2.length ≤ t.length := by
  cases t with
  | nil => exact Nat.le_refl _
  | cons c t =>
    rw [readFlag]
    split
    · exact Nat.le_succ _
    · exact Nat.le_refl _

theorem length_readCount_le {t : Text} {r : Option Nat × Text}
    (h : (readCount t).mapError Failure.number = .ok r) : r.2.length ≤ t.length := by
  have hrest : (t.dropWhile isDigit).length ≤ t.length :=
    (List.dropWhile_sublist isDigit).length_le
  have h := Outcome.mapError_ok_iff.mp h
  unfold readCount at h
  dsimp only at h
  split at h
  · obtain rfl := Except.ok.inj h
    exact hrest
  · obtain ⟨n, _, h⟩ := Outcome.bind_ok_iff.mp h
    obtain rfl := Except.ok.inj h
    exact hrest

/-! ### The place of a fault -/

theorem readCount_inSpec (offset : Int) (t u : Text) :
    FailsOnly (Failure.InSpec offset t) ((readCount u).mapError .number) :=
  FailsOnly.mapError (P := fun _ => True) (fun _ _ => trivial) fun _ _ => trivial

/-- A specifier is refused at a place in it, or for its digits. The checks follow one another, so
what is known of the last one carries over to those before it. -/
theorem read_inSpec (d : Dialect) (offset : Int) (t : Text) :
    FailsOnly (Failure.InSpec offset t) (read d offset t) := by
  unfold read
  dsimp -zeta only
  extract_lets place refuse counts padding zeros alternates signs
  -- The rest that each part leaves is no longer than the specifier.
  have hsigned := Nat.le_trans (length_readSign_le _) (length_readAlignment_le t)
  have halternated := Nat.le_trans (length_readFlag_le '#' _) hsigned
  have hpadded := Nat.le_trans (length_readFlag_le '0' _) halternated
  have hstart : offset ≤ offset ∧ offset ≤ offset + t.length := by omega
  have hplace {rest : Text} (hrest : rest.length ≤ t.length) :
      offset ≤ place rest ∧ place rest ≤ offset + t.length := by
    show offset ≤ offset + (t.length - rest.length : Int) ∧
      offset + (t.length - rest.length : Int) ≤ _
    omega
  have refused {α : Type} (fault : SpecFault) {o : Int}
      (ho : offset ≤ o ∧ o ≤ offset + t.length) :
      FailsOnly (Failure.InSpec offset t) (refuse fault o : Except Failure α) := .error ho
  have checked {c : Bool} {next : Unit → Except Failure FormatSpec} {fault : SpecFault} {o : Int}
      (ho : offset ≤ o ∧ o ≤ offset + t.length)
      (hnext : ∀ u, FailsOnly (Failure.InSpec offset t) (next u)) :
      FailsOnly (Failure.InSpec offset t) (if c = true then refuse fault o >>= next else next ()) := by
    split
    · exact (refused _ ho).bind fun u _ => hnext u
    · exact hnext ()
  have hcounts (u : Unit) : FailsOnly (Failure.InSpec offset t) (counts u) := by
    refine (readCount_inSpec offset t _).bind fun width hwidth => ?_
    have hwidth := Nat.le_trans (length_readCount_le hwidth) hpadded
    extract_lets typed
    have htyped (precision : Option Nat × Text) (hrest : precision.2.length ≤ t.length) :
        FailsOnly (Failure.InSpec offset t) (typed precision) := by
      unfold typed
      extract_lets spec finish
      split
      · split
        · exact checked hstart fun _ => .ok _
        · exact .ok _
      · exact refused _ (hplace hrest)
    split
    · next more hmore =>
      refine (readCount_inSpec offset t _).bind fun precision hprecision => ?_
      have hprecision := length_readCount_le hprecision
      split
      · exact (refused _ (hplace hwidth)).bind fun _ h => by cases h
      · refine htyped _ ?_
        rw [hmore, List.length_cons] at hwidth
        omega
    · exact htyped _ hwidth
  have hpadding (u : Unit) : FailsOnly (Failure.InSpec offset t) (padding u) :=
    checked hstart hcounts
  have hzeros (u : Unit) : FailsOnly (Failure.InSpec offset t) (zeros u) :=
    checked (hplace hpadded) hpadding
  have halternates (u : Unit) : FailsOnly (Failure.InSpec offset t) (alternates u) :=
    checked (hplace halternated) hzeros
  have hsigns (u : Unit) : FailsOnly (Failure.InSpec offset t) (signs u) := by
    unfold signs
    split
    · exact (refused _ (hplace hsigned)).bind fun u _ => halternates u
    · exact halternates ()
  split
  · exact checked hstart hsigns
  · exact hsigns ()

end FormatSpec
end Stencil
