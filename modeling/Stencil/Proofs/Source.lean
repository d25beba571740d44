import Stencil.Cache
import Stencil.Proofs.Outcome
import Stencil.Proofs.Text.Utf8

/-! # What the fingerprint of a source tells

  A fingerprint is the digest of the bytes of a text with universal newlines. A file is read with
  universal newlines as well, so that the text of a loaded source is the one that was digested:

  * no carriage return is left in a text whose newlines are unified, and unifying them once more
    changes nothing;
  * different texts have different bytes;
  * so two loaded sources whose fingerprints agree, and whose digests do not collide, have the same
    text.
-/

namespace Stencil

namespace Text

/-! ### Universal newlines -/

theorem not_mem_unifyNewlines (t : Text) : '\r' ∉ t.unifyNewlines := by
  fun_induction unifyNewlines t with
  | case1 => exact List.not_mem_nil
  | case2 t ih => exact List.not_mem_cons_of_ne_of_not_mem (by decide) ih
  | case3 c t _ ih =>
    refine List.not_mem_cons_of_ne_of_not_mem ?_ ih
    split
    · decide
    · next h => exact Ne.symm h

/-- Without carriage returns there is nothing to unify. -/
theorem unifyNewlines_of_not_mem {t : Text} (h : '\r' ∉ t) : t.unifyNewlines = t := by
  induction t with
  | nil => rfl
  | cons c t ih =>
    have hc : c ≠ '\r' := fun hc => h (hc ▸ List.mem_cons_self)
    have ht := ih fun ht => h (List.mem_cons_of_mem c ht)
    rw [unifyNewlines, if_neg hc, ht]
    intro _ hcr _
    exact hc hcr

theorem unifyNewlines_eq_self_iff {t : Text} : t.unifyNewlines = t ↔ '\r' ∉ t := by
  constructor
  · intro h
    rw [← h]
    exact not_mem_unifyNewlines t
  · exact unifyNewlines_of_not_mem

@[simp] theorem unifyNewlines_unifyNewlines (t : Text) :
    t.unifyNewlines.unifyNewlines = t.unifyNewlines :=
  unifyNewlines_of_not_mem (not_mem_unifyNewlines t)

end Text

namespace Source

/-- The bytes that the fingerprint of a source is the digest of. -/
def digested (s : Source) : Bytes := s.text.unifyNewlines.toUtf8

/-- Two sources whose digests agree although their bytes do not. -/
def Collide (s s' : Source) : Prop :=
  Sha256.hexDigest s.digested = Sha256.hexDigest s'.digested ∧ s.digested ≠ s'.digested

/-- Sources of the same text have the same fingerprint, and conversely unless they collide. -/
theorem fingerprint_eq_iff {s s' : Source} (h : ¬ s.Collide s') :
    s.fingerprint = s'.fingerprint ↔ s.text.unifyNewlines = s'.text.unifyNewlines := by
  constructor
  · intro hprint
    unfold fingerprint at hprint
    have hdigest := (List.append_right_inj _).mp hprint
    have hbytes : s.digested = s'.digested := Classical.not_not.mp fun hne => h ⟨hdigest, hne⟩
    exact Text.toUtf8_injective hbytes
  · intro htext
    unfold fingerprint
    rw [htext]

/-! ### Loaded sources -/

/-- A text is read from a file with universal newlines. -/
theorem unifyNewlines_of_readText {files : FileTable} {p : Path} {t : Text}
    (h : files.readText p = .ok t) : t.unifyNewlines = t := by
  obtain ⟨_, _, h⟩ := Outcome.bind_ok_iff.mp h
  obtain ⟨text, _, h⟩ := Outcome.bind_ok_iff.mp h
  obtain rfl := Except.ok.inj h
  exact Text.unifyNewlines_unifyNewlines text

/-- A loaded source has the path that it was loaded from and a text with universal newlines. -/
theorem of_load {files : FileTable} {p : Path} {s : Source} (h : load files p = .ok s) :
    s.path = p.toText ∧ s.text.unifyNewlines = s.text := by
  rw [load] at h
  split at h
  · exact absurd h Outcome.throw_bind_ne_ok
  · obtain ⟨text, htext, h⟩ := Outcome.bind_ok_iff.mp h
    obtain rfl := Except.ok.inj h
    exact ⟨rfl, unifyNewlines_of_readText (Outcome.mapError_ok_iff.mp htext)⟩

/-- Two loaded sources with the same path and the same fingerprint are the same source. -/
theorem eq_of_fingerprint {files files' : FileTable} {p p' : Path} {s s' : Source}
    (hs : load files p = .ok s) (hs' : load files' p' = .ok s') (hno : ¬ s.Collide s')
    (hpath : s.path = s'.path) (hprint : s.fingerprint = s'.fingerprint) : s = s' := by
  -- Both texts have universal newlines already, so that the digested texts are the texts.
  have htext := (fingerprint_eq_iff hno).mp hprint
  rw [(of_load hs).2, (of_load hs').2] at htext
  cases s
  cases s'
  simp_all

end Source
end Stencil
