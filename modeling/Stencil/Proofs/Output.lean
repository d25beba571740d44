import Stencil.Output
import Stencil.Proofs.FileTable
import Stencil.Proofs.Source
import Stencil.Proofs.Text.Utf8

/-! # When a generated file is written

  A generated text is compared with the file as it is read, which is with universal newlines, and
  written as it is. So a file counts as current if its text becomes the generated one when its
  newlines are unified, whether or not its bytes are those of the generated text:

  * a file with other newlines is left as it is;
  * a text with a carriage return is never found in the file, so it is written each time.

  Where no carriage returns are involved, a file is left alone just if it has the bytes of the text
  already. Apart from that the call does what it should (`Generated`): no other file is changed, a
  call that fails has made directories at most, and it does not fail in a directory that is there
  if it finds nothing or a text.
-/

namespace Stencil

namespace FileTable

variable {files : FileTable} {p : Path} {text t : Text}

/-! ### The comparison -/

theorem contains_of_readBytes {bytes : Bytes} (h : files.readBytes p = .ok bytes) :
    files.contains p = true := by
  rw [readBytes] at h
  rw [contains, node?]
  split at h
  · cases h
  · next place hplace =>
    rw [hplace]
    dsimp only
    split at h
    · next hfile => rw [hfile, Option.isSome_some]
    · cases h
    · cases h

theorem readText_eq_ok_iff :
    files.readText p = .ok text ↔
      ∃ t, files.readBytes p = .ok (Text.toUtf8 t) ∧ t.unifyNewlines = text := by
  constructor
  · intro h
    obtain ⟨bytes, hbytes, hdecoded⟩ := Outcome.bind_ok_iff.mp h
    obtain ⟨t, ht, htext⟩ := Outcome.bind_ok_iff.mp hdecoded
    obtain rfl := Text.ofUtf8_eq_ok_iff.mp (Outcome.mapError_ok_iff.mp ht)
    exact ⟨t, Outcome.mapError_ok_iff.mp hbytes, Except.ok.inj htext⟩
  · rintro ⟨t, hbytes, rfl⟩
    rw [readText, hbytes, Outcome.mapError_ok, Outcome.ok_bind, Text.ofUtf8_eq_ok_iff.mpr rfl]
    rfl

theorem isCurrent_of_readBytes (h : files.readBytes p = .ok (Text.toUtf8 t)) :
    files.isCurrent p text = .ok (decide (t.unifyNewlines = text)) := by
  rw [isCurrent, if_pos (contains_of_readBytes h), readText_eq_ok_iff.mpr ⟨t, h, rfl⟩]
  rfl

/-- A file is current if it has the bytes of a text that becomes the generated one. -/
theorem isCurrent_iff :
    files.isCurrent p text = .ok true ↔
      ∃ t, files.readBytes p = .ok (Text.toUtf8 t) ∧ t.unifyNewlines = text := by
  constructor
  · intro h
    rw [isCurrent] at h
    split at h
    · obtain ⟨read, hread, h⟩ := Outcome.bind_ok_iff.mp h
      rw [← readText_eq_ok_iff, hread]
      exact congrArg Except.ok (of_decide_eq_true (Except.ok.inj h))
    · cases h
  · rintro ⟨t, hbytes, htext⟩
    rw [isCurrent_of_readBytes hbytes]
    exact congrArg Except.ok (decide_eq_true htext)

theorem readBytes_eq_iff_of_not_mem
    (hfree : ∀ t, files.readBytes p = .ok (Text.toUtf8 t) → '\r' ∉ t) :
    (∃ t, files.readBytes p = .ok (Text.toUtf8 t) ∧ t.unifyNewlines = text) ↔
      files.readBytes p = .ok text.toUtf8 := by
  constructor
  · rintro ⟨t, hread, rfl⟩
    rwa [Text.unifyNewlines_of_not_mem (hfree t hread)]
  · intro hread
    exact ⟨text, hread, Text.unifyNewlines_of_not_mem (hfree text hread)⟩

/-! ### One call -/

/-- The files once the directories above a path are made, as far as they can be. -/
def prepared (files : FileTable) (p : Path) : FileTable :=
  (files.makePath p.parent.parts.length p.parent).2

/-- What a call for a path without a link can come to, and the files that it leaves. -/
inductive Comes (files : FileTable) (p : Path) (text : Text) :
    Except OutputFault Bool → FileTable → Prop
  | unread {fault} (h : files.isCurrent p text = .error fault) :
      Comes files p text (.error (.read fault)) files
  | current (h : files.isCurrent p text = .ok true) : Comes files p text (.ok false) files
  | unwritten {fault} (h : files.isCurrent p text = .ok false) :
      Comes files p text (.error (.write fault)) (files.prepared p)
  | written {place} (h : files.isCurrent p text = .ok false)
      (hplace : (files.prepared p).Lands p place)
      (hdirectory : (files.prepared p).get? place ≠ some .directory) :
      Comes files p text (.ok true) ((files.prepared p).put place (.file text.toUtf8))

theorem comes_generate (hlink : files.hasLink p = false) :
    Comes files p text (files.generate p text).1 (files.generate p text).2 := by
  rw [generate, if_neg (by simp [hlink])]
  split
  · next h => exact .unread h
  · next h => exact .current h
  · next h =>
    split
    · next fault made hmade =>
      have hprepared : files.prepared p = made := congrArg Prod.snd hmade
      rw [← hprepared]
      exact .unwritten h
    · next made hmade =>
      have hprepared : files.prepared p = made := congrArg Prod.snd hmade
      rw [← hprepared]
      split
      · exact .unwritten h
      · next hreplaced =>
        obtain ⟨place, hplace, hdirectory, rfl⟩ := replaceFile_eq_ok_iff.mp hreplaced
        exact .written h hplace hdirectory

variable {files' : FileTable} {outcome : Except OutputFault Bool} {place : Place}

namespace Comes

theorem ok_false_iff (h : Comes files p text outcome files') :
    outcome = .ok false ↔ files.isCurrent p text = .ok true := by
  cases h with
  | unread h => simp [h]
  | current h => simp [h]
  | unwritten h => simp [h]
  | written h => simp [h]

theorem eq_of_ok_false (h : Comes files p text (.ok false) files') : files' = files := by
  cases h
  rfl

theorem of_ok_true (h : Comes files p text (.ok true) files') :
    ∃ place, (files.prepared p).Lands p place ∧
      (files.prepared p).get? place ≠ some .directory ∧
        files' = (files.prepared p).put place (.file text.toUtf8) := by
  cases h with
  | written _ hplace hdirectory => exact ⟨_, hplace, hdirectory, rfl⟩

theorem grown_of_error {fault : OutputFault} (h : Comes files p text (.error fault) files') :
    files.Grown files' := by
  cases h with
  | unread => exact .refl files
  | unwritten => exact grown_makePath _ _

end Comes

/-- In a directory that is there, a file that can be compared is written unless it is current. -/
theorem generate_of_lands {current : Bool} (hlink : files.hasLink p = false)
    (hplace : files.Lands p place) (hdirectory : files.get? place ≠ some .directory)
    (hcurrent : files.isCurrent p text = .ok current) :
    (files.generate p text).1 = .ok (!current) := by
  rw [generate, if_neg (by simp [hlink]), hcurrent]
  cases current with
  | true => rfl
  | false =>
    have hreplaced : files.replaceFile p text.toUtf8 = .ok _ :=
      replaceFile_eq_ok_iff.mpr ⟨place, hplace, hdirectory, rfl⟩
    obtain ⟨hparent, habove, _, _⟩ := hplace
    rw [makePath_of_directory hparent habove]
    dsimp only
    rw [hreplaced]
    rfl

/-- A call for a file that has the bytes of the text writes it again if the text has a carriage
return. -/
theorem generate_again (hplace : files.Lands p place)
    (hfile : files.get? place = some (.file text.toUtf8)) :
    (files.generate p text).1 = .ok (decide ('\r' ∈ text)) := by
  have hlink : files.hasLink p = false := by
    rw [hasLink, node?, hplace.locate_eq hfile fun _ _ => rfl]
    dsimp only
    rw [hfile]
  have hcurrent : files.isCurrent p text = .ok _ :=
    isCurrent_of_readBytes (hplace.readBytes_eq hfile)
  rw [generate_of_lands hlink hplace (by simp [hfile]) hcurrent]
  simp [Text.unifyNewlines_eq_self_iff]

/-- Where nothing lies or a text, a call does not fail. -/
theorem exists_generate_ok (hlink : files.hasLink p = false) (hplace : files.Lands p place)
    (hnode : ∀ node, files.get? place = some node → ∃ t, node = .file (Text.toUtf8 t)) :
    ∃ changed, (files.generate p text).1 = .ok changed := by
  cases hfound : files.get? place with
  | none =>
    have hcurrent : files.isCurrent p text = .ok false := by
      have hmissing : files.contains p = false := by
        rw [contains, node?, hplace.locate_of_none hfound]
        rfl
      rw [isCurrent, if_neg (by simp [hmissing])]
      rfl
    exact ⟨_, generate_of_lands hlink hplace (by simp [hfound]) hcurrent⟩
  | some node =>
    obtain ⟨t, rfl⟩ := hnode node hfound
    have hcurrent : files.isCurrent p text = .ok _ :=
      isCurrent_of_readBytes (hplace.readBytes_eq hfound)
    exact ⟨_, generate_of_lands hlink hplace (by simp [hfound]) hcurrent⟩

/-! ### What a call does -/

theorem writeGenerated_eq (files : FileTable) (p : Path) (text : Text) :
    files.writeGenerated p text =
      (files.generate p text).1.map fun changed => (changed, (files.generate p text).2) := by
  rw [writeGenerated]
  split
  · next h => rw [h]; rfl
  · next h => rw [h]; rfl

/-- What is known of a call with a generated text from its outcome and the files that it leaves. -/
structure Generated (files : FileTable) (p : Path) (text : Text)
    (outcome : Except OutputFault Bool) (files' : FileTable) : Prop where
  answer : files.writeGenerated p text = outcome.map fun changed => (changed, files')
  /-- In a directory that is there, where nothing lies or a text, the call does not fail. -/
  succeeds place : files.Lands p place →
    (∀ node, files.get? place = some node → ∃ t, node = .file (Text.toUtf8 t)) →
      ∃ changed, outcome = .ok changed
  /-- The file is left alone just if its text becomes the generated one. -/
  current : outcome = .ok false ↔
    ∃ t, files.readBytes p = .ok (Text.toUtf8 t) ∧ t.unifyNewlines = text
  /-- Without carriage returns in the file, this is if it has the bytes of the text. -/
  bytes : (∀ t, files.readBytes p = .ok (Text.toUtf8 t) → '\r' ∉ t) →
    (outcome = .ok false ↔ files.readBytes p = .ok text.toUtf8)
  kept : outcome = .ok false → files' = files
  failed fault : outcome = .error fault → files.Grown files'
  written : outcome = .ok true → ∃ place, (files.prepared p).Lands p place ∧
    files'.get? place = some (.file text.toUtf8) ∧
      ∀ other, other ≠ place → files'.get? other = files.get? other ∨
        files.get? other = none ∧ files'.get? other = some .directory
  /-- A path such as `new/../link` comes to end at a link when the directories above it are made.
  Otherwise the bytes of the text are found at its end. -/
  found : outcome = .ok true → (files.prepared p).hasLink p = false →
    files'.readBytes p = .ok text.toUtf8
  /-- A second call writes again what has a carriage return, and only that. -/
  again changed : outcome = .ok changed → (files.prepared p).hasLink p = false →
    (files'.generate p text).1 = .ok (changed && decide ('\r' ∈ text))

/-- What a call with a generated text does, for a path without a link at its end. -/
theorem generated_of_not_link (files : FileTable) (p : Path) (text : Text)
    (hlink : files.hasLink p = false) :
    Generated files p text (files.generate p text).1 (files.generate p text).2 := by
  have hcomes : Comes files p text (files.generate p text).1 (files.generate p text).2 :=
    comes_generate hlink
  have hcurrent := hcomes.ok_false_iff.trans isCurrent_iff
  refine ⟨writeGenerated_eq files p text, fun _ => exists_generate_ok hlink, hcurrent,
    fun hfree => hcurrent.trans (readBytes_eq_iff_of_not_mem hfree), ?_, ?_, ?_, ?_, ?_⟩
  · -- A call that answers `false` leaves all files as they are.
    intro houtcome
    rw [houtcome] at hcomes
    exact hcomes.eq_of_ok_false
  · -- One that fails adds directories at most.
    intro fault houtcome
    rw [houtcome] at hcomes
    exact hcomes.grown_of_error
  · -- One that answers `true` changes one file, besides the directories that it adds.
    intro houtcome
    rw [houtcome] at hcomes
    obtain ⟨place, hplace, _, hwritten⟩ := hcomes.of_ok_true
    rw [hwritten]
    refine ⟨place, hplace, get?_put_self _ hplace.place_ne_nil _, fun other hother => ?_⟩
    rw [get?_put_of_ne _ hother]
    exact (grown_makePath _ _).nodes other
  · -- That file is the one at the path.
    intro houtcome hprepared
    rw [houtcome] at hcomes
    obtain ⟨place, hplace, hdirectory, hwritten⟩ := hcomes.of_ok_true
    rw [hwritten]
    exact (hplace.congr (hplace.fileChange_put hprepared hdirectory _)).readBytes_eq
      (get?_put_self _ hplace.place_ne_nil _)
  · -- A second call finds the text there.
    intro changed houtcome hprepared
    rw [houtcome] at hcomes
    cases changed with
    | false => rw [hcomes.eq_of_ok_false, houtcome, Bool.false_and]
    | true =>
      obtain ⟨place, hplace, hdirectory, hwritten⟩ := hcomes.of_ok_true
      rw [hwritten, Bool.true_and]
      exact generate_again (hplace.congr (hplace.fileChange_put hprepared hdirectory _))
        (get?_put_self _ hplace.place_ne_nil _)

/-- The file `a` with two lines, as they end on another system. -/
def crlfFiles : FileTable :=
  (empty [['w']]).put [['w'], ['a']] (.file (Text.toUtf8 "x\r\ny"))

/-- A file with other newlines than the text is left as it is, and one that the text was written to is
written again. -/
theorem generated_of_not_link_crlf :
    crlfFiles.hasLink (Path.ofText "a") = false ∧
      crlfFiles.readBytes (Path.ofText "a") = .ok (Text.toUtf8 "x\r\ny") ∧
        (crlfFiles.generate (Path.ofText "a") "x\ny").1 = .ok false ∧
          ((crlfFiles.generate (Path.ofText "a") "x\r\ny").2.generate (Path.ofText "a")
            "x\r\ny").1 = .ok true := by
  have hlink : crlfFiles.hasLink (Path.ofText "a") = false := by decide
  have hread : crlfFiles.readBytes (Path.ofText "a") = .ok (Text.toUtf8 "x\r\ny") := rfl
  have hcurrent := (generated_of_not_link crlfFiles (Path.ofText "a") "x\ny" hlink).current
  have hagain := (generated_of_not_link crlfFiles (Path.ofText "a") "x\r\ny" hlink).again true
  exact ⟨hlink, hread, hcurrent.mpr ⟨"x\r\ny", hread, rfl⟩, hagain rfl rfl⟩

end FileTable
end Stencil
