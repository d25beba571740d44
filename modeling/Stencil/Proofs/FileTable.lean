import Stencil.FileTable
import Stencil.Proofs.Outcome

/-! # Where paths lead while the files change

  What is generated changes the files in two ways: directories are made where nothing was, and a file
  is put in one place. For a path this means:

  * it leads where its parent leads, and from there on by its last name (`locate_of_parent`);
  * if it does not lead to the place that is changed, it leads where it led (`locate_congr`);
  * making the directories above it changes nothing but places that held nothing
    (`grown_makePath`).

  `Leads` has one rule for each way to go on along a path, and the proofs about paths are inductions
  on it.
-/

namespace Stencil

namespace FileTable

/-! ### Ways along a path -/

/-- Where parts lead from a directory, if they lead on at all: to a place, or to a link that has to
be followed. -/
inductive Leads (files : FileTable) (follow : Bool) : Place → List Text → Advance → Prop
  | here {place} : Leads files follow place [] (.arrived place)
  | up {place rest a} (h : Leads files follow place.dropLast rest a) :
      Leads files follow place (Path.up :: rest) a
  | into {place name rest a} (hname : name ≠ Path.up)
      (hnode : files.get? (place ++ [name]) = some .directory)
      (h : Leads files follow (place ++ [name]) rest a) : Leads files follow place (name :: rest) a
  | ends {place name node} (hname : name ≠ Path.up)
      (hnode : files.get? (place ++ [name]) = some node)
      (hlink : ∀ target, node = .link target → follow = false) :
      Leads files follow place [name] (.arrived (place ++ [name]))
  | link {place name target rest} (hname : name ≠ Path.up)
      (hnode : files.get? (place ++ [name]) = some (.link target))
      (hrest : rest = [] → follow = true) :
      Leads files follow place (name :: rest) (.link place target rest)

/-- The place that a link to `target` in a directory is followed from. -/
def linkBase (directory : Place) (target : Text) : Place :=
  if (Path.ofText target).isAbsolute then [] else directory

/-- The place that parts lead to from a directory, over at most `links` links. -/
inductive Walks (files : FileTable) (follow : Bool) : (links : Nat) → Place → List Text → Place → Prop
  | arrived {links start parts q} (h : files.Leads follow start parts (.arrived q)) :
      Walks files follow links start parts q
  | across {links start parts q directory target rest}
      (hlink : files.Leads follow start parts (.link directory target rest))
      (h : Walks files follow links (linkBase directory target)
        ((Path.ofText target).parts ++ rest) q) :
      Walks files follow (links + 1) start parts q

variable {files files' made : FileTable} {follow : Bool} {start place q : Place}
  {parts rest : List Text} {last name target : Text} {links : Nat} {p : Path} {node : FileNode}
  {a : Advance}

/-! ### Without links -/

/-- A name leads on to what lies under it. -/
theorem advance_name {found : Option FileNode} (hname : name ≠ Path.up) :
    files.get? (start ++ [name]) = found → files.advance follow start (name :: rest) =
      match found with
      | none => .failed .missing
      | some (.link target) =>
        if rest.isEmpty && !follow then .arrived (start ++ [name]) else .link start target rest
      | some (.file _) =>
        if rest.isEmpty then .arrived (start ++ [name]) else .failed .notDirectory
      | some .directory => files.advance follow (start ++ [name]) rest := by
  rintro rfl
  exact if_neg hname

theorem leads_of_advance (h : files.advance follow start parts = a)
    (ha : ∀ fault, a ≠ .failed fault) : files.Leads follow start parts a := by
  induction parts generalizing start with
  | nil =>
    subst h
    exact .here
  | cons name rest ih =>
    rw [advance] at h
    split at h
    · next hup =>
      subst hup
      exact .up (ih h)
    · next hname =>
      dsimp only at h
      split at h
      · exact absurd h.symm (ha _)
      · next target hnode =>
        split at h
        · next hlast =>
          simp only [Bool.and_eq_true, List.isEmpty_iff, Bool.not_eq_true'] at hlast
          obtain ⟨rfl, hfollow⟩ := hlast
          subst h
          exact .ends hname hnode fun _ _ => hfollow
        · next hlast =>
          subst h
          refine .link hname hnode fun hrest => ?_
          simpa [hrest] using hlast
      · next bytes hnode =>
        split at h
        · next hlast =>
          obtain rfl := List.isEmpty_iff.mp hlast
          subst h
          exact .ends hname hnode nofun
        · exact absurd h.symm (ha _)
      · next hnode => exact .into hname hnode (ih h)

theorem Leads.advance_eq (h : files.Leads follow start parts a) :
    files.advance follow start parts = a := by
  induction h with
  | here => rfl
  | up _ ih => rwa [advance, if_pos rfl]
  | into hname hnode _ ih =>
    rw [advance_name hname hnode]
    exact ih
  | @ends place name node hname hnode hlink =>
    rw [advance_name hname hnode]
    cases node with
    | link target => simp [hlink target rfl]
    | file bytes => rfl
    | directory => rfl
  | @link place name target rest hname hnode hrest =>
    rw [advance_name hname hnode]
    cases rest with
    | nil => simp [hrest rfl]
    | cons => rfl

/-- What one name more makes of it. -/
def Advance.concat (files : FileTable) (follow : Bool) (last : Text) : Advance → Advance
  | .arrived place => files.advance follow place [last]
  | .failed fault => .failed fault
  | .link directory target rest => .link directory target (rest ++ [last])

/-- Only from a directory a path leads on. -/
theorem Leads.advance_concat (h : files.Leads true start parts a)
    (ha : ∀ q, a = .arrived q → files.get? q = some .directory) (last : Text) :
    files.advance follow start (parts ++ [last]) = a.concat files follow last := by
  induction h with
  | here => rfl
  | up _ ih =>
    rw [List.cons_append, advance, if_pos rfl]
    exact ih ha
  | into hname hnode _ ih =>
    rw [List.cons_append, advance_name hname hnode]
    exact ih ha
  | ends hname hnode hlink =>
    -- A file or a link would not be gone on from, but here a directory lies.
    rw [List.cons_append, advance_name hname (ha _ rfl)]
    rfl
  | link hname hnode hrest =>
    rw [List.cons_append, advance_name hname hnode]
    simp [Advance.concat]

/-- The files where one place was changed, at which a file lay or nothing. -/
structure FileChange (files files' : FileTable) (place : Place) : Prop where
  current : files'.current = files.current
  before node : files.get? place = some node → ∃ bytes, node = .file bytes
  others other : other ≠ place → files'.get? other = files.get? other

/-- What is no file stays. -/
theorem FileChange.get?_eq (h : FileChange files files' place) (hnode : files.get? q = some node)
    (hfile : ∀ bytes, node ≠ .file bytes) : files'.get? q = some node := by
  rw [h.others q, hnode]
  rintro rfl
  obtain ⟨bytes, hbytes⟩ := h.before node hnode
  exact hfile bytes hbytes

/-- A path that is led elsewhere does not pass the changed place. -/
theorem Leads.congr (h : files.Leads follow start parts a) (hchange : FileChange files files' place)
    (ha : a ≠ .arrived place) : files'.Leads follow start parts a := by
  induction h with
  | here => exact .here
  | up _ ih => exact .up (ih ha)
  | into hname hnode _ ih => exact .into hname (hchange.get?_eq hnode nofun) (ih ha)
  | @ends q name _ hname hnode hlink =>
    -- What ends the path may be a file, so that here the place itself has to be another one.
    have hne : q ++ [name] ≠ place := fun h => ha (congrArg Advance.arrived h)
    exact .ends hname ((hchange.others _ hne).trans hnode) hlink
  | link hname hnode hrest => exact .link hname (hchange.get?_eq hnode nofun) hrest

/-- A link that is not followed is a place to be led to. -/
theorem Leads.unfollowed (h : files.Leads true start parts a) :
    files.Leads false start parts a ∨ ∃ q, files.Leads false start parts (.arrived q) := by
  induction h with
  | here => exact .inl .here
  | up _ ih => exact ih.imp .up fun ⟨q, h⟩ => ⟨q, .up h⟩
  | into hname hnode _ ih => exact ih.imp (.into hname hnode) fun ⟨q, h⟩ => ⟨q, .into hname hnode h⟩
  | ends hname hnode _ => exact .inl (.ends hname hnode fun _ _ => rfl)
  | @link _ _ _ rest hname hnode _ =>
    cases rest with
    | nil => exact .inr ⟨_, .ends hname hnode fun _ _ => rfl⟩
    -- Within a path links are followed in any case.
    | cons => exact .inl (.link hname hnode nofun)

/-! ### Over links -/

theorem walk_eq_ok_iff :
    files.walk follow links start parts = .ok q ↔ files.Walks follow links start parts q := by
  constructor
  · -- A walk that ends is an induction on the links that it may still follow.
    intro h
    induction links generalizing start parts with
    | zero =>
      rw [walk] at h
      split at h
      · next harrived =>
        obtain rfl := Except.ok.inj h
        exact .arrived (leads_of_advance harrived nofun)
      · cases h
      · cases h
    | succ links ih =>
      rw [walk] at h
      split at h
      · next harrived =>
        obtain rfl := Except.ok.inj h
        exact .arrived (leads_of_advance harrived nofun)
      · cases h
      · next hlink => exact .across (leads_of_advance hlink nofun) (ih h)
  · -- The other direction is one on the links that were followed.
    intro h
    induction h with
    | arrived h => rw [walk, h.advance_eq]
    | across hlink _ ih =>
      rw [walk, hlink.advance_eq]
      exact ih

/-- Parts that lead to a directory and then a name lead where the name leads from there. -/
theorem Walks.walk_concat {r : Except AccessFault Place} (h : files.Walks true links start parts q)
    (hq : files.get? q = some .directory)
    (hlast : ∀ links, files.walk follow links q [last] = r) :
    files.walk follow links start (parts ++ [last]) = r := by
  -- The last name goes along over each link, behind what is left of the path.
  induction h with
  | @arrived links _ _ q h =>
    have hdirectory : ∀ q', Advance.arrived q = .arrived q' → files.get? q' = some .directory := by
      rintro _ ⟨⟩
      exact hq
    rw [← hlast links, walk, walk, h.advance_concat hdirectory]
    rfl
  | across hlink _ ih =>
    have hrest := ih hq hlast
    rw [List.append_assoc] at hrest
    rw [walk, hlink.advance_concat nofun]
    exact hrest

/-- A path to another place leads there after the change. -/
theorem Walks.congr (h : files.Walks follow links start parts q)
    (hchange : FileChange files files' place) (hq : q ≠ place) :
    files'.Walks follow links start parts q := by
  induction h with
  | arrived h => exact .arrived (h.congr hchange (by simpa using hq))
  | across hlink _ ih => exact .across (hlink.congr hchange nofun) (ih hq)

/-- Without the last link followed, a path still leads somewhere. -/
theorem Walks.unfollowed (h : files.Walks true links start parts q) :
    ∃ q, files.Walks false links start parts q := by
  induction h with
  | arrived h => exact h.unfollowed.elim (fun h => ⟨_, .arrived h⟩) fun ⟨q, h⟩ => ⟨q, .arrived h⟩
  | across hlink _ ih =>
    obtain ⟨q, hq⟩ := ih
    exact hlink.unfollowed.elim (fun h => ⟨q, .across h hq⟩) fun ⟨q, h⟩ => ⟨q, .arrived h⟩

/-! ### The last name of a path -/

theorem walk_up (links : Nat) (q : Place) :
    files.walk follow links q [Path.up] = .ok q.dropLast :=
  walk_eq_ok_iff.mpr (.arrived (.up .here))

/-- A name leads to what lies under it, unless that is a link which is followed. -/
theorem walk_name (hname : name ≠ Path.up) (hnode : files.get? (q ++ [name]) = some node)
    (hlink : ∀ target, node = .link target → follow = false) (links : Nat) :
    files.walk follow links q [name] = .ok (q ++ [name]) :=
  walk_eq_ok_iff.mpr (.arrived (.ends hname hnode hlink))

theorem walk_of_none (hname : name ≠ Path.up) (hnone : files.get? (q ++ [name]) = none)
    (links : Nat) : files.walk follow links q [name] = .error .missing := by
  rw [walk, advance_name hname hnone]

/-- A path leads where its last name leads from its parent. -/
theorem locate_of_parent {r : Except AccessFault Place} (h : files.locate true p.parent = .ok q)
    (hq : files.get? q = some .directory) (hname : p.parts.getLast? = some name)
    (hlast : ∀ links, files.walk follow links q [name] = r) : files.locate follow p = r := by
  have hparts : p.parts = p.parent.parts ++ [name] := by
    obtain ⟨parts, hparts⟩ := List.getLast?_eq_some_iff.mp hname
    rw [Path.parent, hparts, List.dropLast_concat]
  rw [locate, hparts]
  exact (walk_eq_ok_iff.mp h).walk_concat hq hlast

theorem locate_congr (h : files.locate follow p = .ok q) (hchange : FileChange files files' place)
    (hq : q ≠ place) : files'.locate follow p = .ok q := by
  rw [locate] at h ⊢
  rw [hchange.current]
  exact walk_eq_ok_iff.mpr ((walk_eq_ok_iff.mp h).congr hchange hq)

/-! ### Directories that are made -/

/-- The files that only directories were added to, where nothing was. -/
structure Grown (files files' : FileTable) : Prop where
  current : files'.current = files.current
  nodes place : files'.get? place = files.get? place ∨
    files.get? place = none ∧ files'.get? place = some .directory

namespace Grown

theorem refl (files : FileTable) : Grown files files := ⟨rfl, fun _ => .inl rfl⟩

theorem trans (h : Grown files made) (h' : Grown made files') : Grown files files' where
  current := h'.current.trans h.current
  nodes place := by
    rcases h'.nodes place with hsame' | ⟨hnone, hnew⟩
    · rw [hsame']
      exact h.nodes place
    · rcases h.nodes place with hsame | ⟨_, hold⟩
      · exact .inr ⟨hsame.symm.trans hnone, hnew⟩
      · rw [hold] at hnone
        cases hnone

theorem put (hnone : files.get? place = none) : Grown files (files.put place .directory) where
  current := rfl
  nodes other := by
    have hroot : place ≠ [] := by
      rintro rfl
      cases hnone
    by_cases hother : other = place
    · subst hother
      exact .inr ⟨hnone, get?_put_self files hroot _⟩
    · exact .inl (get?_put_of_ne files hother _)

end Grown

/-- A directory is made only where nothing was. -/
theorem grown_makeDirectory (h : files.makeDirectory p = .ok files') : files.Grown files' := by
  rw [makeDirectory] at h
  split at h
  · split at h
    · obtain rfl := Except.ok.inj h
      exact .refl files
    · cases h
  · next hmissing =>
    split at h
    · next q hparent =>
      split at h
      · next name hname hq =>
        obtain rfl := Except.ok.inj h
        -- If anything were there, the path would not have been missing.
        refine .put (Classical.byContradiction fun hsome => ?_)
        by_cases hup : name = Path.up
        · subst hup
          rw [locate_of_parent hparent hq hname fun links => walk_up links q] at hmissing
          cases hmissing
        · obtain ⟨node, hnode⟩ := Option.ne_none_iff_exists'.mp hsome
          rw [locate_of_parent hparent hq hname (walk_name hup hnode fun _ _ => rfl)] at hmissing
          cases hmissing
      · cases h
    · cases h
  · cases h

theorem grown_settle {r : Except FileFault FileTable}
    (h : ∀ files', r = .ok files' → files.Grown files') : files.Grown (files.settle r).2 := by
  cases r with
  | ok files' => exact h files' rfl
  | error => exact .refl files

/-- Whether or not all the directories of a path can be made, nothing else is changed. -/
theorem grown_makePath (count : Nat) (p : Path) : files.Grown (files.makePath count p).2 := by
  induction count generalizing p with
  | zero => exact grown_settle fun _ => grown_makeDirectory
  | succ count ih =>
    rw [makePath]
    split
    · have habove := ih p.parent
      split
      · next made hmade =>
        rw [hmade] at habove
        exact habove.trans (grown_settle fun _ => grown_makeDirectory)
      · next made hmade =>
        rw [hmade] at habove
        exact habove
    · exact grown_settle fun _ => grown_makeDirectory

/-- A directory that is there does not have to be made. -/
theorem makePath_of_directory (h : files.locate true p = .ok q)
    (hq : files.get? q = some .directory) (count : Nat) :
    files.makePath count p = (.ok (), files) := by
  have hmade : files.makeDirectory p = .ok files := by
    obtain ⟨q', hq'⟩ := (walk_eq_ok_iff.mp h).unfollowed
    have hhere : files.locate false p = .ok q' := walk_eq_ok_iff.mpr hq'
    have hdirectory : files.hasDirectory p = true := by
      rw [hasDirectory, node?, h]
      exact decide_eq_true hq
    rw [makeDirectory, hhere]
    exact if_pos hdirectory
  cases count with
  | zero => rw [makePath, hmade, settle]
  | succ count =>
    rw [makePath, hmade]
    rfl

/-! ### A file that is put in its place -/

/-- The place where a file at the end of a path is put: under the last name of the path, in the
directory that its parent leads to. -/
inductive Lands (files : FileTable) (p : Path) : Place → Prop
  | intro {directory name} (hparent : files.locate true p.parent = .ok directory)
      (hdirectory : files.get? directory = some .directory) (hname : p.parts.getLast? = some name)
      (hup : name ≠ Path.up) : Lands files p (directory ++ [name])

theorem replaceFile_eq_ok_iff {bytes : Bytes} :
    files.replaceFile p bytes = .ok files' ↔ ∃ place, files.Lands p place ∧
      files.get? place ≠ some .directory ∧ files' = files.put place (.file bytes) := by
  rw [replaceFile]
  constructor
  · intro h
    split at h
    · next directory name hparent hname =>
      dsimp only at h
      split at h
      · cases h
      · next hdirectory =>
        split at h
        · cases h
        · next hup =>
          split at h
          · cases h
          · next hplace =>
            exact ⟨_, ⟨hparent, Classical.not_not.mp hdirectory, hname, hup⟩, hplace,
              (Except.ok.inj h).symm⟩
    · cases h
    · cases h
  · rintro ⟨_, ⟨hparent, hdirectory, hname, hup⟩, hplace, rfl⟩
    rw [hparent, hname]
    dsimp only
    rw [if_neg (fun h => h hdirectory), if_neg hup, if_neg hplace]

namespace Lands

theorem place_ne_nil (h : files.Lands p place) : place ≠ [] := by
  cases h
  simp

/-- A path leads to the place of its file if something lies there. -/
theorem locate_eq (h : files.Lands p place) (hnode : files.get? place = some node)
    (hlink : ∀ target, node = .link target → follow = false) :
    files.locate follow p = .ok place := by
  obtain ⟨hparent, hdirectory, hname, hup⟩ := h
  exact locate_of_parent hparent hdirectory hname (walk_name hup hnode hlink)

theorem locate_of_none (h : files.Lands p place) (hnone : files.get? place = none) :
    files.locate follow p = .error .missing := by
  obtain ⟨hparent, hdirectory, hname, hup⟩ := h
  exact locate_of_parent hparent hdirectory hname (walk_of_none hup hnone)

/-- If no link ends the path and no directory lies there, to put a file there is to change one
file. -/
theorem fileChange_put (h : files.Lands p place) (hlink : files.hasLink p = false)
    (hdirectory : files.get? place ≠ some .directory) (new : FileNode) :
    FileChange files (files.put place new) place where
  current := rfl
  before node hnode := by
    cases node with
    | file bytes => exact ⟨bytes, rfl⟩
    | directory => exact absurd hnode hdirectory
    | link target =>
      rw [hasLink, node?, h.locate_eq hnode fun _ _ => rfl] at hlink
      simp [hnode] at hlink
  others other hother := get?_put_of_ne files hother new

/-- A file that was put in its place is where its path leads. -/
theorem congr (h : files.Lands p place) (hchange : FileChange files files' place) :
    files'.Lands p place := by
  obtain @⟨directory, name, hparent, hdirectory, hname, hup⟩ := h
  have hne : directory ≠ directory ++ [name] := by simp
  exact .intro (locate_congr hparent hchange hne) (hchange.get?_eq hdirectory nofun) hname hup

/-- What is read where a file is in its place. -/
theorem readBytes_eq {bytes : Bytes} (h : files.Lands p place)
    (hfile : files.get? place = some (.file bytes)) : files.readBytes p = .ok bytes := by
  rw [readBytes, h.locate_eq hfile nofun]
  dsimp only
  rw [hfile]

end Lands

end FileTable
end Stencil
