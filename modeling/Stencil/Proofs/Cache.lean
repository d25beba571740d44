import Mathlib.Data.List.Defs
import Stencil.Cache
import Stencil.Proofs.Dialect.Record
import Stencil.Proofs.Outcome
import Stencil.Proofs.Source
import Stencil.Proofs.Template

/-! # What a cache of templates answers

  Templates are compiled one call after the other, with one cache for all of them, while the files
  and the dialects change from call to call. The history of the calls alone tells what the cache
  keeps:

  * `keeper` finds the call whose template is kept under a path and the name of a dialect. It is the
    last one that compiled a template from a text other than the one that was kept there before;
  * `Follows` is the invariant that the cache keeps the templates of these calls and nothing else,
    and `Step` is what one call can do to it;
  * `result_eq_fresh_iff` says when a call has the same result as without a cache. The name of a
    dialect stands for the dialect there, so that two dialects of one name may be mixed up.
-/

namespace Stencil

/-! ## Laws of a cache -/

section laws
variable {cache : Cache} {d : Dialect} {s : Source} {t : Template} {path name : Text}

namespace Cache

theorem entries_lookup (cache : Cache) (s : Source) (name : Text) :
    (cache.lookup s name).2.entries = cache.entries := by
  rw [lookup]
  split
  · split <;> rfl
  · rfl

theorem lookup_of_kept {entry : Entry} (h : cache.kept? s.path name = some entry) :
    (cache.lookup s name).1 =
      if entry.fingerprint = s.fingerprint then some entry.template else none := by
  rw [lookup, h]
  simp only
  split <;> rfl

theorem lookup_of_not_kept (h : cache.kept? s.path name = none) :
    (cache.lookup s name).1 = none := by
  rw [lookup, h]

theorem find?_putEntry_of_ne {new : Entry} (h : ¬ new.isAt path name) (entries : List Entry) :
    (putEntry new entries).find? (Entry.isAt path name) =
      entries.find? (Entry.isAt path name) := by
  induction entries with
  | nil => simp [putEntry, h]
  | cons e es ih =>
    rw [putEntry]
    split
    · next he =>
      -- The entry that gives way is kept where the new one is, so it is not the one looked for.
      have hnot : ¬ e.isAt path name := by
        simp only [Entry.isAt, Bool.and_eq_true, decide_eq_true_eq] at h he ⊢
        rwa [he.1, he.2]
      rw [List.find?_cons_of_neg h, List.find?_cons_of_neg hnot]
    · rw [List.find?_cons, List.find?_cons, ih]

/-- What is kept elsewhere stays when a template is stored. -/
theorem kept?_store_of_ne {dialect : Text} (h : (t.source.path, dialect) ≠ (path, name)) :
    (cache.store t dialect).kept? path name = cache.kept? path name := by
  apply find?_putEntry_of_ne
  simpa [Entry.isAt] using h

theorem kept?_congr {cache' : Cache} (h : cache'.entries = cache.entries)
    (path name : Text) : cache'.kept? path name = cache.kept? path name := by
  rw [kept?, kept?, h]

end Cache

namespace Compilation

/-- Where a template is found, it is the result. -/
theorem cached_of_hit (h : (cache.lookup s d.name).1 = some t) :
    (cached d s cache).result = .ok t ∧
      (cached d s cache).cache = some (cache.lookup s d.name).2 := by
  rw [cached]
  split
  · next t' c hlookup =>
    rw [hlookup] at h ⊢
    cases h
    exact ⟨rfl, rfl⟩
  · next c hlookup =>
    rw [hlookup] at h
    cases h

/-- Where none is found, the source is compiled, and a template that comes of it is kept. -/
theorem cached_of_miss (h : (cache.lookup s d.name).1 = none) :
    (cached d s cache).result = Template.compile d s ∧
      (cached d s cache).cache = some
        (match Template.compile d s with
        | .ok t => (cache.lookup s d.name).2.store t d.name
        | .error _ => (cache.lookup s d.name).2) := by
  rw [cached]
  split
  · next t' c hlookup =>
    rw [hlookup] at h
    cases h
  · next c hlookup =>
    rw [hlookup]
    cases Template.compile d s <;> exact ⟨rfl, rfl⟩

end Compilation

end laws

/-! ## Calls -/

/-- A call that compiles the template in a file: the files as they are at that moment, the dialect
and the path. -/
structure Call where
  files : FileTable
  dialect : Dialect
  path : Path

namespace Call

/-- The source that is loaded, if there is one. -/
def source? (c : Call) : Option Source := (Source.load c.files c.path).toOption

def key (c : Call) : Text × Text := (c.path.toText, c.dialect.name)

def fresh (c : Call) : Except CompileFault Template :=
  (Compilation.ofFile c.files c.dialect c.path none).result

def run (c : Call) (cache : Cache) : Compilation :=
  Compilation.ofFile c.files c.dialect c.path (some cache)

def next (c : Call) (cache : Cache) : Cache := (c.run cache).cache.getD cache

end Call

/-- The cache after some calls, the first of which found it empty. -/
def Cache.after (calls : List Call) : Cache :=
  calls.foldl (fun cache call => call.next cache) .empty

def NoCollision (calls : List Call) : Prop :=
  ∀ c ∈ calls, ∀ c' ∈ calls, ∀ s s', c.source? = some s → c'.source? = some s' → ¬ s.Collide s'

/-! ## The history of a cache -/

/-- Of the call whose template was kept and the next one under the same key, the call whose template
is kept then. -/
def keepNext (kept : Option Call) (call : Call) : Option Call :=
  if call.fresh.isOk && kept.all fun e => e.source? ≠ call.source? then some call else kept

/-- The call whose template is kept under a key after some calls. -/
def keeper (key : Text × Text) (calls : List Call) : Option Call :=
  (calls.filter (·.key = key)).foldl keepNext none

theorem keeper_concat_self (past : List Call) (call : Call) :
    keeper call.key (past ++ [call]) = keepNext (keeper call.key past) call := by
  simp [keeper]

theorem keeper_concat_of_ne {key : Text × Text} {call : Call} (h : call.key ≠ key)
    (past : List Call) : keeper key (past ++ [call]) = keeper key past := by
  simp [keeper, h]

theorem keepNext_of_served {kept : Option Call} {e call : Call} (hkept : kept = some e)
    (hserved : e.source? = call.source?) : keepNext kept call = kept := by
  simp [keepNext, hkept, hserved]

theorem keepNext_of_error {call : Call} {fault : CompileFault} (h : call.fresh = .error fault)
    (kept : Option Call) : keepNext kept call = kept := by
  simp [keepNext, h, Except.isOk, Except.toBool]

theorem keepNext_of_ok {kept : Option Call} {call : Call} {t : Template}
    (hother : ∀ e, kept = some e → e.source? ≠ call.source?) (h : call.fresh = .ok t) :
    keepNext kept call = some call := by
  rw [keepNext, if_pos]
  cases kept with
  | none => simp [h, Except.isOk, Except.toBool]
  | some e => simp [h, Except.isOk, Except.toBool, hother e rfl]

theorem mem_of_foldl_keepNext {kept : Option Call} {calls : List Call} {e : Call}
    (h : calls.foldl keepNext kept = some e) : e ∈ calls ∨ kept = some e := by
  induction calls generalizing kept with
  | nil => exact .inr h
  | cons call calls ih =>
    rcases ih h with hmem | hkept
    · exact .inl (List.mem_cons_of_mem call hmem)
    · rw [keepNext] at hkept
      split at hkept
      · exact .inl (Option.some.inj hkept ▸ List.mem_cons_self)
      · exact .inr hkept

/-- What is kept under a key is the template of one of the calls with this key. -/
theorem mem_of_keeper {key : Text × Text} {calls : List Call} {e : Call}
    (h : keeper key calls = some e) : e ∈ calls ∧ e.key = key := by
  rcases mem_of_foldl_keepNext h with hmem | hnone
  · simpa using hmem
  · cases hnone

/-! ## One call -/

/-- An entry with the template that a call compiled. -/
structure KeptBy (entry : Cache.Entry) (c : Call) : Prop where
  source : c.source? = some entry.template.source
  fresh : c.fresh = .ok entry.template
  fingerprint : entry.fingerprint = entry.template.source.fingerprint

/-- A cache that keeps what some calls leave in it. -/
def Follows (past : List Call) (cache : Cache) : Prop :=
  ∀ path name, Option.Rel KeptBy (cache.kept? path name) (keeper (path, name) past)

/-- What is kept under the key of a call, if anything, was not compiled from the source of the
call. -/
def Unserved (past : List Call) (call : Call) : Prop :=
  ∀ e, keeper call.key past = some e → e.source? ≠ call.source?

/-- What a call can do after others: the result, and the cache after it. -/
inductive Step (past : List Call) (cache : Cache) (call : Call) :
    Except CompileFault Template → Cache → Prop
  /-- The template of an earlier call for the same source serves. -/
  | hit {e t} {next : Cache} : keeper call.key past = some e → e.source? = call.source? →
      e.fresh = .ok t → next.entries = cache.entries → Step past cache call (.ok t) next
  /-- A template is compiled and kept. -/
  | store {t} {next : Cache} : Unserved past call → call.source? = some t.source →
      call.fresh = .ok t → next.entries = cache.entries →
      Step past cache call (.ok t) (next.store t call.dialect.name)
  /-- Nothing is loaded or compiled, and what was kept stays. -/
  | failure {fault} {next : Cache} : Unserved past call → call.fresh = .error fault →
      next.entries = cache.entries → Step past cache call (.error fault) next

variable {past : List Call} {cache : Cache} {call : Call}

namespace Call

theorem source?_eq_some_iff {s : Source} :
    call.source? = some s ↔ Source.load call.files call.path = .ok s := by
  rw [source?]
  cases Source.load call.files call.path <;> simp [Except.toOption]

theorem fresh_of_load {s : Source} (h : Source.load call.files call.path = .ok s) :
    call.fresh = Template.compile call.dialect s := by
  rw [fresh, Compilation.ofFile, h]
  simp only [Compilation.fresh]
  split <;> simp [*]

theorem fresh_of_load_error {diagnostic : Diagnostic}
    (h : Source.load call.files call.path = .error diagnostic) :
    call.fresh = .error (.located diagnostic) := by
  rw [fresh, Compilation.ofFile, h]

/-- The result without a cache depends on the source and the dialect alone, if there is a source. -/
theorem fresh_congr {e call : Call} {s : Source} (he : e.source? = some s)
    (hcall : call.source? = some s) (hdialect : e.dialect = call.dialect) :
    e.fresh = call.fresh := by
  rw [fresh_of_load (source?_eq_some_iff.mp he), fresh_of_load (source?_eq_some_iff.mp hcall),
    hdialect]

end Call

/-- A kept template has the fingerprint of a source that is loaded under its path if it was compiled
from the same source. -/
theorem KeptBy.fingerprint_eq_iff {entry : Cache.Entry} {e : Call} {s : Source}
    (h : KeptBy entry e) (hpath : e.path.toText = call.path.toText)
    (hcall : call.source? = some s) (hno : ¬ entry.template.source.Collide s) :
    entry.fingerprint = s.fingerprint ↔ e.source? = call.source? := by
  have he := Call.source?_eq_some_iff.mp h.source
  have hs := Call.source?_eq_some_iff.mp hcall
  rw [h.fingerprint, h.source, hcall, Option.some.injEq]
  constructor
  · intro hprint
    have hpaths : entry.template.source.path = s.path := by
      rw [(Source.of_load he).1, (Source.of_load hs).1, hpath]
    exact Source.eq_of_fingerprint he hs hno hpaths hprint
  · intro hsource
    rw [hsource]

/-- The invariant where a call looks. -/
theorem Follows.at (h : Follows past cache) (call : Call) :
    Option.Rel KeptBy (cache.kept? call.path.toText call.dialect.name) (keeper call.key past) :=
  h call.path.toText call.dialect.name

/-- What a look-up finds is the template of the call that compiled the same source. -/
theorem Follows.lookup_cases (h : Follows past cache) (hno : NoCollision (past ++ [call]))
    {s : Source} (hsource : call.source? = some s) :
    (∃ e t, keeper call.key past = some e ∧ e.source? = call.source? ∧ e.fresh = .ok t ∧
      (cache.lookup s call.dialect.name).1 = some t) ∨
    (Unserved past call ∧ (cache.lookup s call.dialect.name).1 = none) := by
  have hrel := h.at call
  rw [← (Source.of_load (Call.source?_eq_some_iff.mp hsource)).1] at hrel
  generalize hkept : cache.kept? s.path call.dialect.name = kept at hrel
  generalize hkeeper : keeper call.key past = keeping at hrel
  cases hrel with
  | none =>
    refine .inr ⟨?_, Cache.lookup_of_not_kept hkept⟩
    intro e he
    exact absurd (hkeeper.symm.trans he) (by simp)
  | @some entry e hby =>
    obtain ⟨hmem, hkey⟩ := mem_of_keeper hkeeper
    -- Without a collision the fingerprints tell the sources apart.
    have hcollide : ¬ entry.template.source.Collide s :=
      hno e (List.mem_append_left _ hmem) call (by simp) _ _ hby.source hsource
    have hprint := hby.fingerprint_eq_iff (congrArg Prod.fst hkey) hsource hcollide
    rw [Cache.lookup_of_kept hkept]
    by_cases hsame : e.source? = call.source?
    · exact .inl ⟨e, entry.template, rfl, hsame, hby.fresh, if_pos (hprint.mpr hsame)⟩
    · refine .inr ⟨?_, if_neg (mt hprint.mp hsame)⟩
      intro e' he'
      rwa [← Option.some.inj (hkeeper.symm.trans he')]

/-- Every call is one of the steps. -/
theorem Follows.step (h : Follows past cache) (hno : NoCollision (past ++ [call])) :
    Step past cache call (call.run cache).result (call.next cache) := by
  rw [Call.next]
  cases hload : Source.load call.files call.path with
  | error diagnostic =>
    have hrun : call.run cache = ⟨.error (.located diagnostic), some cache, []⟩ := by
      rw [Call.run, Compilation.ofFile, hload]
    rw [hrun]
    refine .failure ?_ (Call.fresh_of_load_error hload) rfl
    -- What is kept was compiled from a source, and this call has none.
    intro e he hsame
    have hrel := h.at call
    rw [he] at hrel
    generalize cache.kept? call.path.toText call.dialect.name = kept at hrel
    cases hrel with
    | some hby =>
      have hload' := Call.source?_eq_some_iff.mp (hsame ▸ hby.source)
      rw [hload] at hload'
      cases hload'
  | ok s =>
    have hsource := Call.source?_eq_some_iff.mpr hload
    have hrun : call.run cache = Compilation.cached call.dialect s cache := by
      rw [Call.run, Compilation.ofFile, hload]
    have hentries := cache.entries_lookup s call.dialect.name
    rw [hrun]
    rcases h.lookup_cases hno hsource with ⟨e, t, hkeeper, hsame, hfresh, hfound⟩ | ⟨hother, hnone⟩
    · obtain ⟨hresult, hcache⟩ := Compilation.cached_of_hit hfound
      rw [hresult, hcache]
      exact .hit hkeeper hsame hfresh hentries
    · -- An entry of another source does not serve, and stays if nothing is compiled.
      obtain ⟨hresult, hcache⟩ := Compilation.cached_of_miss hnone
      have hfresh := Call.fresh_of_load hload
      rw [hresult, hcache]
      cases hcompile : Template.compile call.dialect s with
      | ok t =>
        refine .store hother ?_ (hfresh.trans hcompile) hentries
        rw [hsource, source_of_compile hcompile]
      | error fault => exact .failure hother (hfresh.trans hcompile) hentries

/-! ## Many calls -/

/-- A step keeps the invariant. -/
theorem Step.follows {result : Except CompileFault Template} {next : Cache}
    (hstep : Step past cache call result next) (h : Follows past cache) :
    Follows (past ++ [call]) next := by
  intro path name
  by_cases hkey : call.key = (path, name)
  · -- Under its own key the call may be the one whose template is kept.
    rw [← hkey, keeper_concat_self]
    have hrel := h path name
    rw [← hkey] at hrel
    cases hstep with
    | hit hkeeper hsame _ hentries =>
      rwa [keepNext_of_served hkeeper hsame, Cache.kept?_congr hentries]
    | failure _ hfresh hentries =>
      rwa [keepNext_of_error hfresh, Cache.kept?_congr hentries]
    | @store t next hother hsource hfresh _ =>
      have hpath := (Source.of_load (Call.source?_eq_some_iff.mp hsource)).1
      obtain ⟨rfl, rfl⟩ := Prod.mk.inj hkey
      rw [keepNext_of_ok hother hfresh, ← hpath, Cache.kept?_store]
      exact .some ⟨hsource, hfresh, rfl⟩
  · -- Under any other key nothing changes.
    rw [keeper_concat_of_ne hkey]
    cases hstep with
    | hit _ _ _ hentries => exact Cache.kept?_congr hentries path name ▸ h path name
    | failure _ _ hentries => exact Cache.kept?_congr hentries path name ▸ h path name
    | @store t next _ hsource _ hentries =>
      have hpath := (Source.of_load (Call.source?_eq_some_iff.mp hsource)).1
      rw [Cache.kept?_store_of_ne (by rwa [hpath]), Cache.kept?_congr hentries]
      exact h path name

theorem NoCollision.mono {calls calls' : List Call} (h : NoCollision calls')
    (hsub : ∀ c ∈ calls, c ∈ calls') : NoCollision calls :=
  fun c hc c' hc' => h c (hsub c hc) c' (hsub c' hc')

theorem Follows.foldl (h : Follows past cache) {calls : List Call}
    (hno : NoCollision (past ++ calls)) :
    Follows (past ++ calls) (calls.foldl (fun cache call => call.next cache) cache) := by
  induction calls generalizing past cache with
  | nil => rwa [List.append_nil]
  | cons call calls ih =>
    have hcons : past ++ call :: calls = past ++ [call] ++ calls := by simp
    rw [hcons] at hno ⊢
    -- One step, and the rest of the calls with this one in the past.
    have hstep := h.step (hno.mono fun c hc => List.mem_append_left calls hc)
    exact ih (hstep.follows h) hno

/-- The cache follows the calls, whatever they were. -/
theorem follows_after {calls : List Call} (hno : NoCollision calls) :
    Follows calls (Cache.after calls) := by
  have hempty : Follows [] .empty := fun _ _ => .none
  exact hempty.foldl hno

/-- The template of another call serves with the result of that call. -/
theorem Step.result_eq_iff {result : Except CompileFault Template} {next : Cache}
    (h : Step past cache call result next) :
    result = call.fresh ↔
      ∀ e, keeper call.key past = some e → e.source? = call.source? → e.fresh = call.fresh := by
  cases h with
  | @hit e t _ hkeeper hsame hfresh _ =>
    rw [← hfresh]
    constructor
    · intro heq e' he' _
      rwa [← Option.some.inj (hkeeper.symm.trans he')]
    · intro hall
      exact hall e hkeeper hsame
  | store hother _ hfresh _ =>
    exact ⟨fun _ e he hsame => absurd hsame (hother e he), fun _ => hfresh.symm⟩
  | failure hother hfresh _ =>
    exact ⟨fun _ e he hsame => absurd hsame (hother e he), fun _ => hfresh.symm⟩

/-- After any calls, the next one has the result that it has without a cache, unless the template
that is kept for it was compiled from the same source for another dialect of the same name, with
another result. -/
theorem result_eq_fresh_iff (past : List Call) (call : Call)
    (hno : NoCollision (past ++ [call])) :
    (call.run (Cache.after past)).result = call.fresh ↔
      ∀ e, keeper call.key past = some e → e.source? = call.source? → e.fresh = call.fresh :=
  ((follows_after (hno.mono fun _ hc => List.mem_append_left _ hc)).step hno).result_eq_iff

/-! ### Two dialects of one name -/

/-- A dialect without comments that has the name of another one. -/
def namesake : Dialect := { Dialect.plain with name := "rust" }

/-- The record of a dialect of that name with comments. -/
def commentedRecord : Json :=
  .obj [("name", .str "rust"), ("comments", .obj [("block", .arr [.str "/*", .str "*/"])])]

def commented : Dialect := { namesake with blockComment := some ("/*", "*/") }

/-- A call for the template `{a /* b */}`. -/
def commentedCall (d : Dialect) : Call where
  files := (FileTable.empty []).put [['t']] (.file (Text.toUtf8 "\x7ba /* b */\x7d"))
  dialect := d
  path := .ofText "t"

/-- The second of two calls that are the same has the result that it has without a cache. -/
theorem result_eq_fresh_of_again :
    NoCollision [commentedCall commented, commentedCall commented] ∧
      ((commentedCall commented).run (Cache.after [commentedCall commented])).result =
        (commentedCall commented).fresh := by
  have hno : NoCollision ([commentedCall commented] ++ [commentedCall commented]) := by
    intro c hc c' hc' s s' hs hs' hcollide
    have hsame : ∀ e ∈ [commentedCall commented] ++ [commentedCall commented],
        e = commentedCall commented := by simp
    rw [hsame c hc] at hs
    rw [hsame c' hc'] at hs'
    obtain rfl := Option.some.inj (hs.symm.trans hs')
    exact hcollide.2 rfl
  refine ⟨hno, (result_eq_fresh_iff _ _ hno).mpr ?_⟩
  intro e he _
  rw [List.mem_singleton.mp (mem_of_keeper he).1]

/-- Two dialects of one name are mixed up, even if both were read from records. -/
theorem result_ne_fresh_of_namesake :
    ¬ ∀ past call, NoCollision (past ++ [call]) →
      (∀ c ∈ past ++ [call], ∃ record, Dialect.Record.read record = .ok c.dialect) →
      (call.run (Cache.after past)).result = call.fresh := by
  intro hall
  have hloads : ∀ c ∈ [commentedCall namesake] ++ [commentedCall commented],
      c.source? = some ⟨"t", "\x7ba /* b */\x7d"⟩ := by
    refine List.forall_mem_cons.mpr ⟨?_, List.forall_mem_singleton.mpr ?_⟩ <;> decide +kernel
  have hno : NoCollision ([commentedCall namesake] ++ [commentedCall commented]) := by
    intro c hc c' hc' s s' hs hs' hcollide
    obtain rfl := Option.some.inj ((hloads c hc).symm.trans hs)
    obtain rfl := Option.some.inj ((hloads c' hc').symm.trans hs')
    exact hcollide.2 rfl
  have hread : ∀ c ∈ [commentedCall namesake] ++ [commentedCall commented],
      ∃ record, Dialect.Record.read record = .ok c.dialect := by
    refine List.forall_mem_cons.mpr ⟨?_, List.forall_mem_singleton.mpr ?_⟩
    · exact ⟨.obj [("name", .str "rust")], by cbv⟩
    · exact ⟨commentedRecord, by cbv⟩
  have hplan := congrArg (fun r => r.toOption.map Template.plan)
    (hall [commentedCall namesake] (commentedCall commented) hno hread)
  revert hplan
  decide +kernel

/-! ### One dialect for each name -/

/-- The cache does not show where every name stands for one dialect. -/
theorem result_eq_fresh_of_names (past : List Call) (call : Call)
    (hno : NoCollision (past ++ [call]))
    (hnames : ∀ e ∈ past, e.dialect.name = call.dialect.name → e.dialect = call.dialect) :
    (call.run (Cache.after past)).result = call.fresh := by
  have hfollows := follows_after (hno.mono fun _ hc => List.mem_append_left _ hc)
  refine (hfollows.step hno).result_eq_iff.mpr ?_
  intro e he hsame
  obtain ⟨hmem, hkey⟩ := mem_of_keeper he
  have hrel := hfollows.at call
  rw [he] at hrel
  generalize (Cache.after past).kept? call.path.toText call.dialect.name = kept at hrel
  cases hrel with
  | some hby =>
    exact Call.fresh_congr hby.source (hsame ▸ hby.source)
      (hnames e hmem (congrArg Prod.snd hkey))

end Stencil
