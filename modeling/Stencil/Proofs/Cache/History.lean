import Mathlib.Data.List.DropRight
import Stencil.Proofs.Cache

/-! # What a cache keeps after any use of it

  A cache is used in four ways: a template is looked up, or stored, or all of them are dropped, or
  a file is compiled, which looks a template up and may store one. Two lemmas say what one use does,
  and everything else is read off them:

  * `Action.counted_next`: what is counted, one look-up more unless all is dropped;
  * `Action.mem_entries_next`: which entries there are, the old ones and one that is made from a
    template of the action.

  So after any history every entry lies under the path of its template and has its fingerprint, the
  counts are those of the look-ups since the cache was last dropped, and a template that is found
  was made from the very source that was asked for (`kept_after_history`).
-/

namespace Stencil

namespace Cache

/-! ### Actions -/

/-- One use of a cache. -/
inductive Action where
  /-- A template is looked up for a source. -/
  | get (s : Source) (d : Dialect)
  /-- A template is stored, whatever it was compiled with. -/
  | put (t : Template) (d : Dialect)
  /-- All templates are dropped, and counting begins anew. -/
  | clear
  /-- The template in a file is compiled. -/
  | compile (call : Call)

namespace Action

def source? : Action → Option Source
  | get s _ => some s
  | put t _ => some t.source
  | clear => none
  | compile call => call.source?

/-- Whether an action drops all templates. -/
def isClear : Action → Bool
  | clear => true
  | _ => false

def looksUp : Action → Bool
  | get _ _ => true
  | compile call => call.source?.isSome
  | _ => false

def next (cache : Cache) : Action → Cache
  | get s d => (cache.lookup s d.name).2
  | put t d => cache.store t d.name
  | clear => .empty
  | compile call => call.next cache

/-- The source of an action comes from a file. -/
def Loaded (a : Action) : Prop :=
  ∀ s, a.source? = some s → ∃ files p, Source.load files p = .ok s

end Action

/-- The cache after some actions, the first of which found it empty. -/
def afterActions (past : List Action) : Cache := past.foldl Action.next .empty

/-- The number of look-ups since all templates were last dropped. -/
def lookups (past : List Action) : Nat :=
  (past.rtakeWhile fun a => !a.isClear).countP Action.looksUp

def counted (cache : Cache) : Nat := cache.hits + cache.misses

/-- An entry lies where its template belongs, and has the fingerprint of its template. -/
structure Entry.Sound (e : Entry) : Prop where
  path : e.template.source.path = e.path
  fingerprint : e.fingerprint = e.template.source.fingerprint

/-! ### What one action does -/

theorem counted_lookup (cache : Cache) (s : Source) (name : Text) :
    (cache.lookup s name).2.counted = cache.counted + 1 := by
  rw [lookup]
  split
  · split
    · show cache.hits + 1 + cache.misses = cache.hits + cache.misses + 1
      omega
    · rfl
  · rfl

theorem counted_store (cache : Cache) (t : Template) (name : Text) :
    (cache.store t name).counted = cache.counted := rfl

theorem mem_putEntry {new e : Entry} {entries : List Entry} (h : e ∈ putEntry new entries) :
    e = new ∨ e ∈ entries := by
  induction entries with
  | nil => exact .inl (List.mem_singleton.mp h)
  | cons e' entries ih =>
    rw [putEntry] at h
    split at h
    · exact (List.mem_cons.mp h).imp_right (List.mem_cons_of_mem e')
    · rcases List.mem_cons.mp h with rfl | h
      · exact .inr List.mem_cons_self
      · exact (ih h).imp_right (List.mem_cons_of_mem e')

end Cache

namespace Call

/-- What a call does to a cache: nothing if its file does not load, else it looks a template up, and
stores one if it compiles one from the source. -/
theorem run_cases (call : Call) (cache : Cache) :
    (call.source? = none ∧ call.next cache = cache) ∨
      ∃ s, call.source? = some s ∧
        (call.next cache = (cache.lookup s call.dialect.name).2 ∨
          ∃ t, t.source = s ∧ (call.run cache).result = .ok t ∧
            call.next cache = (cache.lookup s call.dialect.name).2.store t call.dialect.name) := by
  unfold next run Compilation.ofFile
  cases hload : Source.load call.files call.path with
  | error diagnostic =>
    refine .inl ⟨?_, rfl⟩
    rw [source?, hload]
    rfl
  | ok s =>
    refine .inr ⟨s, source?_eq_some_iff.mpr hload, ?_⟩
    dsimp only
    -- A template is compiled only where none is found.
    cases hfound : (cache.lookup s call.dialect.name).1 with
    | some t =>
      rw [(Compilation.cached_of_hit hfound).2]
      exact .inl rfl
    | none =>
      obtain ⟨hresult, hnext⟩ := Compilation.cached_of_miss hfound
      rw [hresult, hnext]
      cases hcompile : Template.compile call.dialect s with
      | ok t => exact .inr ⟨t, source_of_compile hcompile, rfl, rfl⟩
      | error fault => exact .inl rfl

/-- A call that fails leaves what was kept. -/
theorem entries_of_error {call : Call} {cache : Cache} {fault : CompileFault}
    (h : (call.run cache).result = .error fault) : (call.next cache).entries = cache.entries := by
  rcases call.run_cases cache with ⟨_, hnext⟩ | ⟨s, _, hnext | ⟨t, _, hresult, _⟩⟩
  · rw [hnext]
  · rw [hnext]
    exact cache.entries_lookup s call.dialect.name
  · rw [hresult] at h
    cases h

end Call

namespace Cache

variable {cache : Cache} {s : Source} {t : Template} {name : Text}

namespace Action

/-- What is counted after an action. -/
theorem counted_next (a : Action) (cache : Cache) :
    (a.next cache).counted =
      if a.isClear then 0 else cache.counted + if a.looksUp then 1 else 0 := by
  cases a with
  | get s d => exact counted_lookup cache s d.name
  | put t d => exact counted_store cache t d.name
  | clear => rfl
  | compile call =>
    show (call.next cache).counted = cache.counted + if call.source?.isSome then 1 else 0
    rcases call.run_cases cache with ⟨hsource, hnext⟩ | ⟨s, hsource, hnext⟩
    · rw [hsource, hnext]
      rfl
    · rw [hsource, Option.isSome_some, if_pos rfl]
      rcases hnext with hnext | ⟨t, _, _, hnext⟩
      · rw [hnext]
        exact counted_lookup cache s call.dialect.name
      · rw [hnext, counted_store]
        exact counted_lookup cache s call.dialect.name

/-- The entries after an action: those there were, and one for a template made from its source. -/
theorem mem_entries_next {a : Action} {e : Entry} (h : e ∈ (a.next cache).entries) :
    e ∈ cache.entries ∨ e.Sound ∧ a.source? = some e.template.source := by
  -- Storing a template is the only way to a new entry.
  have stored {c : Cache} {t : Template} {d : Dialect} (hc : c.entries = cache.entries)
      (h : e ∈ (c.store t d.name).entries) :
      e ∈ cache.entries ∨ e.Sound ∧ e.template = t := by
    rcases mem_putEntry h with rfl | h
    · exact .inr ⟨⟨rfl, rfl⟩, rfl⟩
    · exact .inl (hc ▸ h)
  cases a with
  | get s d =>
    left
    rw [← cache.entries_lookup s d.name]
    exact h
  | put t d =>
    refine (stored rfl h).imp_right ?_
    rintro ⟨hsound, htemplate⟩
    exact ⟨hsound, by rw [htemplate]; rfl⟩
  | clear => exact absurd h List.not_mem_nil
  | compile call =>
    have hnext : e ∈ (call.next cache).entries := h
    rcases call.run_cases cache with
      ⟨_, hsame⟩ | ⟨s, hsource, hsame | ⟨t, htemplate, _, hstore⟩⟩
    · rw [hsame] at hnext
      exact .inl hnext
    · rw [hsame, cache.entries_lookup] at hnext
      exact .inl hnext
    · rw [hstore] at hnext
      refine (stored (cache.entries_lookup s call.dialect.name) hnext).imp_right ?_
      rintro ⟨hsound, rfl⟩
      refine ⟨hsound, ?_⟩
      show call.source? = _
      rw [hsource, htemplate]

end Action

/-! ### What a history leaves -/

theorem afterActions_concat (past : List Action) (a : Action) :
    afterActions (past ++ [a]) = a.next (afterActions past) := by
  rw [afterActions, List.foldl_concat]
  rfl

theorem lookups_concat (past : List Action) (a : Action) :
    lookups (past ++ [a]) = if a.isClear then 0 else lookups past + if a.looksUp then 1 else 0 := by
  unfold lookups
  cases hclear : a.isClear with
  | true =>
    rw [List.rtakeWhile_concat_neg _ _ _ (by simp [hclear])]
    rfl
  | false =>
    rw [List.rtakeWhile_concat_pos _ _ _ (by simp [hclear]), List.countP_append,
      List.countP_singleton]
    rfl

/-- A cache has counted the look-ups since it was last dropped. -/
theorem counted_afterActions (past : List Action) : (afterActions past).counted = lookups past := by
  induction past using List.reverseRecOn with
  | nil => rfl
  | append_singleton past a ih =>
    rw [afterActions_concat, Action.counted_next, ih, lookups_concat]

/-- Every entry is sound, and its template was made from the source of some action. -/
theorem mem_entries_afterActions {past : List Action} {e : Entry}
    (h : e ∈ (afterActions past).entries) :
    e.Sound ∧ ∃ a ∈ past, a.source? = some e.template.source := by
  induction past using List.reverseRecOn with
  | nil => exact absurd h List.not_mem_nil
  | append_singleton past a ih =>
    rw [afterActions_concat] at h
    rcases Action.mem_entries_next h with h | ⟨hsound, hsource⟩
    · obtain ⟨hsound, a', ha', hsource⟩ := ih h
      exact ⟨hsound, a', List.mem_append_left _ ha', hsource⟩
    · exact ⟨hsound, a, by simp, hsource⟩

/-! ### What is found -/

/-- What is found for a source is the template of an entry under its path, with its fingerprint. -/
theorem exists_entry_of_lookup (h : (cache.lookup s name).1 = some t) :
    ∃ e ∈ cache.entries, e.template = t ∧ e.path = s.path ∧ e.dialect = name ∧
      e.fingerprint = s.fingerprint := by
  cases hkept : cache.kept? s.path name with
  | none =>
    rw [lookup_of_not_kept hkept] at h
    cases h
  | some e =>
    rw [lookup_of_kept hkept] at h
    split at h
    · next hprint =>
      obtain rfl := Option.some.inj h
      have hat : e.path = s.path ∧ e.dialect = name := by
        have hfind := List.find?_some hkept
        simpa [Entry.isAt] using hfind
      exact ⟨e, List.mem_of_find?_eq_some hkept, rfl, hat.1, hat.2, hprint⟩
    · cases h

/-- After any actions on loaded sources, every entry under a path and a name holds a template of
this path, with its own fingerprint; the look-ups since the last clearing are counted; a call that
fails leaves the entries; and a template that is found for a loaded source, by a look-up or by a
call, was made from this source, unless its bytes collide with those of another one. -/
theorem kept_after_history (past : List Action) (hloaded : ∀ a ∈ past, a.Loaded) :
    (∀ path name e, (afterActions past).kept? path name = some e →
      e.template.source.path = path ∧ e.fingerprint = e.template.source.fingerprint) ∧
    (afterActions past).hits + (afterActions past).misses = lookups past ∧
    (∀ (call : Call) (fault : CompileFault),
      (call.run (afterActions past)).result = .error fault →
      (call.next (afterActions past)).entries = (afterActions past).entries) ∧
    ∀ (files : FileTable) (p : Path) (s : Source) (name : Text) (t : Template),
      Source.load files p = .ok s →
      (∀ a ∈ past, ∀ s', a.source? = some s' → ¬ s'.Collide s) →
      ((afterActions past).lookup s name).1 = some t → t.source = s := by
  refine ⟨?_, counted_afterActions past, fun call fault => Call.entries_of_error, ?_⟩
  · intro path name e hkept
    obtain ⟨hsound, _⟩ := mem_entries_afterActions (List.mem_of_find?_eq_some hkept)
    have hat : e.isAt path name = true := List.find?_some hkept
    rw [Entry.isAt, Bool.and_eq_true, decide_eq_true_eq] at hat
    exact ⟨hsound.path.trans hat.1, hsound.fingerprint⟩
  · -- What is found was made from a source with the same path and fingerprint.
    intro files p s name t hload hno hfound
    obtain ⟨e, he, rfl, hpath, _, hprint⟩ := exists_entry_of_lookup hfound
    obtain ⟨hsound, a, ha, hsource⟩ := mem_entries_afterActions he
    obtain ⟨files', p', hload'⟩ := hloaded a ha _ hsource
    exact Source.eq_of_fingerprint hload' hload (hno a ha _ hsource) (hsound.path.trans hpath)
      (hsound.fingerprint.symm.trans hprint)

/-- A call for a template, all dropped, and two calls for the same template again. -/
def clearedHistory : List Action :=
  [.compile (commentedCall commented), .clear, .compile (commentedCall commented),
    .compile (commentedCall commented)]

def commentedSource : Source := ⟨"t", "\x7ba /* b */\x7d"⟩

/-- Of the three look-ups two are counted, and the template that is found was made from the source
of the calls. -/
theorem kept_after_clearing :
    (∀ a ∈ clearedHistory, a.Loaded) ∧ lookups clearedHistory = 2 ∧
      (afterActions clearedHistory).hits + (afterActions clearedHistory).misses = 2 ∧
      ∃ t, ((afterActions clearedHistory).lookup commentedSource commented.name).1 = some t ∧
        t.source = commentedSource := by
  have hload : Source.load (commentedCall commented).files (commentedCall commented).path =
      .ok commentedSource := Call.source?_eq_some_iff.mp (by decide +kernel)
  -- All actions are on the same source, so that no two of them collide.
  have hsource : ∀ a ∈ clearedHistory, ∀ s, a.source? = some s → s = commentedSource := by
    intro a ha s hs
    have hcall : a = .clear ∨ a = .compile (commentedCall commented) := by
      simp only [clearedHistory, List.mem_cons, List.not_mem_nil, or_false] at ha
      tauto
    rcases hcall with rfl | rfl
    · cases hs
    · exact Option.some.inj (hs.symm.trans (Call.source?_eq_some_iff.mpr hload))
  have hloaded : ∀ a ∈ clearedHistory, a.Loaded := by
    intro a ha s hs
    rw [hsource a ha s hs]
    exact ⟨_, _, hload⟩
  have htwo : lookups clearedHistory = 2 := by decide +kernel
  have hsome : ((afterActions clearedHistory).lookup commentedSource commented.name).1.isSome =
      true := by decide +kernel
  obtain ⟨t, ht⟩ := Option.isSome_iff_exists.mp hsome
  obtain ⟨_, hcounted, _, hfound⟩ := kept_after_history clearedHistory hloaded
  refine ⟨hloaded, htwo, hcounted.trans htwo, t, ht, ?_⟩
  refine hfound _ _ commentedSource _ t hload ?_ ht
  intro a ha s hs hcollide
  exact hcollide.2 (by rw [hsource a ha s hs])

end Cache
end Stencil
