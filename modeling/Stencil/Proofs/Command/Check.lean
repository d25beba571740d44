import Stencil.Command.Run
import Stencil.Proofs.Cache
import Stencil.Proofs.FreeNames
import Stencil.Proofs.Path
import Stencil.Proofs.Source

/-! # Checking templates

  A check compiles some templates one after the other, with one cache for all of them, and reports
  those that do not compile. In a built-in dialect:

  * the cache does not show, because the files stay as they are and a path is told from its spelling
    (`ofFile_of_faithful`);
  * every template is compiled, or refused with a diagnostic, or holds digits in a format specifier
    that spell no number (`alone_cases`);
  * only the last of these breaks off the check, and it does so before anything is printed
    (`check_ends_iff`).
-/

namespace Stencil

open Dialect (rust python)

variable {files : FileTable} {d : Dialect} {cache : Option Cache} {template : Text}

/-! ### The cache -/

/-- What a cache keeps for the templates in some files is what comes of compiling them. -/
def Cache.Faithful (files : FileTable) (d : Dialect) (c : Cache) : Prop :=
  ∀ t s entry, Source.load files (Path.ofText t) = .ok s → c.kept? s.path d.name = some entry →
    Template.compile d s = .ok entry.template

theorem Cache.faithful_empty : Cache.empty.Faithful files d := nofun

theorem Cache.Faithful.congr {c c' : Cache} (h : c.Faithful files d)
    (hentries : c'.entries = c.entries) : c'.Faithful files d := by
  intro t s entry hs hkept
  rw [kept?_congr hentries] at hkept
  exact h t s entry hs hkept

/-- A template may be kept once it is compiled: no other template has its path. -/
theorem Cache.Faithful.store {c : Cache} (h : c.Faithful files d) {s : Source} {t : Template}
    (hs : Source.load files (Path.ofText template) = .ok s)
    (hcompile : Template.compile d s = .ok t) : (c.store t d.name).Faithful files d := by
  intro u s' entry hs' hkept
  have hsource : t.source = s := source_of_compile hcompile
  by_cases hpath : s'.path = s.path
  · have hsame : Path.ofText u = Path.ofText template := by
      apply Path.ofText_injective_of_toText
      rw [← (Source.of_load hs').1, ← (Source.of_load hs).1, hpath]
    rw [hsame, hs] at hs'
    obtain rfl := Except.ok.inj hs'
    have hstored := kept?_store c t d.name
    rw [hsource] at hstored
    rw [hstored] at hkept
    obtain rfl := Option.some.inj hkept
    exact hcompile
  · rw [kept?_store_of_ne (by rw [hsource]; exact fun heq => hpath (Prod.mk.inj heq).1.symm)] at hkept
    exact h u s' entry hs' hkept

theorem Compilation.result_fresh (d : Dialect) (s : Source) :
    (fresh d s).result = Template.compile d s := by
  unfold fresh
  cases Template.compile d s <;> rfl

/-- The files are the same for all templates of a check, so a cache that is faithful to them does
not show, and stays faithful. -/
theorem ofFile_of_faithful (hcache : ∀ c ∈ cache, c.Faithful files d) (template : Text) :
    (Compilation.ofFile files d (Path.ofText template) cache).result =
        (Compilation.ofFile files d (Path.ofText template) none).result ∧
      ∀ c ∈ (Compilation.ofFile files d (Path.ofText template) cache).cache,
        c.Faithful files d := by
  unfold Compilation.ofFile
  cases hs : Source.load files (Path.ofText template) with
  | error diagnostic => exact ⟨rfl, hcache⟩
  | ok s =>
    cases cache with
    | none =>
      refine ⟨rfl, ?_⟩
      dsimp only
      unfold Compilation.fresh
      cases Template.compile d s <;> exact nofun
    | some c =>
      have hc := hcache c rfl
      have hlookup := hc.congr (Cache.entries_lookup c s d.name)
      dsimp only
      rw [Compilation.result_fresh]
      cases hfound : (c.lookup s d.name).1 with
      | some t =>
        obtain ⟨hresult, hnext⟩ := Compilation.cached_of_hit hfound
        rw [hresult, hnext]
        refine ⟨?_, fun c' hc' => Option.some.inj hc' ▸ hlookup⟩
        -- What is found was stored for the same source, so that it is what would be compiled.
        cases hkept : c.kept? s.path d.name with
        | none =>
          rw [Cache.lookup_of_not_kept hkept] at hfound
          cases hfound
        | some entry =>
          rw [Cache.lookup_of_kept hkept] at hfound
          split at hfound
          · obtain rfl := Option.some.inj hfound
            exact (hc template s entry hs hkept).symm
          · cases hfound
      | none =>
        obtain ⟨hresult, hnext⟩ := Compilation.cached_of_miss hfound
        rw [hresult, hnext]
        refine ⟨rfl, fun c' hc' => ?_⟩
        obtain rfl := Option.some.inj hc'
        -- Nothing is stored of a template that is refused.
        cases hcompile : Template.compile d s with
        | ok t => exact hlookup.store hs hcompile
        | error fault => exact hlookup

/-! ### The log -/

/-- Compiling a template is told at the lowest level only. -/
theorem level_of_mem_log {p : Path} {l : LogLine}
    (h : l ∈ (Compilation.ofFile files d p cache).log) : l.level = .debug := by
  have htemplate (t : Template) (h : l ∈ t.log) : l.level = .debug := by
    unfold Template.log at h
    simp only [List.mem_cons, List.not_mem_nil, or_false] at h
    rcases h with rfl | rfl <;> rfl
  unfold Compilation.ofFile at h
  split at h
  · exact absurd h List.not_mem_nil
  · split at h
    · unfold Compilation.fresh at h
      split at h
      · exact htemplate _ h
      · exact absurd h List.not_mem_nil
    · unfold Compilation.cached at h
      split at h
      · rw [List.mem_singleton.mp h]
        rfl
      · dsimp only at h
        split at h
        · rcases List.mem_cons.mp h with rfl | h
          · rfl
          · exact htemplate _ h
        · rw [List.mem_singleton.mp h]
          rfl

/-- Unless all lines are asked for, lines of the lowest level are not printed. -/
theorem print_debug {log : List LogLine} (h : ∀ l ∈ log, l.level = .debug) :
    LogLine.print false log = [] := by
  have hnone : log.filter (fun l => false || l.level = .warning) = [] := by
    rw [List.filter_eq_nil_iff]
    intro l hl
    rw [h l hl]
    decide
  unfold LogLine.print
  rw [hnone]
  rfl

namespace Request

/-! ### Single templates -/

/-- The diagnostic of a template that is refused when its file alone is compiled. -/
def diagnosticAlone? (files : FileTable) (d : Dialect) (template : Text) : Option Diagnostic :=
  match (Compilation.ofFile files d (Path.ofText template) none).result with
  | .error (.located diagnostic) => some diagnostic
  | _ => none

/-- The template in a file holds digits, where a format specifier has a number, that spell none. -/
def StopsAtNumber (files : FileTable) (d : Dialect) (template : Text) : Prop :=
  ∃ s n, Source.load files (Path.ofText template) = .ok s ∧
    Template.read d s.text = .error (.number n)

/-- A template that stops at a number is the only one whose compilation is broken off. -/
theorem alone_cases (hd : d = rust ∨ d = python) (files : FileTable) (template : Text) :
    (¬ StopsAtNumber files d template ∧
        ∀ f, (Compilation.ofFile files d (Path.ofText template) none).result ≠ .error (.bare f)) ∨
      ∃ n, (Compilation.ofFile files d (Path.ofText template) none).result =
          .error (.bare (.number n)) ∧ StopsAtNumber files d template := by
  unfold StopsAtNumber Compilation.ofFile
  cases hs : Source.load files (Path.ofText template) with
  | error x =>
    refine .inl ⟨fun ⟨s, n, hok, _⟩ => ?_, fun f hf => ?_⟩
    · cases hok
    · cases hf
  | ok s =>
    dsimp only
    rw [Compilation.result_fresh]
    -- Reading the template is the only step that can stop at a number.
    by_cases hread : ∃ n, Template.read d s.text = .error (.number n)
    · obtain ⟨n, hn⟩ := hread
      refine .inr ⟨n, ?_, s, n, rfl, hn⟩
      unfold Template.compile
      rw [hn]
      rfl
    · refine .inl ⟨fun ⟨s', n, hok, hn⟩ => hread ⟨n, Except.ok.inj hok ▸ hn⟩, fun f hf => ?_⟩
      obtain ⟨n, _, hn⟩ := number_of_bare hd hf
      exact hread ⟨n, hn⟩

/-! ### Checks -/

/-- A template that is compiled or refused adds its diagnostic, if it has one, to those of the
templates after it. -/
theorem checkAll_cons {templates : List Text}
    (hcache : ∀ c ∈ cache, c.Faithful files d)
    (h : ∀ f, (Compilation.ofFile files d (Path.ofText template) none).result ≠ .error (.bare f)) :
    checkAll files d cache (template :: templates) =
      (checkAll files d (Compilation.ofFile files d (Path.ofText template) cache).cache
        templates).map fun r => ((diagnosticAlone? files d template).toList ++ r.1,
          (Compilation.ofFile files d (Path.ofText template) cache).log ++ r.2) := by
  rw [checkAll, (ofFile_of_faithful hcache template).1]
  dsimp only
  unfold diagnosticAlone?
  generalize (Compilation.ofFile files d (Path.ofText template) none).result = alone at h ⊢
  cases alone with
  | ok t => cases checkAll files d _ templates <;> rfl
  | error fault =>
    cases fault with
    | located x => cases checkAll files d _ templates <;> rfl
    | bare f => exact absurd rfl (h f)

/-- A check of all templates goes through unless one of them stops at a number, and then it has the
diagnostics of those that are refused. -/
theorem checkAll_cases (hd : d = rust ∨ d = python) (hcache : ∀ c ∈ cache, c.Faithful files d)
    (templates : List Text) :
    (∃ log, checkAll files d cache templates =
          .ok (templates.filterMap (diagnosticAlone? files d), log) ∧
        (∀ l ∈ log, l.level = .debug) ∧ ∀ t ∈ templates, ¬ StopsAtNumber files d t) ∨
      ∃ n, checkAll files d cache templates = .error (.failure (.number n)) ∧
        ∃ t ∈ templates, StopsAtNumber files d t := by
  induction templates generalizing cache with
  | nil => exact .inl ⟨[], rfl, nofun, nofun⟩
  | cons t templates ih =>
    obtain ⟨hresult, hnext⟩ := ofFile_of_faithful hcache t
    rcases alone_cases hd files t with ⟨hstops, halone⟩ | ⟨n, halone, hstops⟩
    · rw [checkAll_cons hcache halone]
      rcases ih hnext with ⟨log, hall, hlevel, hnone⟩ | ⟨n, hall, u, hu, hstops⟩
      · rw [hall]
        refine .inl ⟨(Compilation.ofFile files d (Path.ofText t) cache).log ++ log, ?_, ?_,
          List.forall_mem_cons.mpr ⟨hstops, hnone⟩⟩
        · rw [List.filterMap_cons]
          cases diagnosticAlone? files d t <;> rfl
        · intro l hl
          rcases List.mem_append.mp hl with hl | hl
          · exact level_of_mem_log hl
          · exact hlevel l hl
      · rw [hall]
        exact .inr ⟨n, rfl, u, List.mem_cons_of_mem t hu, hstops⟩
    · rw [checkAll, hresult, halone]
      exact .inr ⟨n, rfl, t, List.mem_cons_self, hstops⟩

/-- What is printed of some diagnostics: nothing where there are none. -/
def reportOf (found : List Diagnostic) : Text :=
  if found = [] then [] else Diagnostic.report found

theorem check_of_checkAll {config : Config} {verbose : Bool} {templates : List Text}
    {found : List Diagnostic} {log : List LogLine}
    (h : checkAll files config.dialect cache templates = .ok (found, log)) :
    check files config verbose cache templates =
      .ok ⟨if found = [] then 0 else 2, [], LogLine.print verbose log ++ reportOf found, files⟩ := by
  unfold check reportOf
  rw [h]
  cases found with
  | nil =>
    rw [if_pos rfl, if_pos rfl, List.append_nil]
    rfl
  | cons x found => rfl

/-- What a check leaves that has found some diagnostics. -/
structure Checked (files : FileTable) (verbose : Bool) (found : List Diagnostic) (o : Outcome) :
    Prop where
  status : o.status = if found = [] then 0 else 2
  stdout : o.stdout = []
  /-- The diagnostics are reported after the log, which is empty unless it is asked for. -/
  stderr : ∃ log, o.stderr = log ++ reportOf found ∧ (verbose = false → log = [])
  files : o.files = files

/-- In a built-in dialect a check ends unless a template stops at a number. A check that ends has
reported the diagnostics of the templates that are refused, each as it is when its file alone is
compiled and in the order of the arguments, and tells by its status whether there are any. One that
does not end breaks off for a number. -/
theorem check_ends_iff {r : Request} {config : Config} {templates : List Text}
    (hconfig : configuration files r = .ok config)
    (hd : config.dialect = rust ∨ config.dialect = python)
    (hcheck : r.command = .check templates) :
    ((∃ o, run files r = .ok o) ↔
        ∀ t ∈ templates, ¬ StopsAtNumber files config.dialect t) ∧
      (∀ o, run files r = .ok o →
        Checked files r.verbose (templates.filterMap (diagnosticAlone? files config.dialect)) o) ∧
      ∀ c, run files r = .error c → ∃ n, c = .failure (.number n) := by
  have hrun : run files r =
      check files config r.verbose (if config.cache then some Cache.empty else none) templates := by
    unfold run
    rw [hconfig, hcheck]
  have hcache : ∀ c ∈ (if config.cache then some Cache.empty else none : Option Cache),
      c.Faithful files config.dialect := by
    intro c hc
    split at hc
    · exact Option.some.inj hc ▸ Cache.faithful_empty
    · cases hc
  -- Either the check goes through all templates, or one of them breaks it off.
  rcases checkAll_cases hd hcache templates with ⟨log, hall, hlevel, hnone⟩ |
    ⟨n, hall, u, hu, hstops⟩
  · rw [hrun, check_of_checkAll hall]
    refine ⟨⟨fun _ => hnone, fun _ => ⟨_, rfl⟩⟩, fun o ho => ?_, fun c hc => ?_⟩
    · obtain rfl := Except.ok.inj ho
      exact ⟨rfl, rfl, ⟨_, rfl, fun hquiet => hquiet ▸ print_debug hlevel⟩, rfl⟩
    · cases hc
  · have hcrash : run files r = .error (.failure (.number n)) := by
      rw [hrun]
      unfold check
      rw [hall]
      rfl
    rw [hcrash]
    refine ⟨⟨fun ⟨o, ho⟩ => ?_, fun hnone => absurd hstops (hnone u hu)⟩, fun o ho => ?_,
      fun c hc => ⟨n, (Except.error.inj hc).symm⟩⟩
    · cases ho
    · cases ho

/-! ### A template that hides another -/

/-- The file `a` has a superscript for the width, and the file `b` a word. -/
def superscriptFiles : FileTable :=
  ((FileTable.empty [['w']]).put [['w'], ['a']] (.file (Text.toUtf8 "\x7ba:²\x7d"))).put
    [['w'], ['b']] (.file (Text.toUtf8 "\x7bx:zz\x7d"))

/-- The request to check some of them in the dialect of Python. -/
def superscriptRequest (templates : List Text) : Request :=
  ⟨none, some "python", false, .check templates⟩

/-- The diagnostic of `b` is reported when `b` is checked alone, and not when `a` is checked first:
its superscript breaks off the check. -/
theorem check_hides_diagnostic :
    (∃ o x, run superscriptFiles (superscriptRequest [['b']]) = .ok o ∧
      diagnosticAlone? superscriptFiles python ['b'] = some x ∧
      o.status = 2 ∧ o.stderr = Diagnostic.report [x]) ∧
    StopsAtNumber superscriptFiles python ['a'] ∧
    ¬ ∃ o, run superscriptFiles (superscriptRequest [['a'], ['b']]) = .ok o := by
  have hconfig (templates : List Text) :
      configuration superscriptFiles (superscriptRequest templates) =
        .ok { Config.ofDialect rust with dialect := python } := rfl
  have hends (templates : List Text) := check_ends_iff (hconfig templates) (.inr rfl) rfl
  -- If it did not stop, its check would end, which is refuted by running it.
  have hstops : StopsAtNumber superscriptFiles python ['a'] := by
    apply Classical.byContradiction
    intro hno
    obtain ⟨o, ho⟩ := (hends [['a']]).1.mpr fun t ht => List.mem_singleton.mp ht ▸ hno
    have hnone : (run superscriptFiles (superscriptRequest [['a']])).toOption.isNone = true := by
      decide +kernel
    rw [ho] at hnone
    cases hnone
  refine ⟨?_, hstops, fun hok => (hends _).1.mp hok ['a'] List.mem_cons_self hstops⟩
  -- The check of `b` alone ends, and has one diagnostic to report.
  have hsome : (run superscriptFiles (superscriptRequest [['b']])).toOption.isSome = true := by
    decide +kernel
  obtain ⟨o, ho⟩ := Option.isSome_iff_exists.mp hsome
  have ho := Outcome.ok_of_toOption ho
  have hrefused : (diagnosticAlone? superscriptFiles python ['b']).isSome = true := by
    decide +kernel
  obtain ⟨x, hx⟩ := Option.isSome_iff_exists.mp hrefused
  have hchecked := (hends [['b']]).2.1 o ho
  have hfound : [['b']].filterMap (diagnosticAlone? superscriptFiles python) = [x] := by
    rw [List.filterMap_cons, hx]
    rfl
  rw [hfound] at hchecked
  obtain ⟨log, hstderr, hlog⟩ := hchecked.stderr
  rw [hlog rfl] at hstderr
  exact ⟨o, x, ho, hx, hchecked.status, hstderr⟩

end Request
end Stencil
