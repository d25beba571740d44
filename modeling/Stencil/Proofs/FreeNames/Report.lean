import Mathlib.Data.List.Nodup
import Stencil.Proofs.FreeNames.Uses
import Stencil.Proofs.Plan

/-! # The report of free names

  The free names of a template are found block by block. The blocks stand one behind the other, and
  so do the uses in them, so that the uses of the whole template are found in the order of their
  offsets. The report has the first use of each name: it is in that order already, and the sort at
  its end changes nothing.
-/

namespace Stencil

open Dialect (rust python)

variable {d : Dialect} {t : Text} {ss : List Segment} {s : Segment} {u : Use} {uses : List Use}

namespace Use

/-! ### First uses -/

theorem firsts_sublist (uses : List Use) : (firsts uses).Sublist uses := by
  induction uses with
  | nil => exact .slnil
  | cons u uses ih => exact (List.filter_sublist.trans ih).cons_cons u

theorem nodup_firsts (uses : List Use) : ((firsts uses).map name).Nodup := by
  induction uses with
  | nil => exact .nil
  | cons u uses ih =>
    rw [firsts, List.map_cons, List.nodup_cons]
    constructor
    · intro hmem
      obtain ⟨v, hv, hname⟩ := List.mem_map.mp hmem
      exact of_decide_eq_true (List.mem_filter.mp hv).2 hname
    · exact ih.sublist (List.filter_sublist.map name)

/-- A name that is used has a first use, and no use of it comes before that. -/
theorem exists_first (huses : uses.Pairwise fun u v => u.offset < v.offset) (hu : u ∈ uses) :
    ∃ v ∈ firsts uses, v.name = u.name ∧ v.offset ≤ u.offset := by
  induction uses with
  | nil => exact absurd hu List.not_mem_nil
  | cons w uses ih =>
    obtain ⟨hbehind, huses⟩ := List.pairwise_cons.mp huses
    by_cases hname : w.name = u.name
    · refine ⟨w, List.mem_cons_self, hname, ?_⟩
      rcases List.mem_cons.mp hu with rfl | hu
      · exact Int.le_refl _
      · exact Int.le_of_lt (hbehind u hu)
    · have hu : u ∈ uses := (List.mem_cons.mp hu).resolve_left fun h => hname (h ▸ rfl)
      obtain ⟨v, hv, hsame, hle⟩ := ih huses hu
      refine ⟨v, List.mem_cons_of_mem w (List.mem_filter.mpr ⟨hv, decide_eq_true ?_⟩), hsame, hle⟩
      rw [hsame]
      exact fun h => hname h.symm

/-- First uses that are in order already are not moved by the sort. -/
theorem sort_firsts (huses : uses.Pairwise fun u v => u.offset < v.offset) :
    (firsts uses).mergeSort le = firsts uses := by
  refine List.mergeSort_of_pairwise ((huses.sublist (firsts_sublist uses)).imp fun {u v} h => ?_)
  unfold le
  rw [decide_eq_true h, Bool.true_or]

/-! ### Uses in a template -/

def ofPart (d : Dialect) : Plan.Part → Except Failure (List Use)
  | .literal _ => .ok []
  | .code s b _ => ofBlock d s b

theorem freeNames_eq (d : Dialect) (parts : List Plan.Part) :
    freeNames d parts = (parts.mapM (ofPart d)).map fun uses =>
      (firsts uses.flatten).mergeSort le := by
  have hpart : (fun part : Plan.Part => (match part with
      | .literal _ => pure []
      | .code s b _ => ofBlock d s b : Except Failure (List Use))) = ofPart d := by
    funext part
    cases part <;> rfl
  unfold freeNames
  rw [← hpart]
  rfl

/-- The uses that are found in a segment. -/
structure OfSegment (d : Dialect) (s : Segment) (uses : List Use) : Prop where
  literal : s.kind = .literal → uses = []
  code : s.kind = .code → ∃ b, Block.read d s.bodyStart s.text = .ok b ∧ ofBlock d s b = .ok uses

/-- A use that is found in the code of a template. -/
def FreeIn (d : Dialect) (ss : List Segment) (u : Use) : Prop :=
  ∃ s ∈ ss, s.kind = .code ∧ ∃ b uses, Block.read d s.bodyStart s.text = .ok b ∧
    ofBlock d s b = .ok uses ∧ u ∈ uses

theorem ofSegment_of_readPart {part : Plan.Part} (h : Template.readPart d s = .ok part)
    (huses : ofPart d part = .ok uses) : OfSegment d s uses := by
  rcases Template.readPart_ok h with ⟨hkind, rfl⟩ | ⟨hkind, b, spec, hb, _, rfl⟩
  · refine ⟨fun _ => (Except.ok.inj huses).symm, fun hcode => ?_⟩
    rw [hkind] at hcode
    cases hcode
  · refine ⟨fun hliteral => ?_, fun _ => ⟨b, hb, huses⟩⟩
    rw [hkind] at hliteral
    cases hliteral

/-- Each segment of a template has a group of uses. -/
theorem groups_of_parts {parts : List Plan.Part} {groups : List (List Use)}
    (h : List.Forall₂ (fun s part => Template.readPart d s = .ok part) ss parts)
    (hgroups : List.Forall₂ (fun part uses => ofPart d part = .ok uses) parts groups) :
    List.Forall₂ (OfSegment d) ss groups := by
  induction h generalizing groups with
  | nil =>
    cases hgroups
    exact .nil
  | cons hs _ ih =>
    cases hgroups with
    | cons huses hrest => exact .cons (ofSegment_of_readPart hs huses) (ih hrest)

/-- The uses of a template are those of its segments. -/
theorem mem_flatten_iff {groups : List (List Use)} (h : List.Forall₂ (OfSegment d) ss groups) :
    u ∈ groups.flatten ↔ FreeIn d ss u := by
  unfold FreeIn
  induction h with
  | nil => simp
  | @cons s uses ss groups hs _ ih =>
    rw [List.flatten_cons, List.mem_append, ih, List.exists_mem_cons_iff]
    refine or_congr_left ⟨fun hu => ?_, ?_⟩
    · cases hkind : s.kind with
      | literal =>
        rw [hs.literal hkind] at hu
        exact absurd hu List.not_mem_nil
      | code =>
        obtain ⟨b, hb, huses⟩ := hs.code hkind
        exact ⟨rfl, b, uses, hb, huses, hu⟩
    · rintro ⟨hkind, b, uses', hb, huses', hu⟩
      obtain ⟨b', hb', huses⟩ := hs.code hkind
      obtain rfl := Except.ok.inj (hb.symm.trans hb')
      obtain rfl := Except.ok.inj (huses.symm.trans huses')
      exact hu

/-- The uses in the code of a segment stand in its body. -/
theorem OfSegment.places (hd : d = rust ∨ d = python) (h : OfSegment d s uses) :
    (uses.Pairwise fun u v => u.offset < v.offset) ∧
      ∀ u ∈ uses, ∃ ms, marks d s.text = .ok ms ∧
        ∃ i : Nat, u.offset = s.bodyStart + i ∧ PlacedAt d s.text ms u.name i := by
  cases hkind : s.kind with
  | literal =>
    rw [h.literal hkind]
    exact ⟨.nil, fun _ hu => absurd hu List.not_mem_nil⟩
  | code =>
    obtain ⟨b, hb, huses⟩ := h.code hkind
    obtain ⟨ms, hms, _⟩ := Block.marks_of_read hb
    obtain ⟨hincreasing, hplaces⟩ := ofBlock_places hd hb hms huses
    exact ⟨hincreasing, fun u hu => ⟨ms, hms, hplaces u hu⟩⟩

/-- The uses of segments that stand one behind the other are found in the order of their offsets. -/
theorem increasing_groups (hd : d = rust ∨ d = python) {groups : List (List Use)}
    (h : List.Forall₂ (OfSegment d) ss groups) (hss : ss.Pairwise fun a b => a.stop ≤ b.start)
    (hcode : ∀ s ∈ ss, s.kind = .code → s.bodyStart + s.text.length < s.stop) :
    groups.flatten.Pairwise fun u v => u.offset < v.offset := by
  induction h with
  | nil => exact .nil
  | @cons s uses ss groups hs hrest ih =>
    obtain ⟨hbehind, hss⟩ := List.pairwise_cons.mp hss
    obtain ⟨hstop, hcode⟩ := List.forall_mem_cons.mp hcode
    rw [List.flatten_cons]
    refine List.pairwise_append.mpr ⟨(hs.places hd).1, ih hss hcode, fun u hu v hv => ?_⟩
    -- The first use stands in the body of its segment, and the second in that of a later one.
    have hkind : s.kind = .code := by
      cases hkind : s.kind with
      | literal =>
        rw [hs.literal hkind] at hu
        exact absurd hu List.not_mem_nil
      | code => rfl
    obtain ⟨ms, _, i, hi, hplaced⟩ := (hs.places hd).2 u hu
    obtain ⟨s', hs', hkind', b', uses', hb', huses', hv⟩ := (mem_flatten_iff hrest).mp hv
    obtain ⟨ms', hms', _⟩ := Block.marks_of_read hb'
    obtain ⟨j, hj, _⟩ := (ofBlock_places hd hb' hms' huses').2 v hv
    have := hplaced.nameAt.length_le
    have := hstop hkind
    have := hbehind s' hs'
    have : s'.bodyStart = s'.start + 1 := rfl
    omega

end Use

open Use

/-- The free names of a compiled template are the first uses in its segments, one of each name. -/
theorem exists_uses_of_compile (hd : d = rust ∨ d = python) {source : Source} {template : Template}
    (h : Template.compile d source = .ok template) :
    ∃ uses, template.free = firsts uses ∧ (uses.Pairwise fun u v => u.offset < v.offset) ∧
      segments d source.text = .ok template.segments ∧
      ∀ u, u ∈ uses ↔ FreeIn d template.segments u := by
  obtain ⟨⟨ss, parts⟩, hread, h⟩ := Outcome.bind_ok_iff.mp h
  obtain ⟨free, hfree, h⟩ := Outcome.bind_ok_iff.mp h
  obtain rfl := Except.ok.inj h
  obtain ⟨ss', hss, hread⟩ := Outcome.bind_ok_iff.mp (Outcome.mapError_ok_iff.mp hread)
  obtain ⟨parts', hparts, hread⟩ := Outcome.bind_ok_iff.mp hread
  obtain ⟨rfl, rfl⟩ := Prod.mk.inj (Except.ok.inj hread)
  have hfree := Outcome.mapError_ok_iff.mp hfree
  rw [freeNames_eq] at hfree
  obtain ⟨groups, hgroups, rfl⟩ := Outcome.map_ok_iff.mp hfree
  have hall := groups_of_parts (Outcome.forall₂_of_mapM hparts) (Outcome.forall₂_of_mapM hgroups)
  have hincreasing := increasing_groups hd hall (pairwise_of_segments hss) fun s hs hcode => by
    obtain ⟨_, _, _, _, hstop⟩ := split_at_code_segment hss hs hcode
    exact hstop
  exact ⟨groups.flatten, sort_firsts hincreasing, hincreasing, hss, fun u => mem_flatten_iff hall⟩

namespace Use

/-! ### Located uses -/

/-- A free use stands in the body of a code segment. -/
theorem FreeIn.places (hd : d = rust ∨ d = python) (h : FreeIn d ss u) :
    ∃ s ∈ ss, s.kind = .code ∧ ∃ ms, marks d s.text = .ok ms ∧
      ∃ i : Nat, u.offset = s.bodyStart + i ∧ PlacedAt d s.text ms u.name i := by
  obtain ⟨s, hs, hkind, b, uses, hb, huses, hu⟩ := h
  obtain ⟨ms, hms, _⟩ := Block.marks_of_read hb
  exact ⟨s, hs, hkind, ms, hms, (ofBlock_places hd hb hms huses).2 u hu⟩

/-- A template is split at a name in the body of a code segment. -/
theorem split_at_name {ms : List Mark} {name : Text} {i : Nat} (hss : segments d t = .ok ss)
    (hs : s ∈ ss) (hkind : s.kind = .code) (h : PlacedAt d s.text ms name i) :
    ∃ before after, t = before ++ (name ++ after) ∧ before.length = s.bodyStart + i ∧
      (∀ c ∈ before.getLast?, isWordChar c = false) ∧
      ∀ c ∈ after.head?, isPlainChar c = false := by
  obtain ⟨pre, rest, ht, hstart, _⟩ := split_at_code_segment hss hs hkind
  have hle := h.nameAt.length_le
  have hsplit : s.text = s.text.take i ++ (name ++ s.text.drop (i + name.length)) := by
    rw [← h.nameAt.drop_eq, List.take_append_drop]
  refine ⟨(pre ++ ['{']) ++ s.text.take i, s.text.drop (i + name.length) ++ '}' :: rest, ?_, ?_,
    fun c hc => ?_, fun c hc => ?_⟩
  · rw [ht]
    conv_lhs => rw [hsplit]
    simp only [List.append_assoc]
  · rw [List.length_append, hstart, List.length_take_of_le (by omega)]
  · -- A name at the start of a body stands behind the brace.
    cases i with
    | zero =>
      rw [List.take_zero, List.append_nil, List.getLast?_concat] at hc
      obtain rfl := Option.some.inj hc
      decide
    | succ k =>
      have hk : k < s.text.length := by omega
      rw [List.take_add_one, List.getElem?_eq_getElem hk, Option.toList_some, ← List.append_assoc,
        List.getLast?_concat] at hc
      exact h.alone k c rfl ((List.getElem?_eq_getElem hk).trans hc)
  · rw [List.head?_append, List.head?_drop] at hc
    cases hnext : s.text[i + name.length]? with
    | none =>
      rw [hnext] at hc
      obtain rfl := Option.some.inj hc
      decide
    | some y =>
      rw [hnext] at hc
      obtain rfl := Option.some.inj hc
      exact h.nameAt.ends y hnext

/-- A use of a name that the dialect leaves to a template stands in the code of the template `t`. -/
structure Located (d : Dialect) (t : Text) (ss : List Segment) (u : Use) : Prop where
  ne_nil : u.name ≠ []
  /-- The template reads the name at the offset. -/
  reads : ∃ before after, t = before ++ (u.name ++ after) ∧ u.offset = before.length
  /-- The name stands in the body of a code segment, and none of it in a token. -/
  inside : ∃ s ∈ ss, s.kind = .code ∧ ∃ ms, marks d s.text = .ok ms ∧
    ∃ i : Nat, u.offset = s.bodyStart + i ∧
      ∀ k c, u.name[k]? = some c → PlainAt s.text ms c (i + k)
  noKeyword : u.name ∉ d.keywords
  noBuiltin : u.name ∉ d.builtins
  noImplicit : u.name ∉ d.implicitNames
  noCapital : d.ignoreCapitalized = true → ∀ c ∈ u.name.head?, c.isUpper = false

theorem FreeIn.located (hd : d = rust ∨ d = python) (hss : segments d t = .ok ss)
    (h : FreeIn d ss u) : Located d t ss u := by
  obtain ⟨s, hs, hkind, ms, hms, i, hi, hplaced⟩ := h.places hd
  obtain ⟨before, after, ht, hlength, _⟩ := split_at_name hss hs hkind hplaced
  have hown := hplaced.own
  unfold isGiven at hown
  simp only [Bool.or_eq_false_iff, List.contains_eq_mem, decide_eq_false_iff_not,
    Bool.and_eq_false_iff] at hown
  obtain ⟨⟨⟨hkeyword, hbuiltin⟩, himplicit⟩, hcapital⟩ := hown
  refine ⟨hplaced.nameAt.ne_nil, ⟨before, after, ht, by omega⟩,
    ⟨s, hs, hkind, ms, hms, i, hi, hplaced.outside⟩, hkeyword, hbuiltin, himplicit,
    fun hignore c hc => ?_⟩
  have hcapital := hcapital.resolve_left (by rw [hignore]; decide)
  rw [Option.mem_def.mp hc] at hcapital
  exact hcapital

end Use

/-- The report of the free names of a template has each of them once, in the order of their offsets,
and each stands in the code of the template at its offset. It is the first of all free uses of that
name, and every name with a free use is reported. -/
theorem free_located (hd : d = rust ∨ d = python) {source : Source} {template : Template}
    (h : Template.compile d source = .ok template) :
    (template.free.map Use.name).Nodup ∧ (template.free.map Use.offset).Pairwise (· < ·) ∧
      (∀ u ∈ template.free, Located d source.text template.segments u) ∧
      ∀ u, u ∈ template.free ↔ FreeIn d template.segments u ∧
        ∀ v, FreeIn d template.segments v → v.name = u.name → u.offset ≤ v.offset := by
  obtain ⟨uses, hfree, hincreasing, hss, hall⟩ := exists_uses_of_compile hd h
  have hsublist := firsts_sublist uses
  rw [hfree]
  refine ⟨nodup_firsts uses, List.pairwise_map.mpr (hincreasing.sublist hsublist),
    fun u hu => ((hall u).mp (hsublist.subset hu)).located hd hss, fun u => ⟨fun hu => ?_, ?_⟩⟩
  · refine ⟨(hall u).mp (hsublist.subset hu), fun v hv hname => ?_⟩
    obtain ⟨w, hw, hsame, hle⟩ := exists_first hincreasing ((hall v).mpr hv)
    -- There is one report of the name, so that it is `u`.
    obtain rfl := List.inj_on_of_nodup_map (nodup_firsts uses) hw hu (hsame.trans hname)
    exact hle
  · rintro ⟨hu, hleast⟩
    obtain ⟨w, hw, hsame, hle⟩ := exists_first hincreasing ((hall u).mpr hu)
    have hle' := hleast w ((hall w).mp (hsublist.subset hw)) hsame
    obtain rfl : w = u := by
      cases w
      cases u
      dsimp only at hsame hle hle'
      rw [hsame, Int.le_antisymm hle hle']
    exact hw

/-- The template `a{let n = m; "m"}{f(/* m */ m) :>3}`, in which `m` is used twice, and stands in a
string and in a comment besides. -/
def usesText : Text := "a\x7blet n = m; \"m\"\x7d\x7bf(/* m */ m) :>3\x7d"

theorem free_located_blocks :
    ∃ template, Template.compile rust ⟨"t.tmpl", usesText⟩ = .ok template ∧
      template.free = [⟨"m", 10⟩] ∧
      (∀ u ∈ template.free, Located rust usesText template.segments u) ∧
      ∀ v, FreeIn rust template.segments v → v.name = ['m'] → 10 ≤ v.offset := by
  have hfree : (Template.compile rust ⟨"t.tmpl", usesText⟩).toOption.map Template.free =
      some [⟨"m", 10⟩] := by decide +kernel
  obtain ⟨template, htemplate, hfree⟩ := Option.map_eq_some_iff.mp hfree
  have hcompile := Outcome.ok_of_toOption htemplate
  obtain ⟨_, _, hlocated, hfirst⟩ := free_located (.inl rfl) hcompile
  have hmem : ⟨"m", 10⟩ ∈ template.free := by
    rw [hfree]
    exact List.mem_singleton_self _
  exact ⟨template, hcompile, hfree, hlocated, ((hfirst _).mp hmem).2⟩

/-! ### Words -/

/-- The use `u` is at the start of the word `word` of the text `t`, and its name is that word up to
the first character that is not plain. -/
structure Use.BeginsWord (t : Text) (u : Use) (before word after : Text) : Prop where
  split : t = before ++ (word ++ after)
  offset : u.offset = before.length
  front : ∀ c ∈ before.getLast?, isWordChar c = false
  inner : ∀ c ∈ word, isWordChar c = true
  back : ∀ c ∈ after.head?, isWordChar c = false
  name : u.name = word.takeWhile isPlainChar
  whole : u.name = word ↔ ∀ c ∈ word, isPlainChar c = true

/-- A free name that is reported begins where a word of the template does, and goes on as long as
the characters of that word are plain. It is the whole word just if all of them are. -/
theorem free_begins_word (hd : d = rust ∨ d = python) {source : Source} {template : Template}
    (h : Template.compile d source = .ok template) (hu : u ∈ template.free) :
    ∃ before word after, BeginsWord source.text u before word after := by
  obtain ⟨uses, hfree, _, hss, hall⟩ := exists_uses_of_compile hd h
  rw [hfree] at hu
  obtain ⟨s, hs, hkind, ms, _, i, hi, hplaced⟩ :=
    ((hall u).mp ((firsts_sublist uses).subset hu)).places hd
  obtain ⟨before, after, ht, hlength, hbefore, hafter⟩ := split_at_name hss hs hkind hplaced
  -- A name ends at the first character that is not plain, or where the word ends.
  have hname : u.name = ((u.name ++ after).takeWhile isWordChar).takeWhile isPlainChar := by
    have hplain : (fun c => decide (isPlainChar c = true ∧ isWordChar c = true)) = isPlainChar := by
      funext c
      rw [Bool.eq_iff_iff, decide_eq_true_iff]
      exact and_iff_left_of_imp isWordChar_of_isPlainChar
    rw [List.takeWhile_takeWhile, hplain, Text.takeWhile_run_append hplaced.nameAt.plain hafter]
  refine ⟨before, (u.name ++ after).takeWhile isWordChar, (u.name ++ after).dropWhile isWordChar,
    by rw [List.takeWhile_append_dropWhile]; exact ht, by omega, hbefore,
    List.all_eq_true.mp List.all_takeWhile, fun c hc => ?_, hname, fun hwhole => ?_, fun hall => ?_⟩
  · have hstop := List.head?_dropWhile_not isWordChar (u.name ++ after)
    rw [Option.mem_def.mp hc] at hstop
    exact hstop
  · rw [← hwhole]
    exact hplaced.nameAt.plain
  · exact hname.trans (List.takeWhile_eq_self_iff.mpr hall)

/-- The word `naïve` is reported as `na`. -/
theorem free_begins_word_accent :
    ∃ template, Template.compile rust ⟨"t.tmpl", "\x7bnaïve\x7d"⟩ = .ok template ∧
      ⟨"na", 1⟩ ∈ template.free ∧
      ∃ before word after, BeginsWord "\x7bnaïve\x7d" ⟨"na", 1⟩ before word after := by
  have hfree : (Template.compile rust ⟨"t.tmpl", "\x7bnaïve\x7d"⟩).toOption.map Template.free =
      some [⟨"na", 1⟩] := by decide +kernel
  obtain ⟨template, htemplate, hfree⟩ := Option.map_eq_some_iff.mp hfree
  have hcompile := Outcome.ok_of_toOption htemplate
  have hmem : ⟨"na", 1⟩ ∈ template.free := by
    rw [hfree]
    exact List.mem_singleton_self _
  exact ⟨template, hcompile, hmem, free_begins_word (.inl rfl) hcompile hmem⟩

end Stencil
