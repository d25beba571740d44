import Stencil.Plan
import Stencil.Proofs.Json.Compact
import Stencil.Proofs.Source

/-! # What the digest of a plan tells

  The digest of a plan is that of its canonical text, the compact text of its record with the
  members in order. Records of this kind have fixed names, so that putting their members in order is
  the same rearrangement for each of them, and each field is found again in its place. As a compact
  text is written by one value only, the canonical text tells the plan (`Plan.canonical_inj`), and
  so does the digest unless two texts collide.
-/

namespace Stencil

open Json (Exact ordered)

/-! ### Optional values -/

namespace Json

theorem ordered_ofText? (t : Option Text) : (ofText? t).ordered = ofText? t := by
  cases t <;> rfl

theorem exact_ofText? (t : Option Text) : Exact (ofText? t) := by
  cases t with
  | none => exact .null
  | some t => exact .str t

theorem ofText?_inj {t u : Option Text} (h : ofText? t = ofText? u) : t = u := by
  cases t <;> cases u
  · rfl
  · cases h
  · cases h
  · rw [Json.str.inj h]

/-- An optional count as a value. -/
def ofCount? (n : Option Nat) : Json := n.elim .null fun (n : Nat) => .int n

theorem ordered_ofCount? (n : Option Nat) : (ofCount? n).ordered = ofCount? n := by
  cases n <;> rfl

theorem exact_ofCount? (n : Option Nat) : Exact (ofCount? n) := by
  cases n with
  | none => exact .null
  | some n => exact .int n

theorem ofCount?_inj {m n : Option Nat} (h : ofCount? m = ofCount? n) : m = n := by
  cases m <;> cases n
  · rfl
  · cases h
  · cases h
  · rw [Int.ofNat.inj (Json.int.inj h)]

theorem orderedItems_eq (js : List Json) : orderedItems js = js.map ordered := by
  induction js with
  | nil => rfl
  | cons j js ih => rw [orderedItems, ih, List.map_cons]

theorem exact_obj_iff {members : List (Text × Json)} :
    Exact (.obj members) ↔ ∀ m ∈ members, Exact m.2 :=
  ⟨fun h => by cases h with | obj h => exact h, .obj⟩

end Json

/-! ### Format specifiers -/

theorem Alignment.char_inj {a b : Alignment} (h : a.char = b.char) : a = b := by
  revert h
  cases a <;> cases b <;> decide

theorem Sign.char_inj {a b : Sign} (h : a.char = b.char) : a = b := by
  revert h
  cases a <;> cases b <;> decide

namespace FormatSpec

/-- The record of a format specifier, its members in order. -/
theorem ordered_toJson (s : FormatSpec) : s.toJson.ordered =
    .obj [("align", Json.ofText? (s.align.map ([·.char]))), ("alternate", .bool s.alternate),
      ("fill", Json.ofText? (s.fill.map ([·]))), ("precision", Json.ofCount? s.precision),
      ("raw", .str s.raw), ("sign", Json.ofText? (s.sign.map ([·.char]))),
      ("type", .str s.typeFlag), ("width", Json.ofCount? s.width), ("zero", .bool s.padZero)] := by
  have hordered : s.toJson.ordered = .obj (Json.orderMembers [("raw", .str s.raw),
      ("fill", (Json.ofText? (s.fill.map ([·]))).ordered),
      ("align", (Json.ofText? (s.align.map ([·.char]))).ordered),
      ("sign", (Json.ofText? (s.sign.map ([·.char]))).ordered),
      ("alternate", .bool s.alternate), ("zero", .bool s.padZero),
      ("width", (Json.ofCount? s.width).ordered),
      ("precision", (Json.ofCount? s.precision).ordered), ("type", .str s.typeFlag)]) := rfl
  rw [hordered]
  simp only [Json.ordered_ofText?, Json.ordered_ofCount?]
  rfl

theorem exact_ordered_toJson (s : FormatSpec) : Exact s.toJson.ordered := by
  rw [ordered_toJson, Json.exact_obj_iff]
  simp only [List.forall_mem_cons]
  exact ⟨Json.exact_ofText? _, .bool _, Json.exact_ofText? _, Json.exact_ofCount? _, .str _,
    Json.exact_ofText? _, .str _, Json.exact_ofCount? _, .bool _, List.forall_mem_nil _⟩

/-- A format specifier is told by its record, field by field. -/
theorem ordered_toJson_inj {s s' : FormatSpec} (h : s.toJson.ordered = s'.toJson.ordered) :
    s = s' := by
  rw [ordered_toJson, ordered_toJson] at h
  simp only [Json.obj.injEq, List.cons.injEq, Prod.mk.injEq, Json.str.injEq, Json.bool.injEq,
    true_and, and_true] at h
  obtain ⟨halign, halternate, hfill, hprecision, hraw, hsign, htype, hwidth, hzero⟩ := h
  have halign : s.align = s'.align :=
    (Option.map_inj_right fun _ _ h => Alignment.char_inj (List.singleton_inj.mp h)).mp
      (Json.ofText?_inj halign)
  have hfill : s.fill = s'.fill :=
    (Option.map_inj_right fun _ _ h => List.singleton_inj.mp h).mp (Json.ofText?_inj hfill)
  have hsign : s.sign = s'.sign :=
    (Option.map_inj_right fun _ _ h => Sign.char_inj (List.singleton_inj.mp h)).mp
      (Json.ofText?_inj hsign)
  have hwidth := Json.ofCount?_inj hwidth
  have hprecision := Json.ofCount?_inj hprecision
  cases s
  cases s'
  simp_all

end FormatSpec

/-! ### Operations -/

namespace Operation

/-- The record of an operation, its members in order. -/
def orderedJson : Operation → Json
  | .literal text offset =>
    .obj [("offset", .int offset), ("op", .str "write_literal"), ("text", .str text)]
  | .statements code offset =>
    .obj [("code", .str code), ("offset", .int offset), ("op", .str "run_statements")]
  | .formatted expr spec offset =>
    .obj [("expr", .str expr), ("format_spec", (spec.elim .null FormatSpec.toJson).ordered),
      ("offset", .int offset), ("op", .str "write_formatted")]

theorem ordered_toJson (op : Operation) : op.toJson.ordered = op.orderedJson := by
  cases op <;> rfl

theorem ordered_spec_inj {spec spec' : Option FormatSpec}
    (h : (spec.elim .null FormatSpec.toJson).ordered =
      (spec'.elim .null FormatSpec.toJson).ordered) : spec = spec' := by
  cases spec with
  | none =>
    cases spec' with
    | none => rfl
    | some s' => cases h
  | some s =>
    cases spec' with
    | none => cases h
    | some s' => exact congrArg some (FormatSpec.ordered_toJson_inj h)

theorem exact_ordered_toJson (op : Operation) : Exact op.toJson.ordered := by
  have hspec (spec : Option FormatSpec) :
      Exact (spec.elim .null FormatSpec.toJson).ordered := by
    cases spec with
    | none => exact .null
    | some s => exact s.exact_ordered_toJson
  rw [ordered_toJson]
  cases op with
  | literal text offset =>
    rw [orderedJson, Json.exact_obj_iff]
    simp only [List.forall_mem_cons]
    exact ⟨.int _, .str _, .str _, List.forall_mem_nil _⟩
  | statements code offset =>
    rw [orderedJson, Json.exact_obj_iff]
    simp only [List.forall_mem_cons]
    exact ⟨.str _, .int _, .str _, List.forall_mem_nil _⟩
  | formatted expr spec offset =>
    rw [orderedJson, Json.exact_obj_iff]
    simp only [List.forall_mem_cons]
    exact ⟨.str _, hspec spec, .int _, .str _, List.forall_mem_nil _⟩

def tag : Operation → Text
  | .literal .. => "write_literal"
  | .statements .. => "run_statements"
  | .formatted .. => "write_formatted"

theorem get?_op_orderedJson (op : Operation) : op.orderedJson.get? "op" = some (.str op.tag) := by
  cases op <;> rfl

/-- An operation is told by its record: the name of its kind, and then field by field. -/
theorem ordered_toJson_inj {op op' : Operation} (h : op.toJson.ordered = op'.toJson.ordered) :
    op = op' := by
  rw [ordered_toJson, ordered_toJson] at h
  -- The kind stands in the record itself, so that mixed kinds are out of the question.
  have htag : op.tag = op'.tag := by
    have hget := congrArg (Json.get? "op") h
    rw [get?_op_orderedJson, get?_op_orderedJson] at hget
    exact Json.str.inj (Option.some.inj hget)
  cases op with
  | literal text offset =>
    cases op' with
    | literal text' offset' =>
      simp only [orderedJson, Json.obj.injEq, List.cons.injEq, Prod.mk.injEq, Json.str.injEq,
        Json.int.injEq, true_and, and_true] at h
      rw [h.1, h.2]
    | _ =>
      dsimp only [tag] at htag
      exact absurd htag (by decide)
  | statements code offset =>
    cases op' with
    | statements code' offset' =>
      simp only [orderedJson, Json.obj.injEq, List.cons.injEq, Prod.mk.injEq, Json.str.injEq,
        Json.int.injEq, true_and, and_true] at h
      rw [h.1, h.2]
    | _ =>
      dsimp only [tag] at htag
      exact absurd htag (by decide)
  | formatted expr spec offset =>
    cases op' with
    | formatted expr' spec' offset' =>
      simp only [orderedJson, Json.obj.injEq, List.cons.injEq, Prod.mk.injEq, Json.str.injEq,
        Json.int.injEq, true_and, and_true] at h
      obtain ⟨hexpr, hspec, hoffset⟩ := h
      rw [hexpr, ordered_spec_inj hspec, hoffset]
    | _ =>
      dsimp only [tag] at htag
      exact absurd htag (by decide)

end Operation

/-! ### Plans -/

namespace Plan

variable {p q : Plan}

/-- The record of a plan, its members in order. -/
theorem ordered_toJson (p : Plan) : p.toJson.ordered =
    .obj [("ops", .arr (p.operations.map fun op => op.toJson.ordered)), ("path", .str p.path)] := by
  have hordered : p.toJson.ordered = .obj
      [("ops", .arr (Json.orderedItems (p.operations.map Operation.toJson))),
        ("path", .str p.path)] := rfl
  rw [hordered, Json.orderedItems_eq, List.map_map]
  rfl

theorem exact_ordered_toJson (p : Plan) : Exact p.toJson.ordered := by
  have hops : Exact (.arr (p.operations.map fun op => op.toJson.ordered)) := by
    refine .arr fun j hj => ?_
    obtain ⟨op, _, rfl⟩ := List.mem_map.mp hj
    exact op.exact_ordered_toJson
  rw [ordered_toJson, Json.exact_obj_iff]
  simp only [List.forall_mem_cons]
  exact ⟨hops, .str _, List.forall_mem_nil _⟩

theorem ordered_toJson_inj (h : p.toJson.ordered = q.toJson.ordered) : p = q := by
  rw [ordered_toJson, ordered_toJson] at h
  simp only [Json.obj.injEq, List.cons.injEq, Prod.mk.injEq, Json.arr.injEq, Json.str.injEq,
    true_and, and_true] at h
  have hops := (List.map_inj_right fun _ _ => Operation.ordered_toJson_inj).mp h.1
  cases p
  cases q
  rw [Plan.mk.injEq]
  exact ⟨h.2, hops⟩

/-- Plans with the same canonical text are the same. -/
theorem canonical_inj (h : p.canonical = q.canonical) : p = q :=
  ordered_toJson_inj (Json.compact_inj p.exact_ordered_toJson q.exact_ordered_toJson h)

/-- The bytes that the digest of a plan is taken of. -/
def digested (p : Plan) : Bytes := p.canonical.toUtf8

/-- Two plans whose digests agree although the bytes that are digested do not. -/
def Collide (p q : Plan) : Prop :=
  Sha256.hexDigest p.digested = Sha256.hexDigest q.digested ∧ p.digested ≠ q.digested

/-- The canonical text tells the plan, and the digest does so up to collisions. -/
theorem digest_identifies (p q : Plan) :
    (p.canonical = q.canonical ↔ p = q) ∧ (p.digest = q.digest ↔ p = q ∨ p.Collide q) := by
  refine ⟨⟨canonical_inj, congrArg canonical⟩, ?_, ?_⟩
  · intro h
    have hdigest : Sha256.hexDigest p.digested = Sha256.hexDigest q.digested :=
      (List.append_right_inj _).mp h
    by_cases hbytes : p.digested = q.digested
    · exact .inl (canonical_inj (Text.toUtf8_injective hbytes))
    · exact .inr ⟨hdigest, hbytes⟩
  · rintro (rfl | hcollide)
    · rfl
    · unfold digest
      exact (List.append_right_inj _).mpr hcollide.1

end Plan
end Stencil
