import SearchRequest.Proofs.Aggregation.Writable

/-!
Aggregations by ranges. The operations that add one read the ranges as a list before the
aggregation looks at them. A list stays what it is; a text and an object become lists of texts,
and a text is refused as a range except where it is taken for the mask of a network.
-/

namespace SearchRequest

/-- A text or an object that is not empty, which as a list is its characters or its keys. -/
def Json.splits : Json → Bool
  | .str text => !text.isEmpty
  | .obj entries => !entries.isEmpty
  | _ => false

namespace Bucket

theorem succeeds_ofItems {masked : Bool} {items : List Json} :
    Succeeds (ofItems masked items) ↔ ∀ item ∈ items, Succeeds (ofItem masked item) := by
  induction items with
  | nil => exact iff_of_true (succeeds_ok _) (List.forall_mem_nil _)
  | cons item rest ih =>
    rw [List.forall_mem_cons, ← ih, ofItems, succeeds_bind]
    constructor
    · rintro ⟨bucket, first, others⟩
      obtain ⟨buckets, rest, _⟩ := succeeds_bind.mp others
      exact ⟨⟨bucket, first⟩, buckets, rest⟩
    · rintro ⟨⟨bucket, first⟩, buckets, rest⟩
      exact ⟨bucket, first, succeeds_bind.mpr ⟨buckets, rest, succeeds_ok _⟩⟩

theorem succeeds_ofItem_text {masked : Bool} (text : String) :
    Succeeds (ofItem masked (.str text)) ↔ masked = true := by
  cases masked with
  | true => exact iff_of_true ⟨_, rfl⟩ rfl
  | false => exact iff_of_false (not_succeeds_error _) (by decide)

theorem succeeds_list_texts {masked : Bool} (texts : List String) :
    Succeeds (list masked (.arr (texts.map .str))) ↔ masked = true ∧ texts ≠ [] := by
  cases texts with
  | nil => exact iff_of_false (not_succeeds_error _) fun ⟨_, filled⟩ => filled rfl
  | cons first rest =>
    rw [List.map_cons, list, succeeds_ofItems, ← List.map_cons, List.forall_mem_map]
    simp only [succeeds_ofItem_text, List.forall_mem_cons, ne_eq, reduceCtorEq, not_false_eq_true,
      and_true, and_iff_left_iff_imp]
    exact fun all _ _ => all

theorem eq_arr_of_succeeds_list {masked : Bool} {ranges : Json}
    (listed : Succeeds (list masked ranges)) : ∃ items, ranges = .arr items := by
  cases ranges with
  | arr items => exact ⟨items, rfl⟩
  | _ => exact absurd listed (not_succeeds_error _)

/-- What is read as a list gives buckets when it gives some as it stands, and beyond that only as
masks. -/
theorem succeeds_list_elements {masked : Bool} {ranges : Json} :
    (∃ items, ranges.elements? = some items ∧ Succeeds (list masked (.arr items))) ↔
      Succeeds (list masked ranges) ∨ masked = true ∧ ranges.splits = true := by
  -- A text and an object both come apart into texts, of which none is a range and each is a mask.
  have texts (texts : List String) (refused : ¬ Succeeds (list masked ranges))
      (split : ranges.elements? = some (texts.map .str))
      (filled : ranges.splits = true ↔ texts ≠ []) :
      (∃ items, ranges.elements? = some items ∧ Succeeds (list masked (.arr items))) ↔
        Succeeds (list masked ranges) ∨ masked = true ∧ ranges.splits = true := by
    simp only [split, Option.some.injEq, exists_eq_left', succeeds_list_texts, filled,
      or_iff_right refused]
  cases ranges with
  | arr items =>
    simp only [Json.elements?, Option.some.injEq, exists_eq_left', Json.splits,
      Bool.false_eq_true, and_false, or_false]
  | str text =>
    refine texts (text.toList.map String.singleton) (not_succeeds_error _) ?_ ?_
    · rw [List.map_map]
      rfl
    · simp [Json.splits]
  | obj entries =>
    refine texts (entries.map (·.1)) (not_succeeds_error _) ?_ ?_
    · rw [List.map_map]
      rfl
    · simp [Json.splits]
  | _ =>
    refine iff_of_false ?_ ?_
    · rintro ⟨_, absent, _⟩
      cases absent
    · rintro (listed | ⟨_, split⟩)
      · exact not_succeeds_error _ listed
      · cases split

end Bucket

theorem Computation.listed_eq_ok {value copy : Json} :
    listed value = .ok copy ↔ ∃ items, value.elements? = some items ∧ .arr items = copy := by
  rw [listed, Json.asElements]
  cases value.elements? with
  | none => exact iff_of_false nofun fun ⟨_, absent, _⟩ => nomatch absent
  | some items =>
    simp only [bind_ok, Except.ok.injEq, Option.some.injEq, exists_eq_left']

namespace AggregationKind

inductive Ranged : AggregationKind → Prop
  | range : Ranged .range
  | dateRange : Ranged .dateRange
  | ipRange : Ranged .ipRange
  | geoDistance : Ranged .geoDistance

def takesMasks (kind : AggregationKind) : Bool := kind == .ipRange

/-- Everything but the ranges is as the kind requires it. -/
structure Ready (kind : AggregationKind) (a : Object) : Prop where
  named : Succeeds (Aggregation.aliasOf (a.field "alias"))
  field : Succeeds (Computation.fieldName (a.field "field"))
  format : kind = .dateRange → Succeeds (Computation.formatOf (a.field "format"))
  origin : kind = .geoDistance → Succeeds (Computation.originOf (a.field "origin"))

def spelled (kind : AggregationKind) (a : Object) : Json := .obj (("kind", .str kind.name) :: a)

variable {kind : AggregationKind} {args a : Object}

theorem ofJson_spelled (ranged : kind.Ranged) (bound : kind.operationSignature.bind args = .ok a) :
    Aggregation.ofJson (kind.spelled a) = Aggregation.build kind a := by
  have fields := Signature.fields_of_bind bound
  cases ranged <;> subst fields <;> rfl

theorem copied_eq (ranged : kind.Ranged) (a : Object) :
    kind.copied a = (do
      let ranges ← Computation.listed (a.field "ranges")
      .ok (a.set "ranges" ranges)) := by
  cases ranged <;> rfl

theorem set_ranges (ranged : kind.Ranged) (bound : kind.operationSignature.bind args = .ok a) :
    a.set "ranges" (a.field "ranges") = a := by
  have fields := Signature.fields_of_bind bound
  cases ranged <;> subst fields <;> rfl

theorem ready_set_ranges (ranges : Json) : kind.Ready (a.set "ranges" ranges) ↔ kind.Ready a := by
  have kept {key : String} (other : key ≠ "ranges") :
      (a.set "ranges" ranges).field key = a.field key := Object.field_set_of_ne a other ranges
  constructor
  · rintro ⟨named, field, format, origin⟩
    rw [kept (by decide)] at named field format origin
    exact ⟨named, field, format, origin⟩
  · rintro ⟨named, field, format, origin⟩
    constructor <;> rwa [kept (by decide)]

theorem succeeds_build_iff (ranged : kind.Ranged) (a : Object) :
    Succeeds (Aggregation.build kind a) ↔
      kind.Ready a ∧ Succeeds (Bucket.list kind.takesMasks (a.field "ranges")) := by
  have outer : Succeeds (Aggregation.build kind a) ↔
      Succeeds (Aggregation.aliasOf (a.field "alias")) ∧ Succeeds (Computation.build kind a) :=
    succeeds_bind_iff fun _ =>
      (succeeds_bind_iff fun _ => iff_true_intro (succeeds_ok _)).trans
        ((and_iff_left trivial).trans succeeds_mapError)
  -- Every kind reads its ranges last, and keeps what it makes of them.
  have last {buckets : Except AggregationFault (List Bucket)} {make : List Bucket → Computation} :
      Succeeds (do let made ← buckets; .ok (make made)) ↔ Succeeds buckets :=
    (succeeds_bind_iff fun _ => iff_true_intro (succeeds_ok _)).trans (and_iff_left trivial)
  rw [outer]
  cases ranged with
  | range =>
    have inner : Succeeds (Computation.build .range a) ↔ _ := succeeds_bind_iff fun _ => last
    rw [inner]
    exact ⟨fun ⟨named, field, listed⟩ => ⟨⟨named, field, nofun, nofun⟩, listed⟩,
      fun ⟨ready, listed⟩ => ⟨ready.named, ready.field, listed⟩⟩
  | ipRange =>
    have inner : Succeeds (Computation.build .ipRange a) ↔ _ := succeeds_bind_iff fun _ => last
    rw [inner]
    exact ⟨fun ⟨named, field, listed⟩ => ⟨⟨named, field, nofun, nofun⟩, listed⟩,
      fun ⟨ready, listed⟩ => ⟨ready.named, ready.field, listed⟩⟩
  | dateRange =>
    have inner : Succeeds (Computation.build .dateRange a) ↔ _ :=
      succeeds_bind_iff fun _ => succeeds_bind_iff fun _ => last
    rw [inner]
    exact ⟨fun ⟨named, field, format, listed⟩ => ⟨⟨named, field, fun _ => format, nofun⟩, listed⟩,
      fun ⟨ready, listed⟩ => ⟨ready.named, ready.field, ready.format rfl, listed⟩⟩
  | geoDistance =>
    have inner : Succeeds (Computation.build .geoDistance a) ↔ _ :=
      succeeds_bind_iff fun _ => succeeds_bind_iff fun _ => last
    rw [inner]
    exact ⟨fun ⟨named, field, origin, listed⟩ => ⟨⟨named, field, nofun, fun _ => origin⟩, listed⟩,
      fun ⟨ready, listed⟩ => ⟨ready.named, ready.field, ready.origin rfl, listed⟩⟩

theorem succeeds_request_iff (ranged : kind.Ranged)
    (bound : kind.operationSignature.bind args = .ok a) :
    Succeeds (kind.request args) ↔ kind.Ready a ∧
      (Succeeds (Bucket.list kind.takesMasks (a.field "ranges")) ∨
        kind.takesMasks = true ∧ (a.field "ranges").splits = true) := by
  have requested : kind.request args =
      (Computation.listed (a.field "ranges") >>= fun ranges =>
        Aggregation.build kind (a.set "ranges" ranges)) := by
    rw [request, bound, bind_ok, copied_eq ranged]
    cases Computation.listed (a.field "ranges") <;> rfl
  rw [requested, ← Bucket.succeeds_list_elements, succeeds_bind]
  simp only [succeeds_build_iff ranged, ready_set_ranges, Object.field_set,
    Computation.listed_eq_ok]
  constructor
  · rintro ⟨_, ⟨items, read, rfl⟩, ready, listed⟩
    exact ⟨ready, items, read, listed⟩
  · rintro ⟨ready, items, read, listed⟩
    exact ⟨_, ⟨items, read, rfl⟩, ready, listed⟩

/-- An operation that adds an aggregation by ranges takes what the aggregation itself takes, and
makes the same of it. It takes a text or an object too, which the aggregation refuses, where the
characters or the keys can be taken for masks. -/
theorem ranges_taken (ranged : kind.Ranged) (bound : kind.operationSignature.bind args = .ok a) :
    (Succeeds (kind.request args) ↔ Succeeds (Aggregation.ofJson (kind.spelled a)) ∨
      kind = .ipRange ∧ (a.field "ranges").splits = true ∧ kind.Ready a) ∧
      (∀ aggregation, Aggregation.ofJson (kind.spelled a) = .ok aggregation →
        kind.request args = .ok aggregation) ∧
      ((∀ items, a.field "ranges" ≠ .arr items) →
        ¬ Succeeds (Aggregation.ofJson (kind.spelled a))) := by
  have masks : kind.takesMasks = true ↔ kind = .ipRange := beq_iff_eq
  rw [ofJson_spelled ranged bound]
  refine ⟨?_, fun aggregation built => ?_, fun other built => ?_⟩
  · rw [succeeds_request_iff ranged bound, succeeds_build_iff ranged, and_or_left, masks]
    exact or_congr_right
      ⟨fun ⟨ready, isMask, split⟩ => ⟨isMask, split, ready⟩,
        fun ⟨isMask, split, ready⟩ => ⟨ready, isMask, split⟩⟩
  · obtain ⟨_, listed⟩ := (succeeds_build_iff ranged a).mp ⟨aggregation, built⟩
    obtain ⟨items, given⟩ := Bucket.eq_arr_of_succeeds_list listed
    have copied : Computation.listed (a.field "ranges") = .ok (a.field "ranges") :=
      Computation.listed_eq_ok.mpr ⟨items, by rw [given]; rfl, given.symm⟩
    rw [request, bound, bind_ok, copied_eq ranged, copied, bind_ok, bind_ok,
      set_ranges ranged bound, built]
  · obtain ⟨items, given⟩ :=
      Bucket.eq_arr_of_succeeds_list ((succeeds_build_iff ranged a).mp built).2
    exact other items given

def networks (ranges : Json) : Object :=
  [("alias", .str "nets"), ("field", .str "ip"), ("ranges", ranges)]

def networkFields (ranges : Json) : Object := networks ranges ++ [("options", .obj [])]

theorem bind_networks (ranges : Json) :
    AggregationKind.ipRange.operationSignature.bind (networks ranges) =
      .ok (networkFields ranges) := rfl

theorem ranges_taken_masks :
    ipRange.operationSignature.bind (networks (.arr [.str "10.0.0.0/25"])) =
        .ok (networkFields (.arr [.str "10.0.0.0/25"])) ∧
      ipRange.request (networks (.arr [.str "10.0.0.0/25"])) =
        .ok ⟨"nets", .ipRange "ip" [⟨.null, .null, .null, .str "10.0.0.0/25"⟩], .obj []⟩ :=
  ⟨rfl, (ranges_taken .ipRange (bind_networks _)).2.1 _ rfl⟩

/-- A text and an object that the aggregation refuses are taken apart into masks. -/
theorem not_ranges_taken_text :
    (Succeeds (ipRange.request (networks (.str "10/8"))) ∧
      ¬ Succeeds (Aggregation.ofJson (ipRange.spelled (networkFields (.str "10/8"))))) ∧
    Succeeds (ipRange.request (networks (.obj [("from", .str "10.0.0.0")]))) ∧
      ¬ Succeeds (Aggregation.ofJson
        (ipRange.spelled (networkFields (.obj [("from", .str "10.0.0.0")])))) :=
  ⟨⟨⟨_, rfl⟩, not_succeeds_error _⟩, ⟨_, rfl⟩, not_succeeds_error _⟩

end AggregationKind

end SearchRequest
