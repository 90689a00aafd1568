import SearchRequest.Proofs.Aggregation.Ranges
import SearchRequest.Proofs.Clause.Options

/-!
Parameters and options of aggregations, and of all that takes options. An aggregation by ranges
writes whether it is keyed even where that is null; all others write what is not null, and the
options over it.
-/

namespace SearchRequest

namespace Object

theorem get?_perm {first second : Object} (perm : first.Perm second) (distinct : first.keys.Nodup)
    (key : String) : first.get? key = second.get? key := by
  induction perm with
  | nil => rfl
  | cons entry _ ih =>
    obtain ⟨_, others⟩ := List.nodup_cons.mp distinct
    rw [get?_cons, get?_cons, ih others]
  | swap entry other rest =>
    have apart : other.1 ≠ entry.1 := fun same =>
      (List.nodup_cons.mp distinct).1 (List.mem_cons.mpr (.inl same))
    simp only [get?_cons]
    by_cases here : key = entry.1
    · subst here
      rw [if_pos rfl, if_neg apart.symm, if_pos rfl]
    · rw [if_neg here, if_neg here]
  | trans one _ before after =>
    rw [before distinct, after ((one.map _).nodup_iff.mp distinct)]

theorem Joins.perm {joined typed others extra : Object} (joins : joined.Joins typed extra)
    (perm : typed.Perm others) (distinct : typed.keys.Nodup) : joined.Joins others extra :=
  ⟨fun key => by rw [joins.entries, get?_perm perm distinct], joins.distinct⟩

end Object

def Json.asList (value : Json) : Json :=
  match value.elements? with
  | some items => .arr items
  | none => value

namespace AggregationKind

/-- The name under which a field is written; two fields are written with another one. -/
def written? : String → Option String
  | "alias" | "order_direction" | "extended_bounds_max" => none
  | "order_mode" => some "order"
  | "extended_bounds_min" => some "extended_bounds"
  | "compression" => some "tdigest"
  | name => some name

def names (kind : AggregationKind) : List String :=
  (kind.fields.map (·.field)).filterMap written?

def orderIn (kind : AggregationKind) (a : Object) : Json :=
  if kind = .histogram then
    let mode := a.field "order_mode"
    if mode.truthy then Object.only mode.keyText (a.field "order_direction") else .null
  else
    let order := a.field "order"
    if order.truthy then Json.ofOption (order.entries.toOption.map .obj) else .null

def rangesIn (kind : AggregationKind) (a : Object) : Json :=
  Json.ofOption ((Bucket.list kind.takesMasks (a.field "ranges")).toOption.map
    Computation.bucketsJson)

def valueOf (kind : AggregationKind) (a : Object) : String → Json
  | "percents" => (a.field "percents").asList
  | "values" => (a.field "values").asList
  | "order" => kind.orderIn a
  | "ranges" => kind.rangesIn a
  | "tdigest" => Computation.digest (a.field "compression")
  | "extended_bounds" =>
      ExtendedBounds.toJson ⟨a.field "extended_bounds_min", a.field "extended_bounds_max"⟩
  | name => a.field name

/-- All that an aggregation is given apart from its options, under the names that it is written
with. -/
def table (kind : AggregationKind) (a : Object) : Object :=
  kind.names.map fun name => (name, kind.valueOf a name)

/-- Of an aggregation by ranges all is written, of the others what is not null. -/
def kept (kind : AggregationKind) (a : Object) : Object :=
  if kind = .range then kind.table a else (kind.table a).given

theorem nodup_table (kind : AggregationKind) (a : Object) : (kind.table a).keys.Nodup := by
  have keys : (kind.table a).keys = kind.names := by
    rw [Object.keys, table, List.map_map]
    exact List.map_id _
  rw [keys]
  cases kind with
  | metric figure => exact show ["field", "script", "missing"].Nodup by decide
  | _ => decide

end AggregationKind

namespace Computation

theorem entries_of_ofFields {a : Object} {source : ValueSource}
    (accepted : ValueSource.ofFields a = .ok source) :
    source.entries = [("field", a.field "field"), ("script", a.field "script"),
      ("missing", a.field "missing")] := by
  unfold ValueSource.ofFields at accepted
  split at accepted
  case h_1 absent =>
    cases null : (a.field "script").isNull with
    | true =>
      simp only [null, if_true] at accepted
      cases accepted
    | false =>
      simp only [null] at accepted
      cases accepted
      rw [absent]
      rfl
  case h_2 name named =>
    split at accepted
    · cases accepted
    · cases accepted
      rw [named]
      rfl
  case h_3 => cases accepted

theorem fieldName_eq_ok {value : Json} {name : String} :
    fieldName value = .ok name ↔ value = .str name ∧ Text.isBlank name = false := by
  cases value with
  | str text => exact unless_blank_eq_ok
  | _ => exact iff_of_false (by rintro ⟨⟩) (by rintro ⟨⟨⟩, _⟩)

theorem intervalOf_eq_ok {value interval : Json} (accepted : intervalOf value = .ok interval) :
    value = interval := by
  unfold intervalOf at accepted
  split at accepted
  · exact Except.ok.inj accepted
  · cases accepted

theorem directionOf_eq_ok {value : Json} {direction : Direction}
    (accepted : directionOf value = .ok direction) : value = .str direction.name := by
  unfold directionOf at accepted
  split at accepted
  · rename_i read
    cases accepted
    unfold Direction.ofJson? at read
    split at read <;> cases read <;> rfl
  · cases accepted

theorem formatOf_eq_ok {value : Json} {text : String} :
    formatOf value = .ok text ↔ value = .str text ∧ text ≠ "" := by
  cases value with
  | str given =>
    rw [formatOf, unless_eq_ok, Json.str.injEq, String.isEmpty_iff]
    exact and_congr_right fun same => by rw [same]
  | _ => exact iff_of_false (by rintro ⟨⟩) (by rintro ⟨⟨⟩, _⟩)

theorem originOf_eq_ok {value origin : Json} :
    originOf value = .ok origin ↔ value = origin ∧ value ≠ .null ∧ value ≠ .str "" := by
  cases value with
  | str text =>
    rw [originOf, unless_eq_ok, String.isEmpty_iff]
    refine and_congr_right fun _ => ⟨fun filled => ⟨by rintro ⟨⟩, ?_⟩, fun given empty => ?_⟩
    · rintro ⟨⟩
      exact filled rfl
    · exact given.2 (congrArg Json.str empty)
  | null => exact iff_of_false (by rintro ⟨⟩) fun given => given.2.1 rfl
  | _ =>
    refine ⟨fun accepted => ⟨Except.ok.inj accepted, ?_⟩, fun given => congrArg Except.ok given.1⟩
    constructor <;> rintro ⟨⟩

theorem valuesOf_eq_ok {value values : Json} (accepted : valuesOf value = .ok values) :
    value = values := by
  unfold valuesOf at accepted
  split at accepted
  · exact Except.ok.inj accepted
  · cases accepted

theorem eq_asList_of_listed {value copy : Json} (copied : listed value = .ok copy) :
    copy = value.asList := by
  obtain ⟨items, read, rfl⟩ := listed_eq_ok.mp copied
  rw [Json.asList, read]

theorem eq_asList_of_listedUnlessNull {value copy : Json}
    (copied : listedUnlessNull value = .ok copy) : copy = value.asList := by
  cases value with
  | null =>
    cases copied
    rfl
  | _ => exact eq_asList_of_listed copied

theorem eq_of_ordered {value copy : Json} (copied : ordered value = .ok copy) :
    copy = if value.truthy then Json.ofOption (value.entries.toOption.map .obj) else .null := by
  unfold ordered at copied
  split at copied
  · rename_i given
    obtain ⟨entries, read, same⟩ := bind_eq_ok.mp copied
    cases same
    rw [if_pos given, mapError_eq_ok.mp read]
    rfl
  · rename_i absent
    cases copied
    rw [if_neg absent]

theorem eq_of_orderedBy {mode order : Json} {direction : Direction}
    (made : orderedBy mode direction = .ok order) :
    order = if mode.truthy then Object.only mode.keyText (.str direction.name) else .null := by
  unfold orderedBy at made
  cases given : mode.truthy with
  | false =>
    simp only [given] at made
    cases made
    rfl
  | true =>
    simp only [given] at made
    change (if mode.isScalar = true then _ else _) = _ at made
    split at made
    · cases made
      rfl
    · cases made

end Computation

namespace AggregationKind

section Kinds

variable {kind : AggregationKind} {a typed extra body : Object}

theorem joins_of_withOptions (other : kind ≠ .range)
    (written : withOptions typed (.obj extra) = .ok body) (perm : typed.Perm (kind.table a)) :
    body.Joins (kind.kept a) extra := by
  rw [withOptions_obj] at written
  cases written
  have distinct : typed.keys.Nodup := (perm.map _).nodup_iff.mpr (kind.nodup_table a)
  rw [kept, if_neg other]
  have kept := Object.nodup_keys_given distinct
  exact (Object.joins_merge kept extra).perm (perm.filter _) kept

theorem joins_of_spreadOptions (other : kind ≠ .range)
    (written : spreadOptions typed (.obj extra) = .ok body) (filled : typed.given = typed)
    (all : typed = kind.table a) : body.Joins (kind.kept a) extra := by
  refine joins_of_withOptions other ?_ (.of_eq all)
  rw [withOptions_obj, filled]
  exact written

theorem rangesIn_of_list (kind : AggregationKind) {buckets : List Bucket}
    (listed : Bucket.list kind.takesMasks (a.field "ranges") = .ok buckets) :
    kind.rangesIn a = Computation.bucketsJson buckets := by
  rw [rangesIn, listed]
  rfl

theorem joins_of_body {computation : Computation}
    (built : Computation.build kind a = .ok computation)
    (written : computation.body (.obj extra) = .ok body) : body.Joins (kind.kept a) extra := by
  cases kind
  case metric | cardinality =>
    obtain ⟨source, taken, same⟩ := bind_eq_ok.mp built
    cases same
    refine joins_of_withOptions nofun written (.of_eq ?_)
    rw [Computation.entries_of_ofFields taken]
    rfl
  case percentiles =>
    obtain ⟨source, taken, same⟩ := bind_eq_ok.mp built
    cases same
    obtain ⟨percents, copied, written⟩ := bind_eq_ok.mp written
    refine joins_of_withOptions nofun written (.of_eq ?_)
    rw [Computation.entries_of_ofFields taken, Computation.eq_asList_of_listedUnlessNull copied]
    rfl
  case percentileRanks =>
    obtain ⟨source, taken, built⟩ := bind_eq_ok.mp built
    obtain ⟨values, given, same⟩ := bind_eq_ok.mp built
    cases same
    obtain ⟨copy, copied, written⟩ := bind_eq_ok.mp written
    refine joins_of_withOptions nofun written (.of_eq ?_)
    rw [Computation.entries_of_ofFields taken, Computation.eq_asList_of_listed copied,
      ← Computation.valuesOf_eq_ok given]
    rfl
  case terms =>
    obtain ⟨source, taken, same⟩ := bind_eq_ok.mp built
    cases same
    obtain ⟨order, copied, written⟩ := bind_eq_ok.mp written
    refine joins_of_withOptions nofun written (.of_eq ?_)
    rw [Computation.entries_of_ofFields taken, Computation.eq_of_ordered copied]
    rfl
  case geoBounds | geohashGrid =>
    obtain ⟨field, named, same⟩ := bind_eq_ok.mp built
    cases same
    refine joins_of_withOptions nofun written (.of_eq ?_)
    rw [← (Computation.fieldName_eq_ok.mp named).1]
    rfl
  case missing =>
    obtain ⟨field, named, same⟩ := bind_eq_ok.mp built
    cases same
    refine joins_of_spreadOptions nofun written rfl ?_
    rw [← (Computation.fieldName_eq_ok.mp named).1]
    rfl
  case dateRange =>
    obtain ⟨field, named, built⟩ := bind_eq_ok.mp built
    obtain ⟨format, told, built⟩ := bind_eq_ok.mp built
    obtain ⟨buckets, listed, same⟩ := bind_eq_ok.mp built
    cases same
    refine joins_of_spreadOptions nofun written rfl ?_
    rw [← (Computation.fieldName_eq_ok.mp named).1, ← (Computation.formatOf_eq_ok.mp told).1,
      ← rangesIn_of_list .dateRange listed]
    rfl
  case ipRange =>
    obtain ⟨field, named, built⟩ := bind_eq_ok.mp built
    obtain ⟨buckets, listed, same⟩ := bind_eq_ok.mp built
    cases same
    refine joins_of_spreadOptions nofun written rfl ?_
    rw [← (Computation.fieldName_eq_ok.mp named).1, ← rangesIn_of_list .ipRange listed]
    rfl
  case range =>
    obtain ⟨field, named, built⟩ := bind_eq_ok.mp built
    obtain ⟨buckets, listed, same⟩ := bind_eq_ok.mp built
    cases same
    cases written
    rw [← (Computation.fieldName_eq_ok.mp named).1, ← rangesIn_of_list .range listed]
    exact Object.joins_merge (nodup_table .range a) extra
  case histogram =>
    obtain ⟨field, named, built⟩ := bind_eq_ok.mp built
    obtain ⟨interval, positive, built⟩ := bind_eq_ok.mp built
    obtain ⟨direction, told, same⟩ := bind_eq_ok.mp built
    cases same
    obtain ⟨order, made, written⟩ := bind_eq_ok.mp written
    refine joins_of_withOptions nofun written ?_
    rw [← (Computation.fieldName_eq_ok.mp named).1, ← Computation.intervalOf_eq_ok positive,
      Computation.eq_of_orderedBy made, ← Computation.directionOf_eq_ok told]
    -- The order is written last, after the bounds.
    refine .cons _ (.cons _ (.cons _ ?_))
    exact @List.perm_append_comm _ [("extended_bounds", _), ("keyed", _)] _
  case geoDistance =>
    obtain ⟨field, named, built⟩ := bind_eq_ok.mp built
    obtain ⟨origin, given, built⟩ := bind_eq_ok.mp built
    obtain ⟨buckets, listed, same⟩ := bind_eq_ok.mp built
    cases same
    refine joins_of_withOptions nofun written ?_
    rw [← (Computation.fieldName_eq_ok.mp named).1, ← (Computation.originOf_eq_ok.mp given).1,
      ← rangesIn_of_list .geoDistance listed]
    refine .cons _ (.cons _ ?_)
    exact @List.perm_append_comm _ [("unit", _), ("distance_type", _)] _

theorem kind_of_build {computation : Computation}
    (built : Computation.build kind a = .ok computation) : computation.kind = kind := by
  cases kind
  all_goals
    obtain ⟨_, _, built⟩ := bind_eq_ok.mp built
    repeat obtain ⟨_, _, built⟩ := bind_eq_ok.mp built
    cases built
    rfl

theorem joined_of_build {aggregation : Aggregation} {json : Json}
    (built : Aggregation.build kind a = .ok aggregation) (plain : a.field "options" = .obj extra)
    (written : aggregation.toJson = .ok json) : json.Joined [kind.name] (kind.kept a) extra := by
  obtain ⟨made, options⟩ := Aggregation.build_eq_ok built
  obtain ⟨body, bodied, same⟩ := bind_eq_ok.mp written
  cases same
  rw [options, plain] at bodied
  refine ⟨body, ?_, joins_of_body made bodied⟩
  rw [Aggregation.kind, kind_of_build made]
  rfl

end Kinds

end AggregationKind

/-- Options are merged last, into whatever takes them. The entries that result are those of the
options, null or not, and under all other names the parameters that are not null, or all of them for
an aggregation by ranges. -/
theorem options_over_parameters (extra : Object) :
    (∀ kind a leaf, Leaf.build kind a = .ok leaf → kind ≠ .present →
      a.field "options" = .obj extra → (kind.table a).keys.Nodup →
      ∃ json, leaf.toJson = .ok json ∧
        json.Joined (kind.path a) (kind.table a).given extra) ∧
    (∀ (q : BoolQuery) json, q.options = .obj extra → ¬ q.IsShort → q.toJson = .ok json →
      ∃ lists, (∀ role, clausesToJson (q.clauses role) = .ok (lists role)) ∧
        json.Joined ["bool"] (q.table lists).given extra) ∧
    (∀ path query score clause json, Clause.nested? path query score (.obj extra) = .ok clause →
      clause.toJson = .ok json →
      ∃ inner, query.toJson = .ok inner ∧
        json.Joined ["nested"]
          (Object.given [("path", path), ("query", inner), ("score_mode", score)]) extra) ∧
    (∀ query functions json,
      (Clause.functionScore query functions (.obj extra)).toJson = .ok json →
      ∃ inner scored, query.toJson = .ok inner ∧ functionsToJson functions = .ok scored ∧
        json.Joined ["function_score"]
          (Object.given [("query", inner), ("functions", .arr scored)]) extra) ∧
    ∀ kind a aggregation json, Aggregation.build kind a = .ok aggregation →
      a.field "options" = .obj extra → aggregation.toJson = .ok json →
      json.Joined [kind.name] (kind.kept a) extra := by
  refine ⟨fun kind a leaf built optioned plain distinct => ?_, fun q json plain long written => ?_,
    fun path query score clause json made written => ?_,
    fun query functions json written => ?_, fun kind a aggregation json built plain written => ?_⟩
  · exact LeafKind.joined_of_build built optioned plain distinct
  · exact BoolQuery.joined_of_toJson plain long written
  · exact Clause.joined_nested made written
  · exact Clause.joined_functionScore written
  · exact AggregationKind.joined_of_build built plain written

def loosened : Object := [("boost", .null), ("slop", .int 1)]

def titled : Object :=
  [("field", .str "title"), ("query", .str "red"), ("boost", .int 2), ("options", .obj loosened)]

def stocked : BoolQuery :=
  { BoolQuery.empty.add .filter (.leaf (.present "stock")) with
    boost := .int 3, options := .obj loosened }

def ranged (extra : Object) : Object :=
  [("alias", .str "prices"), ("field", .str "price"), ("ranges", .arr [.arr [.int 1, .int 2]]),
   ("keyed", .null), ("options", .obj extra)]

theorem options_over_parameters_loosened :
    (∃ json, (Leaf.matching "title" (.str "red") .null .null .null .null (.int 2)
        (.obj loosened)).toJson = .ok json ∧
      json.Joined ["match", "title"] [("query", .str "red"), ("boost", .int 2)] loosened) ∧
    (∃ lists, (∀ role, clausesToJson (stocked.clauses role) = .ok (lists role)) ∧
      (Object.only "bool" (.obj [("filter", .arr [Object.only "exists"
        (.obj [("field", .str "stock")])]), ("boost", .null), ("slop", .int 1)])).Joined ["bool"]
        (stocked.table lists).given loosened) ∧
    (∃ json : Json, ∃ inner, stocked.toJson = .ok inner ∧ json.Joined ["nested"]
      (Object.given [("path", .str "lines"), ("query", inner), ("score_mode", .str "max")])
      loosened) ∧
    (∃ json : Json, ∃ inner scored, stocked.toJson = .ok inner ∧ functionsToJson [] = .ok scored ∧
      json.Joined ["function_score"]
        (Object.given [("query", inner), ("functions", .arr scored)]) loosened) ∧
    (Object.only "range" (.obj [("field", .str "price"), ("ranges", .arr [.obj [("from", .int 1),
      ("to", .int 2)]]), ("keyed", .null), ("boost", .null), ("slop", .int 1)])).Joined ["range"]
      (AggregationKind.range.table (ranged loosened)) loosened := by
  obtain ⟨leaf, bool, nested, scored, aggregation⟩ := options_over_parameters loosened
  have distinct : (LeafKind.matching.table titled).keys.Nodup := LeafKind.nodup_table (by decide)
  have long : ¬ stocked.IsShort := by
    rintro (empty | ⟨_, _, _, filter, _⟩)
    · cases empty
    · cases filter
  exact ⟨leaf .matching titled _ rfl nofun rfl distinct, bool stocked _ rfl long rfl,
    ⟨_, nested (.str "lines") stocked (.str "max") _ _ rfl rfl⟩, ⟨_, scored stocked [] _ rfl⟩,
    aggregation .range (ranged loosened) _ _ rfl rfl rfl⟩

/-- Whether a range aggregation is keyed is written where it is null and no option says so. -/
theorem not_options_over_parameters_keyed :
    ¬ ∀ extra kind a aggregation json, Aggregation.build kind a = .ok aggregation →
      a.field "options" = .obj extra → aggregation.toJson = .ok json →
      json.Joined [kind.name] (kind.table a).given extra := by
  intro each
  obtain ⟨joined, same, joins⟩ := each [] .range (ranged []) _ _ rfl rfl rfl
  have keyed := joins.entries "keyed"
  cases same
  cases keyed

end SearchRequest
