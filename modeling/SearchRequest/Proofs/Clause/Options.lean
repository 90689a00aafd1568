import Mathlib.Data.List.Nodup
import SearchRequest.Proofs.Clause.Places
import SearchRequest.Proofs.Clause.ReadBack

/-!
Parameters and options of clauses. Whatever the kind, the parameters that are not null are written
under their names and the options over them, null or not.
-/

namespace SearchRequest

namespace Object

/-- The object has the entries of the options, and for the other keys those that are typed. -/
structure Joins (joined typed extra : Object) : Prop where
  entries : ∀ key, joined.get? key = (extra.get? key).or (typed.get? key)
  distinct : extra.keys.Nodup → joined.keys.Nodup

theorem nodup_keys_merge {base winning : Object} (first : base.keys.Nodup)
    (second : winning.keys.Nodup) : (merge base winning).keys.Nodup := by
  have kept : Object.keys (base.map fun entry => (entry.1, (get? winning entry.1).getD entry.2)) =
      base.keys := by
    simp [keys]
  rw [merge, keys_append, kept]
  refine List.nodup_append.mpr ⟨first, second.sublist (List.filter_sublist.map _), ?_⟩
  rintro key known other added rfl
  obtain ⟨entry, listed, rfl⟩ := List.mem_map.mp added
  have absent := (List.mem_filter.mp listed).2
  rw [Bool.not_eq_true', has_eq_false] at absent
  exact absent known

theorem joins_merge {typed : Object} (distinct : typed.keys.Nodup) (extra : Object) :
    (typed.merge extra).Joins typed extra :=
  ⟨get?_merge typed extra, nodup_keys_merge distinct⟩

theorem joins_filled {typed : Object} (filled : typed.given = typed) (distinct : typed.keys.Nodup)
    (extra : Object) : (typed.merge extra).Joins typed.given extra := by
  rw [filled]
  exact joins_merge distinct extra

theorem given_append (first second : Object) :
    given (first ++ second) = first.given ++ second.given := List.filter_append ..

theorem nodup_keys_given {o : Object} (distinct : o.keys.Nodup) : o.given.keys.Nodup :=
  distinct.sublist (keys_given_sublist o)

theorem joins_given {first second : Object} (distinct : (first ++ second).keys.Nodup)
    (extra : Object) :
    (first.given.merge (second.given.merge extra)).Joins (first ++ second).given extra := by
  have kept := nodup_keys_given distinct
  rw [given_append] at kept ⊢
  have parts := kept
  rw [keys_append] at parts
  obtain ⟨one, other, apart⟩ := List.nodup_append.mp parts
  have disjoint : ∀ key ∈ first.given.keys, key ∉ second.given.keys :=
    fun key here there => apart key here key there rfl
  refine ⟨fun key => ?_, fun free => nodup_keys_merge one (nodup_keys_merge other free)⟩
  rw [get?_merge, get?_merge, ← merge_of_apart disjoint, get?_merge, Option.or_assoc]

theorem given_cons_of_filled {key : String} {value : Json} (filled : value.isNull = false)
    (rest : Object) : given ((key, value) :: rest) = (key, value) :: rest.given := by
  rw [given_cons, filled]
  rfl

theorem given_singleton {key : String} {value : Json} (filled : value.isNull = false) :
    given [(key, value)] = [(key, value)] := given_cons_of_filled filled []

theorem joins_core {core typed : Object} (filled : core.given = core)
    (distinct : (core ++ typed).keys.Nodup) (extra : Object) :
    (core.merge (typed.given.merge extra)).Joins (core ++ typed).given extra := by
  have joins := joins_given distinct extra
  rwa [filled] at joins

end Object

namespace LeafKind

def unlessEmpty : Json → Json
  | .arr [] => .null
  | value => value

def boxOf (points : Json) : Json := Json.ofOption ((Bounds.ofPoints? points).map Bounds.toJson)

/-- A term without a weight or options, which is written as its value alone. -/
def isCompact (kind : LeafKind) (a : Object) : Bool :=
  kind == .term && (a.field "boost").isNull && a.field "options" == .obj []

/-- What a clause is about, under the names that it is written with. -/
def about (kind : LeafKind) (a : Object) : Object :=
  let field := Call.textOf (a.field "field")
  match kind with
  | .term | .startsWith | .wildcard | .regexp | .fuzzy => [("value", a.field "value")]
  | .terms => [(field, a.field "values")]
  | .range | .matchAll | .present => []
  | .ids => [("values", a.field "values")]
  | .matching | .common | .multiMatch | .queryString | .simpleQueryString =>
      [("query", a.field "query")]
  | .geoBoundingBox => [(field, boxOf (a.field "points"))]
  | .geoDistance => [("distance", a.field "distance"), (field, a.field "location")]
  | .geoPolygon => [(field, Object.only "points" (a.field "points"))]
  | .geoShape => [("shape",
      .obj [("type", a.field "shape_type"), ("coordinates", a.field "coordinates")])]

def further (kind : LeafKind) (a : Object) : Object :=
  (kind.typed a).map fun entry =>
    (entry.1, if entry.1 = "fields" then unlessEmpty entry.2 else entry.2)

/-- All that a clause is given apart from its options, under the names that it is written with. -/
def table (kind : LeafKind) (a : Object) : Object :=
  if kind.isCompact a then [(Call.textOf (a.field "field"), a.field "value")]
  else kind.about a ++ kind.further a

def path (kind : LeafKind) (a : Object) : List String :=
  kind.name :: if kind.isCompact a then [] else kind.home (Call.textOf (a.field "field"))

theorem valueIn_filled {kind : LeafKind} {label : String} {value taken : Json}
    (accepted : kind.valueIn label value = .ok taken) : taken.isNull = false := by
  cases value with
  | null => cases accepted
  | _ =>
    cases accepted
    rfl

end LeafKind

def Json.under (path : List String) (value : Json) : Json := path.foldr Object.only value

/-- Under the keys stand the entries of the options, and beside them those that are typed. -/
def Json.Joined (json : Json) (path : List String) (typed extra : Object) : Prop :=
  ∃ joined : Object, json = under path (.obj joined) ∧ joined.Joins typed extra

namespace Leaf

variable {leaf : Leaf} {extra : Object}

theorem joined_merged (core typed : Object)
    (written : leaf.body = .ok (core.merge (typed.given.merge extra)))
    (filled : core.given = core) (distinct : (core ++ typed).keys.Nodup) :
    ∃ json, leaf.toJson = .ok json ∧
      json.Joined [leaf.kind.name] (core ++ typed).given extra := by
  refine ⟨_, ?_, _, rfl, Object.joins_core filled distinct extra⟩
  rw [toJson, written]
  rfl

theorem joined_spread {core : Object} (written : leaf.body = spreadOptions core (.obj extra))
    (filled : core.given = core) (distinct : (core ++ []).keys.Nodup) :
    ∃ json, leaf.toJson = .ok json ∧ json.Joined [leaf.kind.name] (core ++ []).given extra := by
  refine joined_merged core [] ?_ filled distinct
  rw [written, Object.given, List.filter_nil, Object.nil_merge]
  rfl

theorem joined_underField {field : String} (core : Object) {typed : Object}
    (written : leaf.body = .ok (underField field core (typed.given.merge extra)))
    (filled : core.given = core) (distinct : (core ++ typed).keys.Nodup) :
    ∃ json, leaf.toJson = .ok json ∧
      json.Joined [leaf.kind.name, field] (core ++ typed).given extra := by
  refine ⟨_, ?_, _, rfl, Object.joins_core filled distinct extra⟩
  rw [toJson, written]
  rfl

end Leaf

namespace LeafKind

section Kinds

variable {a extra : Object} {field : String}

theorem isEmpty_merge_boost (boost : Json) (extra : Object) :
    (Object.merge (Object.given [("boost", boost)]) extra).isEmpty =
      (boost.isNull && Json.obj extra == .obj []) := by
  cases null : boost.isNull with
  | true =>
    rw [Object.given_cons, if_pos null, Object.given, List.filter_nil, Object.nil_merge,
      Bool.true_and]
    cases extra with
    | nil => rfl
    | cons entry rest => exact (beq_eq_false_iff_ne.mpr (by simp)).symm
  | false =>
    rw [Object.given_cons, null]
    rfl

theorem listOrNull_eq {kind : LeafKind} {value : Json} {items : List Json}
    (read : kind.listOrNullIn "fields" value = .ok items) :
    listOrNull items = unlessEmpty value := by
  cases value with
  | null =>
    cases read
    rfl
  | arr listed =>
    cases read
    cases items <;> rfl
  | _ => cases read

theorem joined_term (told : a.field "field" = .str field)
    (filled : (a.field "value").isNull = false) (plain : a.field "options" = .obj extra)
    (distinct : (table .term a).keys.Nodup) :
    ∃ json, (Leaf.term field (a.field "value") (a.field "boost") (.obj extra)).toJson = .ok json ∧
      json.Joined (path .term a) (table .term a).given extra := by
  have body : (Leaf.term field (a.field "value") (a.field "boost") (.obj extra)).body =
      if (Object.merge (Object.given [("boost", a.field "boost")]) extra).isEmpty then
        .ok [(field, a.field "value")]
      else .ok (Leaf.underField field [("value", a.field "value")]
        (Object.merge (Object.given [("boost", a.field "boost")]) extra)) := by
    rw [Leaf.body, withOptions_obj, bind_ok]
  have compact : isCompact .term a =
      ((a.field "boost").isNull && Json.obj extra == .obj []) := by
    rw [isCompact, plain]
    rfl
  rw [isEmpty_merge_boost, ← compact] at body
  rw [table, told] at distinct
  rw [path, table, told]
  split at distinct
  · rename_i short
    rw [if_pos short] at body
    rw [if_pos short, if_pos short]
    have none : extra = [] := by
      have same := beq_iff_eq.mp (Bool.and_eq_true_iff.mp (compact ▸ short)).2
      injection same
    subst none
    exact Leaf.joined_merged [(field, a.field "value")] [] body
      (Object.given_singleton filled) distinct
  · rename_i long
    rw [if_neg long] at body
    rw [if_neg long, if_neg long]
    exact Leaf.joined_underField _ body (Object.given_singleton filled) distinct

theorem joined_multiMatch {items : List Json} {names : List String}
    (listed : a.field "fields" = .arr items) (named : namesIn .multiMatch items = .ok names)
    (filled : (a.field "query").isNull = false) (distinct : (table .multiMatch a).keys.Nodup) :
    ∃ json, (Leaf.multiMatch names (a.field "query") (a.field "type") (a.field "operator")
        (a.field "boost") (.obj extra)).toJson = .ok json ∧
      json.Joined (path .multiMatch a) (table .multiMatch a).given extra := by
  let rest : Object := [("type", a.field "type"), ("operator", a.field "operator"),
    ("boost", a.field "boost")]
  have body : Leaf.body (.multiMatch names (a.field "query") (a.field "type") (a.field "operator")
      (a.field "boost") (.obj extra)) =
      .ok (Object.merge
        (("query", a.field "query") :: if names.isEmpty then [] else [("fields", .strings names)])
        (rest.given.merge extra)) := by
    rw [Leaf.body, withOptions_obj, bind_ok]
  have all : table .multiMatch a =
      ("query", a.field "query") :: ("fields", unlessEmpty (.strings names)) :: rest := by
    rw [Json.strings, ← namesIn_eq_ok named, ← listed]
    rfl
  rw [all] at distinct ⊢
  cases names with
  | nil =>
    exact Leaf.joined_merged [("query", a.field "query")] (("fields", .null) :: rest) body
      (Object.given_singleton filled) distinct
  | cons name others =>
    exact Leaf.joined_merged
      [("query", a.field "query"), ("fields", .strings (name :: others))] rest body
      (Object.given_cons_of_filled filled _) distinct

theorem joined_text {kind : LeafKind} {leaf : Leaf} {query : String} {fields : List Json}
    (textual : kind = .queryString ∨ kind = .simpleQueryString)
    (read : kind.listOrNullIn "fields" (a.field "fields") = .ok fields)
    (asked : a.field "query" = .str query) (same : leaf.kind = kind)
    (body : leaf.body = Leaf.queryStringBody query (a.field "default_field")
      (a.field "default_operator") fields (a.field "boost") (.obj extra))
    (distinct : (kind.table a).keys.Nodup) :
    ∃ json, leaf.toJson = .ok json ∧ json.Joined (kind.path a) (kind.table a).given extra := by
  rw [Leaf.queryStringBody, withOptions_obj, bind_ok] at body
  have all : kind.table a = [("query", .str query)] ++
      [("default_field", a.field "default_field"),
        ("default_operator", a.field "default_operator"), ("fields", listOrNull fields),
        ("boost", a.field "boost")] := by
    rw [listOrNull_eq read, ← asked]
    rcases textual with rfl | rfl <;> rfl
  have path : kind.path a = [leaf.kind.name] := by
    rw [same]
    rcases textual with rfl | rfl <;> rfl
  rw [all] at distinct ⊢
  rw [path]
  exact Leaf.joined_merged _ _ body rfl distinct

end Kinds

theorem nodup_table {kind : LeafKind} {a : Object}
    (foreign : Call.textOf (a.field "field") ∉ kind.fields.map (·.field)) :
    (kind.table a).keys.Nodup := by
  have further : (kind.further a).keys = kind.parameterNames := by
    rw [further, Object.keys, List.map_map]
    exact keys_typed kind a
  -- Most kinds write under names that do not depend on the field.
  have closed (kind : LeafKind) (same : (kind.about a).keys = (kind.about []).keys)
      (distinct : ((kind.about []).keys ++ kind.parameterNames).Nodup) :
      ((kind.about a).keys ++ kind.parameterNames).Nodup := by rwa [same]
  unfold table
  split
  · exact List.nodup_singleton _
  · rw [Object.keys_append, further]
    cases kind
    case terms =>
      refine List.nodup_cons.mpr ⟨fun listed => foreign ?_, List.nodup_singleton _⟩
      have same : Call.textOf (a.field "field") = "boost" := List.mem_singleton.mp listed
      rw [same]
      decide
    case geoDistance =>
      refine List.nodup_cons.mpr ⟨fun listed => foreign ?_, List.nodup_singleton _⟩
      have same : "distance" = Call.textOf (a.field "field") := List.mem_singleton.mp listed
      rw [← same]
      decide
    case geoBoundingBox | geoPolygon => exact List.nodup_singleton _
    all_goals exact closed _ rfl (by decide)

theorem joined_of_build {kind : LeafKind} {a extra : Object} {leaf : Leaf}
    (built : Leaf.build kind a = .ok leaf) (optioned : kind ≠ .present)
    (plain : a.field "options" = .obj extra) (distinct : (kind.table a).keys.Nodup) :
    ∃ json, leaf.toJson = .ok json ∧ json.Joined (kind.path a) (kind.table a).given extra := by
  cases kind
  case present => exact absurd rfl optioned
  case term =>
    obtain ⟨field, named, built⟩ := bind_eq_ok.mp built
    obtain ⟨value, taken, built⟩ := bind_eq_ok.mp built
    cases built
    obtain rfl := valueIn_eq_ok taken
    rw [plain]
    exact joined_term ((nameIn_eq_ok.mp named).1) (valueIn_filled taken) plain distinct
  case startsWith | wildcard | regexp | fuzzy | matching | common =>
    obtain ⟨field, named, built⟩ := bind_eq_ok.mp built
    obtain ⟨value, taken, built⟩ := bind_eq_ok.mp built
    cases built
    obtain rfl := valueIn_eq_ok taken
    rw [path, (nameIn_eq_ok.mp named).1]
    refine Leaf.joined_underField _ ?_ (Object.given_singleton (valueIn_filled taken)) distinct
    simp only [Leaf.body, plain, withOptions_obj, bind_ok]
    rfl
  case range =>
    obtain ⟨field, named, built⟩ := bind_eq_ok.mp built
    cases built
    rw [path, (nameIn_eq_ok.mp named).1]
    refine Leaf.joined_underField [] ?_ rfl distinct
    simp only [Leaf.body, plain, withOptions_obj, bind_ok]
    rfl
  case geoShape =>
    obtain ⟨field, named, built⟩ := bind_eq_ok.mp built
    obtain ⟨shapeType, told, built⟩ := bind_eq_ok.mp built
    obtain ⟨coordinates, taken, built⟩ := bind_eq_ok.mp built
    cases built
    rw [path, (nameIn_eq_ok.mp named).1]
    refine Leaf.joined_underField _ ?_ rfl distinct
    simp only [Leaf.body, plain, withOptions_obj, bind_ok]
    rw [← textIn_eq_ok told, ← listIn_eq_ok taken]
    rfl
  case terms =>
    obtain ⟨field, named, built⟩ := bind_eq_ok.mp built
    obtain ⟨values, listed, built⟩ := bind_eq_ok.mp built
    cases built
    have about : about .terms a = [(field, .arr values)] := by
      rw [about, (nameIn_eq_ok.mp named).1, listIn_eq_ok listed]
      rfl
    refine Leaf.joined_merged _ _ ?_ (by rw [about]; rfl) distinct
    rw [Leaf.body, plain, withOptions_obj, bind_ok, about]
    rfl
  case ids =>
    obtain ⟨values, taken, built⟩ := bind_eq_ok.mp built
    cases built
    have about : about .ids a = [("values", .arr values)] := by
      rw [about, idsIn_eq_ok taken]
    refine Leaf.joined_spread ?_ (by rw [about]; rfl) distinct
    rw [Leaf.body, plain, about]
  case multiMatch =>
    obtain ⟨items, listed, built⟩ := bind_eq_ok.mp built
    obtain ⟨names, named, built⟩ := bind_eq_ok.mp built
    obtain ⟨query, taken, built⟩ := bind_eq_ok.mp built
    cases built
    obtain rfl := valueIn_eq_ok taken
    rw [plain]
    exact joined_multiMatch (listIn_eq_ok listed) named (valueIn_filled taken) distinct
  case queryString | simpleQueryString =>
    obtain ⟨query, taken, built⟩ := bind_eq_ok.mp built
    obtain ⟨fields, read, built⟩ := bind_eq_ok.mp built
    cases built
    rw [plain]
    exact joined_text (by decide) read (textIn_eq_ok taken) rfl rfl distinct
  case matchAll =>
    cases built
    refine Leaf.joined_merged [] _ ?_ rfl distinct
    simp only [Leaf.body, plain, withOptions_obj, Object.nil_merge]
    rfl
  case geoBoundingBox =>
    obtain ⟨field, named, built⟩ := bind_eq_ok.mp built
    obtain ⟨bounds, read, built⟩ := bind_eq_ok.mp built
    cases built
    have about : about .geoBoundingBox a = [(field, bounds.toJson)] := by
      rw [about, (nameIn_eq_ok.mp named).1, boxOf, boundsIn_eq_ok read]
      rfl
    refine Leaf.joined_spread ?_ ?_ distinct
    · rw [Leaf.body, plain, about]
    · rw [about]
      exact Object.given_singleton (by cases bounds <;> rfl)
  case geoDistance =>
    obtain ⟨field, named, built⟩ := bind_eq_ok.mp built
    obtain ⟨distance, told, built⟩ := bind_eq_ok.mp built
    obtain ⟨location, taken, built⟩ := bind_eq_ok.mp built
    cases built
    obtain rfl := valueIn_eq_ok taken
    have about : about .geoDistance a =
        [("distance", .str distance), (field, a.field "location")] := by
      rw [about, (nameIn_eq_ok.mp named).1, textIn_eq_ok told]
      rfl
    -- The distance stands beside the field, which therefore may not go by its name.
    have foreign : field ∉ Object.keys [("distance", .str distance)] := by
      rw [table, about] at distinct
      rintro listed
      rw [List.mem_singleton.mp listed] at distinct
      exact (List.nodup_cons.mp distinct).1 List.mem_cons_self
    refine Leaf.joined_spread ?_ ?_ distinct
    · rw [Leaf.body, plain, about, Object.set_of_absent foreign]
      rfl
    · rw [about]
      exact congrArg (("distance", Json.str distance) :: ·)
        (Object.given_singleton (valueIn_filled taken))
  case geoPolygon =>
    obtain ⟨field, named, built⟩ := bind_eq_ok.mp built
    obtain ⟨points, taken, built⟩ := bind_eq_ok.mp built
    cases built
    have about : about .geoPolygon a = [(field, Object.only "points" (.arr points))] := by
      rw [about, (nameIn_eq_ok.mp named).1, verticesIn_eq_ok taken]
      rfl
    refine Leaf.joined_spread ?_ (by rw [about]; rfl) distinct
    rw [Leaf.body, plain, about]

end LeafKind

theorem BoolQuery.sizeOf_lt_of_must {q : BoolQuery} {clause : Clause} (must : q.must = [clause]) :
    sizeOf clause < sizeOf (Clause.bool q) := by
  cases q
  cases must
  simp only [Clause.bool.sizeOf_spec, mk.sizeOf_spec, List.cons.sizeOf_spec]
  omega

theorem Clause.filled_of_toJson {clause : Clause} {json : Json}
    (written : clause.toJson = .ok json) : json.isNull = false := by
  cases clause with
  | leaf single =>
    obtain ⟨body, _, same⟩ := bind_eq_ok.mp written
    cases same
    rfl
  | bool query =>
    rw [toJson] at written
    cases BoolQuery.shape_of_toJson written with
    | everything => rfl
    | alone must _ _ _ _ alone =>
      -- The lone clause is a part of the query, which the recursion needs to know.
      have smaller := BoolQuery.sizeOf_lt_of_must must
      exact filled_of_toJson alone
    | full => rfl
  | nested path query score options =>
    obtain ⟨inner, _, onward⟩ := bind_eq_ok.mp written
    obtain ⟨body, _, same⟩ := bind_eq_ok.mp onward
    cases same
    rfl
  | functionScore query functions options =>
    obtain ⟨inner, _, onward⟩ := bind_eq_ok.mp written
    obtain ⟨scored, _, onward⟩ := bind_eq_ok.mp onward
    obtain ⟨body, _, same⟩ := bind_eq_ok.mp onward
    cases same
    rfl
termination_by sizeOf clause
decreasing_by
  subst_vars
  exact smaller

namespace BoolQuery

/-- The query is written as one that matches everything, or as its only clause. -/
def IsShort (q : BoolQuery) : Prop :=
  q.isEmpty = true ∨ q.parameters = .ok [] ∧ q.should = [] ∧ q.mustNot = [] ∧ q.filter = [] ∧
    ∃ clause, q.must = [clause]

def table (q : BoolQuery) (lists : Role → List Json) : Object :=
  Role.all.map (fun role => (role.name, listOrNull (lists role))) ++
    [("minimum_should_match", q.minimumShouldMatch), ("boost", q.boost)]

theorem given_lists (lists : Role → List Json) (roles : List Role) :
    Object.given (roles.map fun role => (role.name, listOrNull (lists role))) =
      roles.filterMap (group lists) := by
  induction roles with
  | nil => rfl
  | cons role rest ih =>
    rw [List.map_cons, Object.given_cons, ih, List.filterMap_cons, group, listOrNull]
    split <;> rfl

theorem joined_of_toJson {q : BoolQuery} {json : Json} {extra : Object}
    (plain : q.options = .obj extra) (long : ¬ q.IsShort) (written : q.toJson = .ok json) :
    ∃ lists, (∀ role, clausesToJson (q.clauses role) = .ok (lists role)) ∧
      json.Joined ["bool"] (q.table lists).given extra := by
  cases shape_of_toJson written with
  | everything empty => exact absurd (.inl empty) long
  | alone must should mustNot filter none _ =>
    exact absurd (.inr ⟨none, should, mustNot, filter, _, must⟩) long
  | @full lists params filled given each longer =>
    rw [parameters, plain, withOptions_obj] at given
    cases given
    have distinct : (q.table lists).keys.Nodup := by
      change ["must", "should", "must_not", "filter", "minimum_should_match", "boost"].Nodup
      decide
    refine ⟨lists, each, _, rfl, ?_⟩
    rw [← given_lists]
    exact Object.joins_given distinct extra

end BoolQuery

namespace Clause

theorem nested?_eq_ok {path score options : Json} {query : BoolQuery} {clause : Clause}
    (made : nested? path query score options = .ok clause) :
    ∃ text mode, path = .str text ∧ score = .str (NestedScore.name mode) ∧
      clause = .nested text query mode options := by
  unfold nested? at made
  split at made
  · split at made
    · cases made
    · obtain ⟨known, among, made⟩ := bind_eq_ok.mp made
      split at made
      · rename_i name _
        cases made
        have listed : name ∈ NestedScore.all.map NestedScore.name := by
          injection among with same
          exact List.contains_iff_mem.mp same
        obtain ⟨mode, _, rfl⟩ := List.mem_map.mp listed
        refine ⟨_, mode, rfl, rfl, ?_⟩
        cases mode <;> rfl
      · cases made
  · cases made

theorem joined_nested {path score json : Json} {query : BoolQuery} {extra : Object}
    {clause : Clause} (made : nested? path query score (.obj extra) = .ok clause)
    (written : clause.toJson = .ok json) :
    ∃ inner, query.toJson = .ok inner ∧ json.Joined ["nested"]
      (Object.given [("path", path), ("query", inner), ("score_mode", score)]) extra := by
  obtain ⟨text, mode, rfl, rfl, rfl⟩ := nested?_eq_ok made
  obtain ⟨inner, queried, onward⟩ := bind_eq_ok.mp written
  cases onward
  have filled := filled_of_toJson (show (Clause.bool query).toJson = .ok inner from queried)
  have distinct : ["path", "query", "score_mode"].Nodup := by decide
  refine ⟨inner, queried, _, rfl, Object.joins_filled ?_ ?_ extra⟩
  · rw [Object.given_cons_of_filled rfl, Object.given_cons_of_filled filled]
    rfl
  · exact distinct

theorem joined_functionScore {json : Json} {query : BoolQuery} {functions : List ScoreFunction}
    {extra : Object}
    (written : (Clause.functionScore query functions (.obj extra)).toJson = .ok json) :
    ∃ inner scored, query.toJson = .ok inner ∧ functionsToJson functions = .ok scored ∧
      json.Joined ["function_score"]
        (Object.given [("query", inner), ("functions", .arr scored)]) extra := by
  obtain ⟨inner, queried, onward⟩ := bind_eq_ok.mp written
  obtain ⟨scored, rated, onward⟩ := bind_eq_ok.mp onward
  cases onward
  have filled := filled_of_toJson (show (Clause.bool query).toJson = .ok inner from queried)
  have distinct : ["query", "functions"].Nodup := by decide
  refine ⟨inner, scored, queried, rated, _, rfl, Object.joins_filled ?_ ?_ extra⟩
  · exact Object.given_cons_of_filled filled _
  · exact distinct

end Clause

end SearchRequest
