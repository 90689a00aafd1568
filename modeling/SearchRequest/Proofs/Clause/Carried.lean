import SearchRequest.Proofs.Clause.Places

/-!
Clauses that carry their arguments. Each kind has its own way of writing them; whatever an operation
accepts, the clauses that it adds carry all of it, unless the name of the field collides with that
of another argument.
-/

namespace SearchRequest.LeafKind

section Kinds

variable {a : Object} {field : String}

theorem carries_term (value : Json) :
    (Leaf.term field value (a.field "boost") (.obj [])).Carries
      ((if (a.field "boost").isNull then [field] else [field, "value"], value) ::
        beside [field] (typed .term a)) := by
  have single : typed .term a = [("boost", a.field "boost")] := rfl
  cases boost : (a.field "boost").isNull with
  | true =>
    have written : (Leaf.term field value (a.field "boost") (.obj [])).body =
        .ok [(field, value)] := by
      rw [Leaf.body, withOptions_none, bind_ok, Object.given_cons, if_pos boost]
      rfl
    have none : beside [field] (typed .term a) = [] := by
      rw [single, beside_cons, isGiven, boost]
      rfl
    rw [none, if_pos rfl, Leaf.carries_iff written]
    refine ⟨List.nodup_singleton _, fun place listed => ?_⟩
    rw [List.mem_singleton.mp listed]
    exact Json.at?_only field value []
  | false =>
    have written : (Leaf.term field value (a.field "boost") (.obj [])).body =
        .ok (Leaf.underField field [("value", value)] (typed .term a).given) := by
      have given : (typed .term a).given = [("boost", a.field "boost")] := by
        rw [single, Object.given_cons, boost]
        rfl
      rw [Leaf.body, withOptions_none, bind_ok, given, Object.given_cons, boost]
      rfl
    exact Leaf.carries_underField written (nodup_beside value .term a (by decide))

theorem carries_range :
    (Leaf.range field (a.field "gt") (a.field "gte") (a.field "lt") (a.field "lte")
      (a.field "format") (a.field "time_zone") (a.field "boost") (.obj [])).Carries
        (([field], .obj (typed .range a).given) :: beside [field] (typed .range a)) := by
  have written : Leaf.body (.range field (a.field "gt") (a.field "gte") (a.field "lt")
      (a.field "lte") (a.field "format") (a.field "time_zone") (a.field "boost") (.obj [])) =
      .ok (Leaf.underField field [] (typed .range a).given) := by
    simp only [Leaf.body, withOptions_none, bind_ok]
    rfl
  have parameters := Leaf.carries_underField written (nodup_typed .range a)
  -- The paths of the bounds are longer than the path of the field that they stand under.
  refine parameters.cons written (fun listed => ?_) ?_
  · have length : 1 = 2 := Leaf.length_of_beside listed
    omega
  · exact (Json.at?_only field _ []).trans (by rw [Object.nil_merge]; rfl)

theorem carries_geoShape (shapeType : String) (coordinates : List Json) :
    (Leaf.geoShape field shapeType coordinates (a.field "relation") (.obj [])).Carries
      (([field, "shape", "type"], .str shapeType) ::
        ([field, "shape", "coordinates"], .arr coordinates) ::
          beside [field] (typed .geoShape a)) := by
  let shape := Json.obj [("type", .str shapeType), ("coordinates", .arr coordinates)]
  have written : Leaf.body (.geoShape field shapeType coordinates (a.field "relation") (.obj [])) =
      .ok (Leaf.underField field [("shape", shape)] (typed .geoShape a).given) := by
    simp only [Leaf.body, withOptions_none, bind_ok]
    rfl
  have foreign : "shape" ∉ parameterNames .geoShape := by decide
  have distinct := nodup_beside shape .geoShape a foreign
  have found := Leaf.carries_underField written distinct
  have told := found.sublist (List.sublist_cons_self _ _)
  have deeper {last : String} : [field, "shape", last] ∉
      (beside [field] (typed .geoShape a)).map (·.1) := fun listed => by
    have length : 3 = 2 := Leaf.length_of_beside listed
    omega
  have inner (path : List String) : (Json.obj (Leaf.underField field [("shape", shape)]
      (typed .geoShape a).given)).at? (field :: "shape" :: path) = shape.at? path := by
    refine (Json.at?_only field _ _).trans ?_
    rw [Json.at?_obj, Leaf.get?_written distinct List.mem_cons_self, Option.bind_some]
  refine .cons (.cons told written deeper (inner ["coordinates"])) written ?_ (inner ["type"])
  rw [List.map_cons, List.mem_cons, not_or]
  exact ⟨by simp, deeper⟩

theorem listOrNull_of_read {kind : LeafKind} {value : Json} {items : List Json}
    (read : kind.listOrNullIn "fields" value = .ok items) :
    listOrNull items = value ∨ isGiven (listOrNull items) = false ∧ isGiven value = false := by
  cases value with
  | null =>
    cases read
    exact .inl rfl
  | arr listed =>
    rw [← Except.ok.inj read]
    cases listed with
    | nil => exact .inr ⟨rfl, rfl⟩
    | cons => exact .inl rfl
  | _ => cases read

theorem carries_text {leaf : Leaf} {kind : LeafKind} {query : String} {fields : List Json}
    (read : kind.listOrNullIn "fields" (a.field "fields") = .ok fields)
    (written : leaf.body = Leaf.queryStringBody query (a.field "default_field")
      (a.field "default_operator") fields (a.field "boost") (.obj [])) :
    leaf.Carries ((["query"], .str query) :: beside [] (typed .queryString a)) := by
  rw [Leaf.queryStringBody, withOptions_none, bind_ok] at written
  have distinct : ["query", "default_field", "default_operator", "fields", "boost"].Nodup := by
    decide
  have carries := Leaf.carries_merged written distinct
  -- A list without items is written as null, and is not asked for among what is given.
  have same : beside [] [("default_field", a.field "default_field"),
      ("default_operator", a.field "default_operator"), ("fields", listOrNull fields),
      ("boost", a.field "boost")] = beside [] (typed .queryString a) := by
    change _ = beside [] [("default_field", a.field "default_field"),
      ("default_operator", a.field "default_operator"), ("fields", a.field "fields"),
      ("boost", a.field "boost")]
    rcases listOrNull_of_read read with same | ⟨unwritten, ungiven⟩
    · rw [same]
    · simp only [beside_cons, unwritten, ungiven, Bool.false_eq_true, if_false]
  rw [same] at carries
  exact carries

theorem carries_multiMatch {query : Json} {items : List Json} {names : List String}
    (listed : a.field "fields" = .arr items) (named : namesIn .multiMatch items = .ok names) :
    (Leaf.multiMatch names query (a.field "type") (a.field "operator") (a.field "boost")
      (.obj [])).Carries ((["query"], query) :: beside [] (typed .multiMatch a)) := by
  have same := namesIn_eq_ok named
  have written : Leaf.body (.multiMatch names query (a.field "type") (a.field "operator")
      (a.field "boost") (.obj [])) =
      .ok (Object.merge
        (("query", query) :: if names.isEmpty then [] else [("fields", .strings names)])
        (Object.given [("type", a.field "type"), ("operator", a.field "operator"),
          ("boost", a.field "boost")])) := by
    rw [Leaf.body, withOptions_none, bind_ok]
  change Leaf.Carries _ (_ :: beside [] (("fields", a.field "fields") ::
    [("type", a.field "type"), ("operator", a.field "operator"), ("boost", a.field "boost")]))
  rw [beside_cons, listed, same]
  cases names with
  | nil =>
    have distinct : ["query", "type", "operator", "boost"].Nodup := by decide
    exact Leaf.carries_merged written distinct
  | cons name rest =>
    have distinct : ["query", "fields", "type", "operator", "boost"].Nodup := by decide
    exact Leaf.carries_merged written distinct

theorem perm_of_sameKeys {o : Object} {keys : List String} (distinct : keys.Nodup)
    (same : Bounds.sameKeys o keys = true) : o.Perm (keys.map fun key => (key, o.field key)) := by
  obtain ⟨length, each⟩ := Bool.and_eq_true_iff.mp same
  -- As many keys as there are distinct ones, and all of them among the object's: none is left over.
  have known : keys ⊆ o.keys := fun key listed => by
    have found := List.all_eq_true.mp each key listed
    rw [← Bool.not_eq_false, Object.has_eq_false, not_not] at found
    exact found
  have short : o.keys.length ≤ keys.length :=
    Nat.le_of_eq ((List.length_map _).trans (beq_iff_eq.mp length))
  have perm := (distinct.subperm known).perm_of_length_le short
  have entries : o.keys.map (fun key => (key, o.field key)) = o := by
    rw [Object.keys, List.map_map]
    refine (List.map_congr_left fun entry listed => ?_).trans (List.map_id o)
    have found := Object.get?_of_mem (perm.nodup_iff.mp distinct) listed
    simp only [Function.comp, Object.field, found, Json.ofOption, id]
  have pairs := perm.map fun key => (key, o.field key)
  rw [entries] at pairs
  exact pairs.symm

theorem corners_of_points {points : Json} {bounds : Bounds}
    (read : Bounds.ofPoints? points = some bounds) :
    ∃ named : Object, bounds.toJson = .obj named ∧ named.keys.Nodup ∧
      (corners points).Perm named := by
  have two : Bounds.cornerKeys.Nodup := by decide
  have four : Bounds.edgeKeys.Nodup := by decide
  unfold Bounds.ofPoints? at read
  split at read
  case h_1 => cases read; exact ⟨_, rfl, two, .rfl⟩
  case h_2 => cases read; exact ⟨_, rfl, four, .rfl⟩
  case h_3 =>
    split at read
    case isTrue same => cases read; exact ⟨_, rfl, two, perm_of_sameKeys two same⟩
    case isFalse =>
      split at read
      case isTrue same => cases read; exact ⟨_, rfl, four, perm_of_sameKeys four same⟩
      case isFalse => cases read
  case h_4 => cases read

theorem carries_geoBoundingBox {points : Json} {bounds : Bounds}
    (read : Bounds.ofPoints? points = some bounds) :
    (Leaf.geoBoundingBox field bounds (.obj [])).Carries
      ((corners points).map (under [field])) := by
  obtain ⟨named, json, distinct, perm⟩ := corners_of_points read
  have written : (Leaf.geoBoundingBox field bounds (.obj [])).body =
      .ok (Leaf.underField field named (Object.given [])) := by
    rw [Leaf.body, spreadOptions_none, json, Leaf.underField, Object.given, List.filter_nil,
      Object.merge_nil]
  have carries := Leaf.carries_underField written (by rwa [List.append_nil])
  rw [beside, List.filter_nil, List.map_nil, List.append_nil] at carries
  exact carries.perm (perm.map _)

/-- Beside a field by the name of the weight, the weight is all that is written. -/
theorem carries_terms_boost_iff (values : List Json) (boost : Json) :
    (Leaf.terms "boost" values boost (.obj [])).Carries
      ((["boost"], .arr values) :: beside [] [("boost", boost)]) ↔
      ¬ (boost ≠ .null ∧ ¬ (boost = .arr [] ∧ Json.arr values = .arr [])) := by
  have written : Leaf.body (.terms "boost" values boost (.obj [])) =
      .ok (Object.merge [("boost", .arr values)] (Object.given [("boost", boost)])) := by
    rw [Leaf.body, withOptions_none, bind_ok]
  rw [Leaf.carries_iff written, beside_cons]
  cases given : isGiven boost with
  | true =>
    have weighted : boost ≠ .null ∧ boost ≠ .arr [] := by
      rwa [← Bool.not_eq_false, isGiven_eq_false, not_or] at given
    refine iff_of_false (fun carries => absurd carries.1 ?_) fun free =>
      free ⟨weighted.1, fun empty => weighted.2 empty.1⟩
    simp [under]
  | false =>
    rcases isGiven_eq_false.mp given with rfl | rfl
    · simp [beside, Object.given, Json.isNull, Object.get?_cons]
    · simp [beside, Object.given, Json.isNull, Object.get?_merge, Object.get?_cons, eq_comm]

theorem carries_terms_iff (values : List Json) :
    (Leaf.terms field values (a.field "boost") (.obj [])).Carries
      (([field], .arr values) :: beside [] (typed .terms a)) ↔
      ¬ (field = "boost" ∧ a.field "boost" ≠ .null ∧
        ¬ (a.field "boost" = .arr [] ∧ Json.arr values = .arr [])) := by
  have written : Leaf.body (.terms field values (a.field "boost") (.obj [])) =
      .ok (Object.merge [(field, .arr values)] (typed .terms a).given) := by
    rw [Leaf.body, withOptions_none, bind_ok]
    rfl
  by_cases other : field = "boost"
  case neg =>
    have foreign : field ∉ parameterNames .terms := fun listed =>
      other (List.mem_singleton.mp listed)
    exact iff_of_true (Leaf.carries_merged written (nodup_beside _ .terms a foreign))
      fun collides => other collides.1
  case pos =>
    subst other
    exact (carries_terms_boost_iff values _).trans (not_congr (and_iff_right rfl).symm)

theorem carries_geoDistance_iff (distance : String) (location : Json) :
    (Leaf.geoDistance field distance location (.obj [])).Carries
      [(["distance"], .str distance), ([field], location)] ↔ field ≠ "distance" := by
  have written : Leaf.body (.geoDistance field distance location (.obj [])) =
      .ok (Object.set [("distance", .str distance)] field location) := by
    rw [Leaf.body, spreadOptions_none]
  constructor
  · rintro ⟨apart, _⟩ rfl
    exact absurd apart (by simp)
  · intro other
    have foreign : field ∉ Object.keys [("distance", .str distance)] := fun listed =>
      other (List.mem_singleton.mp listed)
    rw [Object.set_of_absent foreign] at written
    rw [Leaf.carries_iff written]
    simp [Object.get?_cons, other, other.symm]

end Kinds

theorem carries_of_build {kind : LeafKind} {a : Object} {leaf : Leaf}
    (built : Leaf.build kind a = .ok leaf) (plain : a.field "options" = .obj [])
    (others : kind ≠ .present ∧ kind ≠ .terms ∧ kind ≠ .geoDistance) :
    leaf.Carries (kind.places a) := by
  cases kind
  case present => exact absurd rfl others.1
  case terms => exact absurd rfl others.2.1
  case geoDistance => exact absurd rfl others.2.2
  case startsWith | wildcard | regexp | fuzzy | matching | common =>
    obtain ⟨field, named, built⟩ := bind_eq_ok.mp built
    obtain ⟨value, taken, built⟩ := bind_eq_ok.mp built
    cases built
    rw [places, subject, (nameIn_eq_ok.mp named).1, valueIn_eq_ok taken]
    refine Leaf.carries_underField ?_ (nodup_beside value _ a ?_)
    · simp only [Leaf.body, plain, withOptions_none, bind_ok]
      rfl
    · decide
  case ids =>
    obtain ⟨values, taken, built⟩ := bind_eq_ok.mp built
    cases built
    rw [places, subject, idsIn_eq_ok taken]
    refine Leaf.carries_merged ?_ (nodup_beside (.arr values) .ids a ?_)
    · simp only [Leaf.body, plain, spreadOptions_none]
      rfl
    · decide
  case matchAll =>
    cases built
    have written : (Leaf.matchAll (a.field "boost") (a.field "options")).body =
        .ok (Object.merge [] (typed .matchAll a).given) := by
      rw [Leaf.body, plain, withOptions_none, Object.nil_merge]
      rfl
    exact Leaf.carries_merged written (nodup_typed .matchAll a)
  case range =>
    obtain ⟨field, named, built⟩ := bind_eq_ok.mp built
    cases built
    rw [places, subject, (nameIn_eq_ok.mp named).1, plain]
    exact carries_range
  case term =>
    obtain ⟨field, named, built⟩ := bind_eq_ok.mp built
    obtain ⟨value, taken, built⟩ := bind_eq_ok.mp built
    cases built
    rw [places, subject, (nameIn_eq_ok.mp named).1, valueIn_eq_ok taken, plain]
    exact carries_term value
  case geoPolygon =>
    obtain ⟨field, named, built⟩ := bind_eq_ok.mp built
    obtain ⟨points, taken, built⟩ := bind_eq_ok.mp built
    cases built
    rw [places, subject, (nameIn_eq_ok.mp named).1, verticesIn_eq_ok taken]
    have written : Leaf.body (.geoPolygon field points (a.field "options")) =
        .ok (Leaf.underField field [("points", .arr points)] (typed .geoPolygon a).given) := by
      rw [Leaf.body, plain, spreadOptions_none]
      rfl
    exact Leaf.carries_underField written (nodup_beside _ .geoPolygon a (by decide))
  case geoShape =>
    obtain ⟨field, named, built⟩ := bind_eq_ok.mp built
    obtain ⟨shapeType, kindTold, built⟩ := bind_eq_ok.mp built
    obtain ⟨coordinates, taken, built⟩ := bind_eq_ok.mp built
    cases built
    rw [places, subject, (nameIn_eq_ok.mp named).1, textIn_eq_ok kindTold, listIn_eq_ok taken,
      plain]
    exact carries_geoShape shapeType coordinates
  case multiMatch =>
    obtain ⟨items, listed, built⟩ := bind_eq_ok.mp built
    obtain ⟨names, named, built⟩ := bind_eq_ok.mp built
    obtain ⟨query, taken, built⟩ := bind_eq_ok.mp built
    cases built
    rw [places, subject, valueIn_eq_ok taken, plain]
    exact carries_multiMatch (listIn_eq_ok listed) named
  case queryString | simpleQueryString =>
    obtain ⟨query, taken, built⟩ := bind_eq_ok.mp built
    obtain ⟨fields, read, built⟩ := bind_eq_ok.mp built
    cases built
    rw [places, subject, textIn_eq_ok taken, plain]
    exact carries_text read rfl
  case geoBoundingBox =>
    obtain ⟨field, named, built⟩ := bind_eq_ok.mp built
    obtain ⟨bounds, read, built⟩ := bind_eq_ok.mp built
    cases built
    rw [places, subject, (nameIn_eq_ok.mp named).1, plain]
    change Leaf.Carries _ ((corners (a.field "points")).map (under [field]) ++ [])
    -- A box has no parameters beside its corners.
    rw [List.append_nil]
    exact carries_geoBoundingBox (boundsIn_eq_ok read)

theorem carries_present {name : Json} {leaf : Leaf}
    (built : Leaf.build .present [("field", name)] = .ok leaf) :
    leaf.Carries (places .present [("field", name)]) := by
  obtain ⟨field, named, built⟩ := bind_eq_ok.mp built
  cases built
  rw [places, subject, (nameIn_eq_ok.mp named).1]
  have written : Leaf.body (.present field) =
      .ok (Object.merge [("field", .str field)] (typed .present [("field", name)]).given) := rfl
  exact Leaf.carries_merged written (nodup_beside _ .present _ (by decide))

theorem kind_of_build {kind : LeafKind} {a : Object} {leaf : Leaf}
    (built : Leaf.build kind a = .ok leaf) : leaf.kind = kind := by
  cases kind
  case matchAll =>
    cases built
    rfl
  all_goals
    obtain ⟨_, _, built⟩ := bind_eq_ok.mp built
    repeat obtain ⟨_, _, built⟩ := bind_eq_ok.mp built
    cases built
    rfl

theorem carries_presenceOf {names : List Json} {leaves : List Leaf}
    (asked : presenceOf names = .ok leaves) :
    (∀ leaf ∈ leaves, leaf.kind = .present) ∧
      List.Forall₂ Leaf.Carries leaves
        (names.map fun name => places .present [("field", name)]) := by
  obtain ⟨texts, rfl, filled, rfl⟩ := presenceOf_eq_ok.mp asked
  refine ⟨List.forall_mem_map.mpr fun _ _ => rfl, ?_⟩
  rw [List.map_map, List.forall₂_map_left_iff, List.forall₂_map_right_iff, List.forall₂_same]
  intro name listed
  exact carries_present (build_present_eq_ok.mpr ⟨name, rfl, filled name listed, rfl⟩)

theorem carries_iff_of_build {kind : LeafKind} {a : Object} {leaf : Leaf}
    (built : Leaf.build kind a = .ok leaf) (plain : a.field "options" = .obj [])
    (single : kind ≠ .present) : leaf.Carries (kind.places a) ↔ ¬ kind.Collides a := by
  cases kind
  case present => exact absurd rfl single
  case terms =>
    obtain ⟨field, named, built⟩ := bind_eq_ok.mp built
    obtain ⟨values, listed, built⟩ := bind_eq_ok.mp built
    cases built
    rw [places, subject, Collides, (nameIn_eq_ok.mp named).1, listIn_eq_ok listed, plain,
      Json.str.injEq]
    exact carries_terms_iff values
  case geoDistance =>
    obtain ⟨field, named, built⟩ := bind_eq_ok.mp built
    obtain ⟨distance, told, built⟩ := bind_eq_ok.mp built
    obtain ⟨location, taken, built⟩ := bind_eq_ok.mp built
    cases built
    rw [places, subject, Collides, (nameIn_eq_ok.mp named).1, textIn_eq_ok told,
      valueIn_eq_ok taken, plain, Json.str.injEq]
    exact carries_geoDistance_iff distance location
  all_goals exact iff_of_true (carries_of_build built plain ⟨nofun, nofun, nofun⟩) not_false

theorem idList_eq_ok {value : Json} {ids : List Json} (read : idList value = .ok ids) :
    ids = oneOrMany value := by
  cases value <;> first | exact (Except.ok.inj read).symm | cases read

theorem nameList_eq_ok {value : Json} {names : List Json} (read : nameList value = .ok names) :
    names = oneOrMany value := by
  cases value <;> first | exact (Except.ok.inj read).symm | cases read

/-- What an operation without options is given stands in the clauses that it adds, all of it and
each value at a place of its own, unless the name of the field is that of another argument beside
it. -/
theorem carries_iff_of_request {kind : LeafKind} {args a : Object} {leaves : List Leaf}
    (bound : kind.operationSignature.bind args = .ok a)
    (plain : kind.operationSignature.extra args = [])
    (requested : kind.request args = .ok leaves) :
    (∀ leaf ∈ leaves, leaf.kind = kind) ∧
      (List.Forall₂ Leaf.Carries leaves (kind.placesOfRequest a) ↔ ¬ kind.Collides a) := by
  obtain ⟨again, taken, made⟩ := bind_eq_ok.mp requested
  cases bound.symm.trans taken
  have options (open_ : kind ≠ .present) : a.field "options" = .obj [] := by
    rw [field_options open_ bound, plain]
  -- All kinds but presence add one leaf, built from the arguments or, where one identifier stands
  -- for the list of it, from fields that differ from them there.
  have single {fields : Object} {leaf : Leaf} (built : Leaf.build kind fields = .ok leaf)
      (same : kind.places fields = kind.places a) (free : fields.field "options" = .obj [])
      (colliding : kind.Collides fields ↔ kind.Collides a) (open_ : kind ≠ .present) :
      (∀ other ∈ [leaf], other.kind = kind) ∧
        (List.Forall₂ Leaf.Carries [leaf] [kind.places a] ↔ ¬ kind.Collides a) := by
    constructor
    · rw [List.forall_mem_singleton]
      exact kind_of_build built
    · rw [List.forall₂_cons, and_iff_left .nil, ← same, ← colliding]
      exact carries_iff_of_build built free open_
  cases kind
  case present =>
    obtain ⟨names, listed, made⟩ := bind_eq_ok.mp made
    split at made
    · cases made
    · rw [placesOfRequest, ← nameList_eq_ok listed]
      obtain ⟨kinds, carry⟩ := carries_presenceOf made
      exact ⟨kinds, iff_of_true carry not_false⟩
  case ids =>
    obtain ⟨values, listed, made⟩ := bind_eq_ok.mp made
    obtain ⟨leaf, built, same⟩ := bind_eq_ok.mp made
    cases same
    have kept : "options" ≠ "values" := by decide
    have free := (Object.field_set_of_ne a kept (.arr values)).trans (options nofun)
    have same : places .ids (a.set "values" (.arr values)) = places .ids a := by
      change [(["values"], Json.arr (oneOrMany (Object.field _ "values")))] = [(["values"], _)]
      rw [Object.field_set, ← idList_eq_ok listed]
      rfl
    exact single built same free .rfl nofun
  all_goals
    obtain ⟨leaf, built, same⟩ := bind_eq_ok.mp made
    cases same
    exact single built rfl (options nofun) .rfl nofun

theorem carries_weighted_terms :
    ∃ leaves, request .terms [("field", .str "status"), ("values", .arr [.str "a", .str "b"]),
        ("boost", .int 2)] = .ok leaves ∧
      List.Forall₂ Leaf.Carries leaves
        [[(["status"], .arr [.str "a", .str "b"]), (["boost"], .int 2)]] := by
  let args : Object := [("field", .str "status"), ("values", .arr [.str "a", .str "b"]),
    ("boost", .int 2)]
  have bound : (operationSignature .terms).bind args = .ok (args ++ [("options", .obj [])]) := rfl
  have requested : request .terms args =
      .ok [.terms "status" [.str "a", .str "b"] (.int 2) (.obj [])] := rfl
  have other : ¬ Collides .terms (args ++ [("options", .obj [])]) := by
    rintro ⟨same, _⟩
    exact absurd (Json.str.inj same) (by decide)
  exact ⟨_, requested, (carries_iff_of_request bound rfl requested).2.mpr other⟩

/-- Of terms in a field by the name of the weight, the weight alone is written. -/
theorem not_carries_terms_in_boost :
    ∃ leaf, request .terms [("field", .str "boost"), ("values", .arr [.str "a", .str "b"]),
        ("boost", .int 2)] = .ok [leaf] ∧
      leaf.toJson = .ok (.obj [("terms", .obj [("boost", .int 2)])]) ∧
      ¬ leaf.Carries [(["boost"], .arr [.str "a", .str "b"]), (["boost"], .int 2)] := by
  refine ⟨_, rfl, rfl, ?_⟩
  rintro ⟨apart, _⟩
  exact absurd apart (by decide)

end SearchRequest.LeafKind
