import Mathlib.Data.List.Nodup
import Mathlib.Data.List.Perm.Subperm
import SearchRequest.Call
import SearchRequest.Proofs.Clause.Writable

/-!
Places of arguments. What an operation is given stands in the clause that it adds, at the end of a
path of keys that is its own: under the name of the field, or beside it. Two kinds have the name of
the field beside names that are fixed, so there a field of such a name takes the place of another
argument, or loses its own to it.
-/

namespace SearchRequest

def Json.at? (value : Json) : List String → Option Json
  | [] => some value
  | key :: rest => match value with
      | .obj entries => (Object.get? entries key).bind (at? · rest)
      | _ => none

@[simp] theorem Json.at?_nil (value : Json) : value.at? [] = some value := rfl

@[simp] theorem Json.at?_obj (entries : Object) (key : String) (rest : List String) :
    (Json.obj entries).at? (key :: rest) = (Object.get? entries key).bind (at? · rest) := rfl

theorem Json.at?_only (key : String) (value : Json) (rest : List String) :
    (Object.only key value).at? (key :: rest) = value.at? rest := by
  rw [Object.only, at?_obj, Object.get?_cons, if_pos rfl, Option.bind_some]

abbrev Placed := List String × Json

/-- The clause has every value at the end of its path, and no two of them at one. -/
def Leaf.Carries (leaf : Leaf) (places : List Placed) : Prop :=
  (places.map (·.1)).Nodup ∧ ∃ json, leaf.toJson = .ok json ∧
    ∀ place ∈ places, json.at? (leaf.kind.name :: place.1) = some place.2

namespace LeafKind

/-- Neither null nor a list without items. -/
def isGiven (value : Json) : Bool := !value.isNull && value != .arr []

theorem isGiven_eq_false {value : Json} :
    isGiven value = false ↔ value = .null ∨ value = .arr [] := by
  cases value <;> simp [isGiven, Json.isNull]

def oneOrMany : Json → List Json
  | .arr items => items
  | value => [value]

def corners : Json → Object
  | .arr [a, b] => [("top_left", a), ("bottom_right", b)]
  | .arr [top, left, bottom, right] =>
      [("top", top), ("left", left), ("bottom", bottom), ("right", right)]
  | .obj named => named
  | _ => []

def subjects : List String :=
  ["field", "value", "values", "query", "points", "distance", "location", "shape_type",
   "coordinates"]

def parameterNames (kind : LeafKind) : List String :=
  (kind.fields.map (·.field)).filter fun name => !subjects.contains name

def typed (kind : LeafKind) (a : Object) : Object :=
  kind.parameterNames.map fun name => (name, a.field name)

def home (kind : LeafKind) (field : String) : List String :=
  match kind with
  | .term | .range | .startsWith | .wildcard | .regexp | .fuzzy | .matching | .common
  | .geoShape => [field]
  | _ => []

/-- The places of what a clause is about. A range is about its bounds, which are parameters. -/
def subject (kind : LeafKind) (field : String) (a : Object) : List Placed :=
  match kind with
  | .term => [(if (a.field "boost").isNull then [field] else [field, "value"], a.field "value")]
  | .terms => [([field], a.field "values")]
  | .range => [([field], .obj (kind.typed a).given)]
  | .startsWith | .wildcard | .regexp | .fuzzy => [([field, "value"], a.field "value")]
  | .present => [(["field"], a.field "field")]
  | .ids => [(["values"], .arr (oneOrMany (a.field "values")))]
  | .matching | .common => [([field, "query"], a.field "query")]
  | .multiMatch | .queryString | .simpleQueryString => [(["query"], a.field "query")]
  | .matchAll => []
  | .geoBoundingBox => (corners (a.field "points")).map fun entry => ([field, entry.1], entry.2)
  | .geoDistance => [(["distance"], a.field "distance"), ([field], a.field "location")]
  | .geoPolygon => [([field, "points"], a.field "points")]
  | .geoShape => [([field, "shape", "type"], a.field "shape_type"),
      ([field, "shape", "coordinates"], a.field "coordinates")]

def under (home : List String) (entry : String × Json) : Placed := (home ++ [entry.1], entry.2)

def beside (home : List String) (typed : Object) : List Placed :=
  (typed.filter fun entry => isGiven entry.2).map (under home)

theorem beside_cons (home : List String) (entry : String × Json) (rest : Object) :
    beside home (entry :: rest) =
      if isGiven entry.2 then under home entry :: beside home rest else beside home rest := by
  cases given : isGiven entry.2 <;> simp [beside, given]

/-- The places of all that a clause is given. -/
def places (kind : LeafKind) (a : Object) : List Placed :=
  let field := Call.textOf (a.field "field")
  kind.subject field a ++ beside (kind.home field) (kind.typed a)

def placesOfRequest (kind : LeafKind) (a : Object) : List (List Placed) :=
  match kind with
  | .present => (oneOrMany (a.field "fields")).map fun name => kind.places [("field", name)]
  | kind => [kind.places a]

/-- The name of the field is that of another argument, which has its place where the field has. Two
lists without items do not differ there. -/
def Collides (kind : LeafKind) (a : Object) : Prop :=
  match kind with
  | .terms => a.field "field" = .str "boost" ∧ a.field "boost" ≠ .null ∧
      ¬ (a.field "boost" = .arr [] ∧ a.field "values" = .arr [])
  | .geoDistance => a.field "field" = .str "distance"
  | _ => False

end LeafKind

namespace Leaf

theorem carries_iff {leaf : Leaf} {body : Object} (written : leaf.body = .ok body)
    {places : List Placed} :
    leaf.Carries places ↔ (places.map (·.1)).Nodup ∧
      ∀ place ∈ places, (Json.obj body).at? place.1 = some place.2 := by
  have json : leaf.toJson = .ok (Object.only leaf.kind.name (.obj body)) := by
    rw [toJson, written]
    rfl
  simp only [Carries, json, Except.ok.injEq, exists_eq_left', Json.at?_only]

theorem Carries.sublist {leaf : Leaf} {fewer places : List Placed} (carries : leaf.Carries places)
    (sub : fewer.Sublist places) : leaf.Carries fewer := by
  obtain ⟨apart, json, written, found⟩ := carries
  exact ⟨apart.sublist (sub.map _), json, written,
    fun place listed => found place (sub.subset listed)⟩

theorem Carries.perm {leaf : Leaf} {others places : List Placed} (carries : leaf.Carries places)
    (perm : others.Perm places) : leaf.Carries others := by
  obtain ⟨apart, json, written, found⟩ := carries
  exact ⟨(perm.map _).nodup_iff.mpr apart, json, written,
    fun place listed => found place (perm.subset listed)⟩

theorem Carries.cons {leaf : Leaf} {places : List Placed} (carries : leaf.Carries places)
    {body : Object} (written : leaf.body = .ok body) {place : Placed}
    (apart : place.1 ∉ places.map (·.1)) (found : (Json.obj body).at? place.1 = some place.2) :
    leaf.Carries (place :: places) := by
  rw [carries_iff written] at carries ⊢
  exact ⟨List.nodup_cons.mpr ⟨apart, carries.1⟩, List.forall_mem_cons.mpr ⟨found, carries.2⟩⟩

theorem get?_written {core typed : Object} (distinct : (core ++ typed).keys.Nodup)
    {entry : String × Json} (listed : entry ∈ core ++ typed.given) :
    (core.merge typed.given).get? entry.1 = some entry.2 := by
  have kept : (core ++ typed.given).keys.Nodup := by
    rw [Object.keys_append] at distinct ⊢
    exact distinct.sublist ((Object.keys_given_sublist typed).append_left _)
  have apart : ∀ key ∈ core.keys, key ∉ typed.given.keys := by
    rw [Object.keys_append] at kept
    exact fun key first second => (List.nodup_append.mp kept).2.2 key first key second rfl
  rw [Object.merge_of_apart apart]
  exact Object.get?_of_mem kept listed

theorem carries_under {leaf : Leaf} {body core typed : Object} {home : List String}
    (written : leaf.body = .ok body)
    (reached : ∀ key, (Json.obj body).at? (home ++ [key]) = (core.merge typed.given).get? key)
    (distinct : (core ++ typed).keys.Nodup) :
    leaf.Carries (core.map (LeafKind.under home) ++ LeafKind.beside home typed) := by
  rw [carries_iff written, LeafKind.beside, ← List.map_append]
  constructor
  · have kept : (core ++ typed.filter fun entry => LeafKind.isGiven entry.2).keys.Nodup :=
      distinct.sublist ((List.filter_sublist.append_left core).map _)
    have tells : Function.Injective fun key => home ++ [key] := fun a b same =>
      List.singleton_inj.mp (List.append_cancel_left same)
    have paths := kept.map tells
    rw [List.map_map]
    rwa [Object.keys, List.map_map] at paths
  · intro place placed
    obtain ⟨entry, listed, rfl⟩ := List.mem_map.mp placed
    rw [LeafKind.under, reached]
    refine get?_written distinct (List.mem_append.mpr ((List.mem_append.mp listed).imp_right ?_))
    intro given
    obtain ⟨known, given⟩ := List.mem_filter.mp given
    exact List.mem_filter.mpr ⟨known, (Bool.and_eq_true_iff.mp given).1⟩

theorem length_of_beside {home : List String} {typed : Object} {path : List String}
    (listed : path ∈ (LeafKind.beside home typed).map (·.1)) : path.length = home.length + 1 := by
  obtain ⟨place, placed, rfl⟩ := List.mem_map.mp listed
  obtain ⟨entry, _, rfl⟩ := List.mem_map.mp placed
  exact List.length_append

theorem carries_underField {leaf : Leaf} {field : String} {core typed : Object}
    (written : leaf.body = .ok (underField field core typed.given))
    (distinct : (core ++ typed).keys.Nodup) :
    leaf.Carries (core.map (LeafKind.under [field]) ++ LeafKind.beside [field] typed) := by
  refine carries_under written (fun key => ?_) distinct
  exact (Json.at?_only field _ [key]).trans (Option.bind_fun_some _)

theorem carries_merged {leaf : Leaf} {core typed : Object}
    (written : leaf.body = .ok (core.merge typed.given)) (distinct : (core ++ typed).keys.Nodup) :
    leaf.Carries (core.map (LeafKind.under []) ++ LeafKind.beside [] typed) :=
  carries_under written (fun _ => Option.bind_fun_some _) distinct

end Leaf

namespace LeafKind

section Accepted

variable {kind : LeafKind} {value : Json}

theorem textIn_eq_ok {label text : String} (accepted : kind.textIn label value = .ok text) :
    value = .str text := by
  cases value with
  | str text =>
    rw [textIn, unless_eq_ok] at accepted
    rw [accepted.1]
  | _ => cases accepted

theorem valueIn_eq_ok {label : String} {taken : Json}
    (accepted : kind.valueIn label value = .ok taken) : value = taken := by
  cases value <;> first | exact Except.ok.inj accepted | cases accepted

theorem listIn_eq_ok {label : String} {items : List Json}
    (accepted : kind.listIn label value = .ok items) : value = .arr items := by
  cases value with
  | arr listed => rw [Except.ok.inj accepted]
  | _ => cases accepted

theorem namesIn_eq_ok {items : List Json} {names : List String}
    (accepted : kind.namesIn items = .ok names) : items = names.map .str := by
  induction items generalizing names with
  | nil =>
    cases accepted
    rfl
  | cons item rest ih =>
    obtain ⟨name, first, accepted⟩ := bind_eq_ok.mp accepted
    obtain ⟨others, further, same⟩ := bind_eq_ok.mp accepted
    cases same
    rw [(nameIn_eq_ok.mp first).1, ih further, List.map_cons]

theorem idsIn_eq_ok {items : List Json} (accepted : kind.idsIn value = .ok items) :
    value = .arr items := by
  obtain ⟨listed, found, accepted⟩ := bind_eq_ok.mp accepted
  rw [listIn_eq_ok found]
  split at accepted
  · cases accepted
  · split at accepted
    · cases accepted
    · rw [Except.ok.inj accepted]

theorem verticesIn_eq_ok {items : List Json} (accepted : kind.verticesIn value = .ok items) :
    value = .arr items := by
  obtain ⟨listed, found, accepted⟩ := bind_eq_ok.mp accepted
  rw [listIn_eq_ok found]
  split at accepted
  · cases accepted
  · rw [Except.ok.inj accepted]

theorem boundsIn_eq_ok {bounds : Bounds} (accepted : kind.boundsIn value = .ok bounds) :
    Bounds.ofPoints? value = some bounds := by
  rw [boundsIn] at accepted
  split at accepted
  case h_1 found => rw [found, Except.ok.inj accepted]
  case h_2 => cases accepted

end Accepted

theorem keys_typed (kind : LeafKind) (a : Object) : (kind.typed a).keys = kind.parameterNames := by
  rw [Object.keys, typed, List.map_map]
  exact List.map_id _

theorem nodup_typed (kind : LeafKind) (a : Object) : (kind.typed a).keys.Nodup := by
  rw [keys_typed]
  cases kind <;> decide

theorem nodup_beside {name : String} (value : Json) (kind : LeafKind) (a : Object)
    (foreign : name ∉ kind.parameterNames) :
    Object.keys ([(name, value)] ++ kind.typed a) |>.Nodup := by
  rw [← keys_typed kind a] at foreign
  exact List.nodup_cons.mpr ⟨foreign, nodup_typed kind a⟩

theorem withOptions_none (typed : Object) : withOptions typed (.obj []) = .ok typed.given := by
  rw [withOptions_obj, Object.merge_nil]

theorem spreadOptions_none (base : Object) : spreadOptions base (.obj []) = .ok base :=
  congrArg Except.ok (Object.merge_nil base)

end LeafKind

end SearchRequest
