import SearchRequest.Clause.Basic
import SearchRequest.Clause.Signature
import SearchRequest.Proofs.Arguments
import SearchRequest.Proofs.Outcome
import SearchRequest.Search.Scoring

/-!
Clauses that can be written. Options that are an object can be merged over anything, so a leaf with
such options is written, and a clause that holds a query is written when its query is.
-/

namespace SearchRequest

@[simp] theorem withOptions_obj (typed extra : Object) :
    withOptions typed (.obj extra) = .ok (typed.given.merge extra) := rfl

namespace Leaf

def options : Leaf → Json
  | .term _ _ _ options | .terms _ _ _ options | .range _ _ _ _ _ _ _ _ options
  | .startsWith _ _ _ options | .wildcard _ _ _ options | .regexp _ _ _ _ options
  | .fuzzy _ _ _ _ options | .ids _ options | .matching _ _ _ _ _ _ _ options
  | .multiMatch _ _ _ _ _ options | .common _ _ _ _ options | .queryString _ _ _ _ _ options
  | .simpleQueryString _ _ _ _ _ options | .matchAll _ options | .geoBoundingBox _ _ options
  | .geoDistance _ _ _ options | .geoPolygon _ _ options | .geoShape _ _ _ _ options => options
  | .present _ => .obj []

theorem options_of_build {kind : LeafKind} {a : Object} {leaf : Leaf}
    (built : build kind a = .ok leaf) :
    leaf.options = a.field "options" ∨ leaf.options = .obj [] := by
  cases kind
  case present =>
    obtain ⟨field, _, same⟩ := bind_eq_ok.mp built
    cases same
    exact .inr rfl
  case matchAll =>
    cases built
    exact .inl rfl
  all_goals
    obtain ⟨_, _, built⟩ := bind_eq_ok.mp built
    repeat obtain ⟨_, _, built⟩ := bind_eq_ok.mp built
    cases built
    exact .inl rfl

theorem succeeds_toJson {leaf : Leaf} {extra : Object} (plain : leaf.options = .obj extra) :
    Succeeds leaf.toJson := by
  have written : Succeeds leaf.body := by
    cases leaf
    case present field => exact ⟨_, rfl⟩
    all_goals
      simp only [options] at plain
      subst plain
    case term field value boost =>
      simp only [body, withOptions_obj, bind_ok]
      split <;> exact succeeds_ok _
    all_goals exact ⟨_, rfl⟩
  obtain ⟨entries, written⟩ := written
  exact ⟨_, by rw [toJson, written]; rfl⟩

end Leaf

namespace LeafKind

theorem field_options {kind : LeafKind} (open_ : kind ≠ .present) {args a : Object}
    (bound : kind.operationSignature.bind args = .ok a) :
    a.field "options" = .obj (kind.operationSignature.extra args) := by
  have takes : kind.operationSignature.takesOptions = true := by
    cases kind <;> first | rfl | exact absurd rfl open_
  have apart : "options" ∉ kind.operationSignature.parameters.map (·.field) := by
    cases kind <;> decide
  exact Signature.options_of_bind takes apart bound

theorem nameIn_eq_ok {kind : LeafKind} {value : Json} {name : String} :
    kind.nameIn value = .ok name ↔ value = .str name ∧ Text.isBlank name = false := by
  cases value with
  | str text => exact unless_blank_eq_ok
  | _ => exact iff_of_false (by rintro ⟨⟩) (by rintro ⟨⟨⟩, _⟩)

theorem build_present_eq_ok {value : Json} {leaf : Leaf} :
    Leaf.build .present [("field", value)] = .ok leaf ↔
      ∃ name, value = .str name ∧ Text.isBlank name = false ∧ leaf = .present name := by
  have built : Leaf.build .present [("field", value)] = (do
      let name ← nameIn .present value
      .ok (.present name)) := rfl
  simp only [built, bind_eq_ok, nameIn_eq_ok, Except.ok.injEq, and_assoc, eq_comm (a := leaf)]

theorem presenceOf_eq_ok {items : List Json} {leaves : List Leaf} :
    presenceOf items = .ok leaves ↔
      ∃ names : List String, items = names.map .str ∧
        (∀ name ∈ names, Text.isBlank name = false) ∧ leaves = names.map .present := by
  induction items generalizing leaves with
  | nil =>
    constructor
    · rintro ⟨⟩
      exact ⟨[], rfl, List.forall_mem_nil _, rfl⟩
    · rintro ⟨names, none, _, rfl⟩
      rw [List.map_eq_nil_iff.mp none.symm]
      rfl
  | cons item rest ih =>
    constructor
    · intro asked
      obtain ⟨leaf, built, further⟩ := bind_eq_ok.mp asked
      obtain ⟨others, askedOthers, same⟩ := bind_eq_ok.mp further
      cases same
      obtain ⟨name, rfl, filled, rfl⟩ := build_present_eq_ok.mp built
      obtain ⟨names, rfl, othersFilled, rfl⟩ := ih.mp askedOthers
      exact ⟨name :: names, rfl, List.forall_mem_cons.mpr ⟨filled, othersFilled⟩, rfl⟩
    · rintro ⟨names, same, filled, rfl⟩
      obtain ⟨name, more, rfl, rfl, rfl⟩ := List.map_eq_cons_iff.mp same.symm
      obtain ⟨first, others⟩ := List.forall_mem_cons.mp filled
      have built := build_present_eq_ok.mpr ⟨name, rfl, first, rfl⟩
      rw [presenceOf, built, ih.mpr ⟨more, rfl, others, rfl⟩]
      rfl

theorem mem_presenceOf {names : List Json} {leaves : List Leaf}
    (asked : presenceOf names = .ok leaves) {leaf : Leaf} (listed : leaf ∈ leaves) :
    leaf.options = .obj [] := by
  obtain ⟨texts, _, _, rfl⟩ := presenceOf_eq_ok.mp asked
  obtain ⟨name, _, rfl⟩ := List.mem_map.mp listed
  rfl

/-- Whatever arguments an operation accepts, the clauses that it adds can be written. -/
theorem succeeds_of_request {kind : LeafKind} {args : Object} {leaves : List Leaf}
    (requested : kind.request args = .ok leaves) {leaf : Leaf} (listed : leaf ∈ leaves) :
    Succeeds leaf.toJson := by
  obtain ⟨a, bound, made⟩ := bind_eq_ok.mp requested
  have single {fields : Object} (same : fields.field "options" = a.field "options")
      (open_ : kind ≠ .present) (built : Leaf.build kind fields = .ok leaf) :
      Succeeds leaf.toJson := by
    have plain := field_options open_ bound
    rcases Leaf.options_of_build built with given | none
    · exact Leaf.succeeds_toJson ((given.trans same).trans plain)
    · exact Leaf.succeeds_toJson none
  cases kind
  case present =>
    obtain ⟨names, _, made⟩ := bind_eq_ok.mp made
    split at made
    · cases made
    · exact Leaf.succeeds_toJson (mem_presenceOf made listed)
  case ids =>
    obtain ⟨values, _, made⟩ := bind_eq_ok.mp made
    obtain ⟨only, built, same⟩ := bind_eq_ok.mp made
    cases same
    cases List.mem_singleton.mp listed
    have kept : "options" ≠ "values" := by decide
    exact single (Object.field_set_of_ne a kept _) nofun built
  all_goals
    obtain ⟨only, built, same⟩ := bind_eq_ok.mp made
    cases same
    cases List.mem_singleton.mp listed
    exact single rfl nofun built

end LeafKind

theorem succeeds_clausesToJson {clauses : List Clause}
    (each : ∀ clause ∈ clauses, Succeeds clause.toJson) : Succeeds (clausesToJson clauses) := by
  induction clauses with
  | nil => exact succeeds_ok _
  | cons clause rest ih =>
    obtain ⟨⟨json, first⟩, others⟩ := List.forall_mem_cons.mp each
    obtain ⟨jsons, rest⟩ := ih others
    exact ⟨json :: jsons, by rw [clausesToJson, first, bind_ok, rest, bind_ok]⟩

theorem succeeds_functionsToJson {functions : List ScoreFunction}
    (each : ∀ function ∈ functions, Succeeds function.toJson) :
    Succeeds (functionsToJson functions) := by
  induction functions with
  | nil => exact succeeds_ok _
  | cons function rest ih =>
    obtain ⟨⟨json, first⟩, others⟩ := List.forall_mem_cons.mp each
    obtain ⟨jsons, rest⟩ := ih others
    exact ⟨json :: jsons, by rw [functionsToJson, first, bind_ok, rest, bind_ok]⟩

structure BoolQuery.Writable (q : BoolQuery) : Prop where
  plain : q.options = .obj []
  clauses (role : Role) : ∀ clause ∈ q.clauses role, Succeeds clause.toJson

namespace BoolQuery

theorem writable_empty : empty.Writable := by
  refine ⟨rfl, fun role clause listed => ?_⟩
  cases role <;> cases listed

theorem Writable.succeeds_toJson {q : BoolQuery} (writable : q.Writable) : Succeeds q.toJson := by
  obtain ⟨musts, must⟩ := succeeds_clausesToJson (writable.clauses .must)
  obtain ⟨shoulds, should⟩ := succeeds_clausesToJson (writable.clauses .should)
  obtain ⟨mustNots, mustNot⟩ := succeeds_clausesToJson (writable.clauses .mustNot)
  obtain ⟨filters, filter⟩ := succeeds_clausesToJson (writable.clauses .filter)
  have plain := writable.plain
  obtain ⟨_, _, _, _, minimumShouldMatch, boost, options⟩ := q
  simp only [BoolQuery.clauses] at must should mustNot filter plain
  subst plain
  rw [toJson]
  simp only [parameters, withOptions_obj, bind_ok, must]
  split
  · exact succeeds_ok _
  · split
    · exact succeeds_ok _
    · simp only [should, mustNot, filter, bind_ok]
      exact succeeds_ok _

end BoolQuery

namespace Clause

theorem succeeds_nested {path : String} {query : BoolQuery} {score : NestedScore}
    (writable : query.Writable) : Succeeds (nested path query score (.obj [])).toJson := by
  obtain ⟨inner, written⟩ := writable.succeeds_toJson
  exact ⟨_, by rw [toJson, written]; rfl⟩

theorem succeeds_functionScore {query : BoolQuery} {functions : List ScoreFunction}
    {parameters : Object} (writable : query.Writable)
    (each : ∀ function ∈ functions, Succeeds function.toJson) :
    Succeeds (functionScore query functions (.obj parameters)).toJson := by
  obtain ⟨inner, written⟩ := writable.succeeds_toJson
  obtain ⟨scored, rated⟩ := succeeds_functionsToJson each
  exact ⟨_, by rw [toJson, written, bind_ok, rated]; rfl⟩

theorem succeeds_of_nested? {path score : Json} {query : BoolQuery} {clause : Clause}
    (writable : query.Writable) (made : nested? path query score (.obj []) = .ok clause) :
    Succeeds clause.toJson := by
  unfold nested? at made
  split at made
  · split at made
    · cases made
    · obtain ⟨known, _, made⟩ := bind_eq_ok.mp made
      split at made
      · cases made
        exact succeeds_nested writable
      · cases made
  · cases made

end Clause

theorem ScoreFunction.weighted_obj (spec : Object) (weight : Json) :
    ∃ entries, weighted (.obj spec) weight = .ok (.obj entries) := by
  unfold weighted
  split
  · exact ⟨_, rfl⟩
  · exact ⟨_, rfl⟩

namespace ScoreDraft

theorem succeeds_filteredBy (d : ScoreDraft) {filter : Option BoolQuery}
    (writable : ∀ query ∈ filter, query.Writable) : Succeeds (d.filteredBy filter).toJson := by
  obtain ⟨entries, weighted⟩ := ScoreFunction.weighted_obj d.spec d.weight
  simp only [filteredBy, ScoreFunction.toJson, weighted, bind_ok]
  cases filter with
  | none => exact succeeds_ok _
  | some query =>
    obtain ⟨inner, written⟩ := (writable query rfl).succeeds_toJson
    exact ⟨_, by rw [filterToJson, written]; rfl⟩

end ScoreDraft

end SearchRequest
