import Mathlib.Data.List.Forall2
import SearchRequest.Proofs.Clause.Writable
import SearchRequest.Proofs.Clause.Written

/-!
Leaves read back from written clauses. A boolean query is written in one of three shapes, and the
reader comes through each of them to the same leaves in the same order; no boolean query that is
written out could have been written shorter.
-/

namespace SearchRequest

/-- What a reader of a written clause meets: leaves as they are written, and what stands under each
boolean query that is written out. -/
inductive Part
  | leaf (json : Json)
  | bool (body : Object)

namespace Part

def leaf? : Part → Option Json
  | .leaf json => some json
  | .bool _ => none

def bool? : Part → Option Object
  | .leaf _ => none
  | .bool body => some body

end Part

namespace Json

mutual

def parts : Json → List Part
  | .obj [(kind, body)] => partsUnder kind body
  | other => [.leaf other]

def partsUnder (kind : String) : Json → List Part
  | .obj entries =>
      if kind = "bool" then
        .bool entries :: Role.all.flatMap fun role => partsListed role.name entries
      else if kind = "nested" then partsAt "query" entries
      else if kind = "function_score" then partsAt "query" entries ++ partsScored entries
      else [.leaf (Object.only kind (.obj entries))]
  | body => [.leaf (Object.only kind body)]

def partsAt (key : String) : List (String × Json) → List Part
  | [] => []
  | (name, value) :: rest => if key = name then parts value else partsAt key rest

def partsListed (key : String) : List (String × Json) → List Part
  | [] => []
  | (name, value) :: rest => if key = name then partsOfItems value else partsListed key rest

def partsOfItems : Json → List Part
  | .arr items => partsOfList items
  | _ => []

def partsOfList : List Json → List Part
  | [] => []
  | item :: rest => parts item ++ partsOfList rest

def partsScored : List (String × Json) → List Part
  | [] => []
  | (name, value) :: rest => if "functions" = name then partsOfFilters value else partsScored rest

def partsOfFilters : Json → List Part
  | .arr functions => partsOfFunctions functions
  | _ => []

def partsOfFunctions : List Json → List Part
  | [] => []
  | function :: rest => partsOfFunction function ++ partsOfFunctions rest

def partsOfFunction : Json → List Part
  | .obj entries => partsAt "filter" entries
  | _ => []

end

def leaves (json : Json) : List Json := json.parts.filterMap Part.leaf?

def bools (json : Json) : List Object := json.parts.filterMap Part.bool?

theorem partsAt_eq (key : String) (entries : Object) :
    partsAt key entries = ((entries.get? key).map parts).getD [] := by
  induction entries with
  | nil => rfl
  | cons entry rest ih =>
    rw [partsAt, Object.get?_cons, ih]
    split <;> rfl

theorem partsListed_eq (key : String) (entries : Object) :
    partsListed key entries = ((entries.get? key).map partsOfItems).getD [] := by
  induction entries with
  | nil => rfl
  | cons entry rest ih =>
    rw [partsListed, Object.get?_cons, ih]
    split <;> rfl

theorem partsScored_eq (entries : Object) :
    partsScored entries = ((entries.get? "functions").map partsOfFilters).getD [] := by
  induction entries with
  | nil => rfl
  | cons entry rest ih =>
    rw [partsScored, Object.get?_cons, ih]
    split <;> rfl

theorem parts_bool (entries : Object) :
    (Object.only "bool" (.obj entries)).parts =
      .bool entries :: Role.all.flatMap fun role => partsListed role.name entries := by
  rw [Object.only, parts, partsUnder, if_pos rfl]

theorem parts_nested (entries : Object) :
    (Object.only "nested" (.obj entries)).parts = partsAt "query" entries := by
  rw [Object.only, parts, partsUnder, if_neg (by decide), if_pos rfl]

theorem parts_functionScore (entries : Object) :
    (Object.only "function_score" (.obj entries)).parts =
      partsAt "query" entries ++ partsScored entries := by
  rw [Object.only, parts, partsUnder, if_neg (by decide), if_neg (by decide), if_pos rfl]

end Json

mutual

/-- The leaves of a clause in the order in which they are written. A boolean query without clauses
counts as one leaf that matches everything. -/
def Clause.leaves : Clause → List Leaf
  | .leaf single => [single]
  | .bool query => query.leaves
  | .nested _ query _ _ => query.leaves
  | .functionScore query functions _ => query.leaves ++ leavesOfFunctions functions

def BoolQuery.leaves : BoolQuery → List Leaf
  | ⟨must, should, mustNot, filter, minimumShouldMatch, boost, options⟩ =>
      let query : BoolQuery :=
        ⟨must, should, mustNot, filter, minimumShouldMatch, boost, options⟩
      if query.isEmpty then [.matchAll .null (.obj [])]
      else leavesOfList must ++ leavesOfList should ++ leavesOfList mustNot ++ leavesOfList filter

def leavesOfList : List Clause → List Leaf
  | [] => []
  | clause :: rest => clause.leaves ++ leavesOfList rest

def leavesOfFunctions : List ScoreFunction → List Leaf
  | [] => []
  | function :: rest => function.leaves ++ leavesOfFunctions rest

def ScoreFunction.leaves : ScoreFunction → List Leaf
  | ⟨_, _, filter⟩ => leavesOfFilter filter

def leavesOfFilter : Option BoolQuery → List Leaf
  | none => []
  | some query => query.leaves

end

def structuralKeys : List String :=
  ["must", "should", "must_not", "filter", "query", "path", "functions"]

/-- Nothing in the value would take the place of a part of a clause. -/
def Json.Spares (value : Json) : Prop :=
  ∀ entries, value.asEntries = .ok entries → ∀ key ∈ structuralKeys, key ∉ entries.keys

/-- A tree of clauses whose options and function specs keep off the structural keys. -/
inductive Clause.Spares : Clause → Prop
  | leaf (single : Leaf) : Spares (.leaf single)
  | bool {query : BoolQuery} (options : query.options.Spares)
      (clauses : ∀ role, ∀ clause ∈ query.clauses role, Spares clause) : Spares (.bool query)
  | nested {path : String} {query : BoolQuery} {score : NestedScore} {options : Json}
      (spared : options.Spares) (inner : Spares (.bool query)) :
      Spares (.nested path query score options)
  | functionScore {query : BoolQuery} {functions : List ScoreFunction} {options : Json}
      (spared : options.Spares) (inner : Spares (.bool query))
      (specs : ∀ function ∈ functions, function.spec.Spares)
      (filters : ∀ function ∈ functions, ∀ filter ∈ function.filter, Spares (.bool filter)) :
      Spares (.functionScore query functions options)

/-- What stands under a boolean query that could not have been written shorter. -/
structure Object.Terse (body : Object) : Prop where
  filled : body ≠ []
  noEmptyList : ∀ role : Role, (role.name, Json.arr []) ∉ body
  notAlone : ∀ clause, body ≠ [("must", .arr [clause])]

/-- The parts are the leaves, each as it is written, and queries that are not too long. -/
inductive Reads : List Leaf → List Part → Prop
  | nil : Reads [] []
  | leaf {single : Leaf} {json : Json} {leaves : List Leaf} {parts : List Part}
      (written : single.toJson = .ok json) (rest : Reads leaves parts) :
      Reads (single :: leaves) (.leaf json :: parts)
  | bool {body : Object} {leaves : List Leaf} {parts : List Part} (terse : body.Terse)
      (rest : Reads leaves parts) : Reads leaves (.bool body :: parts)

namespace Reads

variable {leaves more : List Leaf} {parts others : List Part}

theorem append (first : Reads leaves parts) (second : Reads more others) :
    Reads (leaves ++ more) (parts ++ others) := by
  induction first with
  | nil => exact second
  | leaf written _ ih => exact .leaf written ih
  | bool terse _ ih => exact .bool terse ih

theorem leaves_written (reads : Reads leaves parts) :
    List.Forall₂ (fun leaf json => leaf.toJson = .ok json) leaves (parts.filterMap Part.leaf?) := by
  induction reads with
  | nil => exact .nil
  | leaf written _ ih => exact .cons written ih
  | bool _ _ ih => exact ih

theorem bools_terse (reads : Reads leaves parts) :
    ∀ body ∈ parts.filterMap Part.bool?, body.Terse := by
  induction reads with
  | nil => exact List.forall_mem_nil _
  | leaf _ _ ih => exact ih
  | bool terse _ ih => exact List.forall_mem_cons.mpr ⟨terse, ih⟩

end Reads

theorem parts_leaf {leaf : Leaf} {json : Json} (written : leaf.toJson = .ok json) :
    json.parts = [.leaf json] := by
  obtain ⟨body, _, same⟩ := bind_eq_ok.mp written
  cases same
  have other : ∀ kind : LeafKind, kind.name ≠ "bool" ∧ kind.name ≠ "nested" ∧
      kind.name ≠ "function_score" := by
    intro kind
    cases kind <;> decide
  obtain ⟨bool, nested, scored⟩ := other leaf.kind
  rw [Object.only, Json.parts, Json.partsUnder, if_neg bool, if_neg nested, if_neg scored]
  rfl

theorem reads_leaf {leaf : Leaf} {json : Json} (written : leaf.toJson = .ok json) :
    Reads [leaf] json.parts := by
  rw [parts_leaf written]
  exact .leaf written .nil

theorem reads_list {clauses : List Clause} {jsons : List Json}
    (each : ∀ clause ∈ clauses, ∀ json, clause.toJson = .ok json → Reads clause.leaves json.parts)
    (written : clausesToJson clauses = .ok jsons) :
    Reads (leavesOfList clauses) (Json.partsOfList jsons) := by
  induction clauses generalizing jsons with
  | nil =>
    cases written
    exact .nil
  | cons clause rest ih =>
    obtain ⟨json, first, onward⟩ := bind_eq_ok.mp written
    obtain ⟨others, further, same⟩ := bind_eq_ok.mp onward
    cases same
    obtain ⟨here, later⟩ := List.forall_mem_cons.mp each
    exact (here json first).append (ih later further)

theorem not_mem_keys_parameters {q : BoolQuery} {params : Object} (spares : q.options.Spares)
    (given : q.parameters = .ok params) (role : Role) : role.name ∉ params.keys := by
  obtain ⟨extra, read, same⟩ := bind_eq_ok.mp given
  cases same
  have structural : role.name ∈ structuralKeys := by cases role <;> decide
  rw [← Object.get?_eq_none, Object.get?_merge, BoolQuery.get?_parameters_of_role,
    Object.get?_eq_none.mpr (spares extra read _ structural), Option.or_none]

theorem eq_singleton_of_clausesToJson {clauses : List Clause} {json : Json}
    (written : clausesToJson clauses = .ok [json]) :
    ∃ clause, clauses = [clause] ∧ clause.toJson = .ok json := by
  cases clauses with
  | nil => cases written
  | cons clause rest =>
    obtain ⟨first, here, onward⟩ := bind_eq_ok.mp written
    obtain ⟨others, further, same⟩ := bind_eq_ok.mp onward
    cases same
    rw [eq_nil_of_clausesToJson further]
    exact ⟨clause, rfl, here⟩

namespace BoolQuery

/-- The three shapes of a boolean query: one that matches everything, its only clause, and all of
its lists with its parameters. The last is taken only where the others cannot be. -/
inductive Shape (q : BoolQuery) : Json → Prop
  | everything (empty : q.isEmpty = true) : Shape q everything
  | alone {clause : Clause} {json : Json} (must : q.must = [clause]) (should : q.should = [])
      (mustNot : q.mustNot = []) (filter : q.filter = []) (none : q.parameters = .ok [])
      (written : clause.toJson = .ok json) : Shape q json
  | full {jsons : Role → List Json} {params : Object} (filled : q.isEmpty = false)
      (given : q.parameters = .ok params)
      (written : ∀ role, clausesToJson (q.clauses role) = .ok (jsons role))
      (longer : ∀ json, ¬ (jsons .must = [json] ∧ jsons .should = [] ∧ jsons .mustNot = [] ∧
        jsons .filter = [] ∧ params = [])) :
      Shape q (Object.only "bool" (.obj (Object.merge (Role.all.filterMap (group jsons)) params)))

def listOf (required optional forbidden filtering : List Json) : Role → List Json
  | .must => required
  | .should => optional
  | .mustNot => forbidden
  | .filter => filtering

theorem shape_of_toJson {q : BoolQuery} {json : Json} (written : q.toJson = .ok json) :
    q.Shape json := by
  obtain ⟨musts, shoulds, mustNots, filters, minimumShouldMatch, boost, options⟩ := q
  rw [toJson] at written
  split at written
  · rename_i empty
    cases written
    exact .everything empty
  · rename_i filled
    obtain ⟨params, given, written⟩ := bind_eq_ok.mp written
    obtain ⟨required, must, written⟩ := bind_eq_ok.mp written
    split at written
    · obtain ⟨clause, only, alone⟩ := eq_singleton_of_clausesToJson must
      cases written
      exact .alone only rfl rfl rfl given alone
    · rename_i others
      obtain ⟨optional, should, written⟩ := bind_eq_ok.mp written
      obtain ⟨forbidden, mustNot, written⟩ := bind_eq_ok.mp written
      obtain ⟨filtering, filter, written⟩ := bind_eq_ok.mp written
      cases written
      have each (role : Role) : clausesToJson (clauses ⟨musts, shoulds, mustNots, filters,
          minimumShouldMatch, boost, options⟩ role) =
          .ok (listOf required optional forbidden filtering role) := by
        cases role <;> assumption
      refine .full (by simpa using filled) given each ?_
      rintro json ⟨one, noShould, noMustNot, noFilter, none⟩
      exact others json one (eq_nil_of_clausesToJson (noShould ▸ should))
        (eq_nil_of_clausesToJson (noMustNot ▸ mustNot))
        (eq_nil_of_clausesToJson (noFilter ▸ filter)) none

theorem merge_groups {q : BoolQuery} {params : Object} (spares : q.options.Spares)
    (given : q.parameters = .ok params) (jsons : Role → List Json) :
    Object.merge (Role.all.filterMap (group jsons)) params =
      Role.all.filterMap (group jsons) ++ params := by
  refine Object.merge_of_apart fun key listed => ?_
  obtain ⟨role, rfl⟩ := role_of_mem_keys listed
  exact not_mem_keys_parameters spares given role

theorem get?_group (jsons : Role → List Json) (role : Role) :
    Object.get? (Role.all.filterMap (group jsons)) role.name =
      if (jsons role).isEmpty then none else some (.arr (jsons role)) := by
  have listed : role ∈ Role.all := by cases role <;> decide
  rw [get?_groups, if_pos listed, group]
  split <;> rfl

theorem partsListed_full {q : BoolQuery} {params : Object} (spares : q.options.Spares)
    (given : q.parameters = .ok params) (jsons : Role → List Json) (role : Role) :
    Json.partsListed role.name (Object.merge (Role.all.filterMap (group jsons)) params) =
      Json.partsOfList (jsons role) := by
  rw [Json.partsListed_eq, Object.get?_merge,
    Object.get?_eq_none.mpr (not_mem_keys_parameters spares given role), Option.none_or, get?_group]
  by_cases empty : (jsons role).isEmpty = true
  · rw [if_pos empty, List.isEmpty_iff.mp empty]
    rfl
  · rw [if_neg empty]
    rfl

theorem list_of_get? (jsons : Role → List Json) (role : Role) {found : Option Json}
    (same : Object.get? (Role.all.filterMap (group jsons)) role.name = found) :
    (found = none → jsons role = []) ∧ ∀ list, found = some (.arr list) → jsons role = list := by
  rw [get?_group] at same
  split at same
  · rename_i empty
    subst same
    exact ⟨fun _ => List.isEmpty_iff.mp empty, nofun⟩
  · subst same
    exact ⟨nofun, fun list found => by injection found with listed; injection listed⟩

theorem terse_full {q : BoolQuery} {jsons : Role → List Json} {params : Object}
    (spares : q.options.Spares) (filled : q.isEmpty = false) (given : q.parameters = .ok params)
    (written : ∀ role, clausesToJson (q.clauses role) = .ok (jsons role))
    (longer : ∀ json, ¬ (jsons .must = [json] ∧ jsons .should = [] ∧ jsons .mustNot = [] ∧
      jsons .filter = [] ∧ params = [])) :
    Object.Terse (Object.merge (Role.all.filterMap (group jsons)) params) := by
  rw [merge_groups spares given]
  have apart := not_mem_keys_parameters spares given
  refine ⟨fun empty => ?_, fun role listed => ?_, fun clause alone => ?_⟩
  · obtain ⟨none, _⟩ := List.append_eq_nil_iff.mp empty
    have unlisted (role : Role) : q.clauses role = [] := by
      have nothing := (list_of_get? jsons role (by rw [none]; rfl)).1 rfl
      exact eq_nil_of_clausesToJson (nothing ▸ written role)
    have isEmpty : q.isEmpty = true := by
      simp only [isEmpty, Bool.and_eq_true, List.isEmpty_iff]
      exact ⟨⟨⟨unlisted .must, unlisted .should⟩, unlisted .mustNot⟩, unlisted .filter⟩
    rw [isEmpty] at filled
    cases filled
  · rcases List.mem_append.mp listed with first | second
    · obtain ⟨other, _, made⟩ := List.mem_filterMap.mp first
      unfold group at made
      split at made
      · cases made
      · rename_i some
        injection made with same
        exact some (by simp_all)
    · exact apart role (List.mem_map_of_mem (f := Prod.fst) second)
  -- A single entry for the required clauses leaves no room for a parameter.
  · have none : params = [] := by
      cases params with
      | nil => rfl
      | cons entry rest =>
        have member : entry ∈ [("must", Json.arr [clause])] := alone ▸ by simp
        have must : Role.must.name ∈ Object.keys (entry :: rest) := by
          rw [List.mem_singleton.mp member]
          exact List.mem_cons_self
        exact absurd must (apart .must)
    rw [none, List.append_nil] at alone
    have lists (role : Role) := list_of_get? jsons role (by rw [alone])
    exact longer clause ⟨(lists .must).2 _ rfl, (lists .should).1 rfl, (lists .mustNot).1 rfl,
      (lists .filter).1 rfl, none⟩

theorem leaves_of_filled {q : BoolQuery} (filled : q.isEmpty = false) :
    q.leaves = Role.all.flatMap fun role => leavesOfList (q.clauses role) := by
  obtain ⟨musts, shoulds, mustNots, filters, minimumShouldMatch, boost, options⟩ := q
  have notEmpty : ¬ isEmpty ⟨musts, shoulds, mustNots, filters, minimumShouldMatch, boost,
      options⟩ = true := by simp [filled]
  rw [leaves, if_neg notEmpty]
  simp [Role.all, clauses]

theorem reads_roles {q : BoolQuery} {jsons : Role → List Json}
    (each : ∀ role, ∀ clause ∈ q.clauses role, ∀ json, clause.toJson = .ok json →
      Reads clause.leaves json.parts)
    (written : ∀ role, clausesToJson (q.clauses role) = .ok (jsons role)) (roles : List Role) :
    Reads (roles.flatMap fun role => leavesOfList (q.clauses role))
      (roles.flatMap fun role => Json.partsOfList (jsons role)) := by
  induction roles with
  | nil => exact .nil
  | cons role rest ih => exact (reads_list (each role) (written role)).append ih

theorem reads {q : BoolQuery} (spares : q.options.Spares)
    (each : ∀ role, ∀ clause ∈ q.clauses role, ∀ json, clause.toJson = .ok json →
      Reads clause.leaves json.parts) {json : Json} (written : q.toJson = .ok json) :
    Reads q.leaves json.parts := by
  cases shape_of_toJson written with
  | everything empty =>
    obtain ⟨musts, shoulds, mustNots, filters, minimumShouldMatch, boost, options⟩ := q
    rw [leaves, if_pos empty]
    exact reads_leaf rfl
  | @alone clause _ must should mustNot filter _ alone =>
    have filled : q.isEmpty = false := by simp [isEmpty, must]
    have leaves : q.leaves = clause.leaves := by
      rw [leaves_of_filled filled]
      simp [Role.all, clauses, must, should, mustNot, filter, leavesOfList]
    rw [leaves]
    exact each .must clause (by simp [clauses, must]) json alone
  | @full jsons params filled given lists longer =>
    rw [Json.parts_bool, leaves_of_filled filled]
    refine .bool (terse_full spares filled given lists longer) ?_
    simp only [partsListed_full spares given]
    exact reads_roles each lists Role.all

end BoolQuery

theorem partsAt_of_get? {key : String} {entries : Object} {value : Json}
    (found : entries.get? key = some value) : Json.partsAt key entries = value.parts := by
  rw [Json.partsAt_eq, found]
  rfl

theorem get?_of_spread {options : Json} {base body : Object} (spares : options.Spares)
    (merged : spreadOptions base options = .ok body) (key : String)
    (structural : key ∈ structuralKeys) : body.get? key = base.get? key := by
  obtain ⟨extra, object, same⟩ := bind_eq_ok.mp merged
  cases same
  cases options with
  | obj entries =>
    cases object
    rw [Object.get?_merge, Object.get?_eq_none.mpr (spares _ rfl _ structural), Option.none_or]
  | _ => cases object

namespace ScoreFunction

theorem setEntry_eq_ok {spec written : Json} {key : String} {value : Json} :
    setEntry spec key value = .ok written ↔
      ∃ entries, spec = .obj entries ∧ written = .obj (Object.set entries key value) := by
  cases spec <;> simp [setEntry, eq_comm]

theorem partsOfFunction_weighted {spec weight weighted : Json} (spares : spec.Spares)
    (made : ScoreFunction.weighted spec weight = .ok weighted) : weighted.partsOfFunction = [] := by
  have unfiltered {entries : Object} (same : spec = .obj entries) : entries.get? "filter" = none :=
    Object.get?_eq_none.mpr (spares entries (by rw [same]; rfl) _ (by decide))
  unfold ScoreFunction.weighted at made
  split at made
  · cases made
    cases spec with
    | obj entries => rw [Json.partsOfFunction, Json.partsAt_eq, unfiltered rfl]; rfl
    | _ => rfl
  · obtain ⟨entries, object, rfl⟩ := setEntry_eq_ok.mp made
    rw [Json.partsOfFunction, Json.partsAt_eq, Object.get?_set, if_neg (by decide),
      unfiltered object]
    rfl

theorem reads {function : ScoreFunction} (spares : function.spec.Spares)
    (each : ∀ filter ∈ function.filter, ∀ json, filter.toJson = .ok json →
      Reads filter.leaves json.parts) {json : Json} (written : function.toJson = .ok json) :
    Reads function.leaves json.partsOfFunction := by
  obtain ⟨spec, weight, filter⟩ := function
  obtain ⟨weighted, made, filtered⟩ := bind_eq_ok.mp written
  cases filter with
  | none =>
    cases filtered
    rw [partsOfFunction_weighted spares made]
    exact .nil
  | some query =>
    obtain ⟨inner, queried, set⟩ := bind_eq_ok.mp filtered
    obtain ⟨entries, _, rfl⟩ := setEntry_eq_ok.mp set
    rw [Json.partsOfFunction, partsAt_of_get? (by rw [Object.get?_set, if_pos rfl])]
    exact each query rfl inner queried

end ScoreFunction

theorem reads_functions {functions : List ScoreFunction} {jsons : List Json}
    (each : ∀ function ∈ functions, ∀ json, function.toJson = .ok json →
      Reads function.leaves json.partsOfFunction)
    (written : functionsToJson functions = .ok jsons) :
    Reads (leavesOfFunctions functions) (Json.partsOfFunctions jsons) := by
  induction functions generalizing jsons with
  | nil =>
    cases written
    exact .nil
  | cons function rest ih =>
    obtain ⟨json, first, onward⟩ := bind_eq_ok.mp written
    obtain ⟨others, further, same⟩ := bind_eq_ok.mp onward
    cases same
    obtain ⟨here, later⟩ := List.forall_mem_cons.mp each
    exact (here json first).append (ih later further)

theorem Clause.Spares.reads {clause : Clause} (spares : clause.Spares) :
    ∀ json, clause.toJson = .ok json → Reads clause.leaves json.parts := by
  induction spares with
  | leaf single =>
    intro json written
    exact reads_leaf written
  | bool options _ each =>
    intro json written
    exact BoolQuery.reads options each written
  | nested spared _ query =>
    intro json written
    obtain ⟨inner, queried, onward⟩ := bind_eq_ok.mp written
    obtain ⟨body, merged, same⟩ := bind_eq_ok.mp onward
    cases same
    -- No option goes by the name of a part, so the inner query stands where it was written.
    have found := get?_of_spread spared merged "query" (by decide)
    rw [Json.parts_nested, partsAt_of_get? found]
    exact query inner queried
  | functionScore spared _ specs _ query filters =>
    intro json written
    obtain ⟨inner, queried, onward⟩ := bind_eq_ok.mp written
    obtain ⟨scored, rated, onward⟩ := bind_eq_ok.mp onward
    obtain ⟨body, merged, same⟩ := bind_eq_ok.mp onward
    cases same
    have found := get?_of_spread spared merged "query" (by decide)
    have listed := get?_of_spread spared merged "functions" (by decide)
    rw [Json.parts_functionScore, partsAt_of_get? found, Json.partsScored_eq, listed]
    refine (query inner queried).append (reads_functions (fun function member => ?_) rated)
    exact fun json => ScoreFunction.reads (specs function member) (filters function member)

/-- Reading a written tree back gives its leaves, each as it is written by itself, in their order.
No boolean query in it is written without an entry, with a list of no clauses, or with nothing but a
single required clause. -/
theorem Clause.Spares.read_back {clause : Clause} (spares : clause.Spares) {json : Json}
    (written : clause.toJson = .ok json) :
    List.Forall₂ (fun leaf read => leaf.toJson = .ok read) clause.leaves json.leaves ∧
      ∀ body ∈ json.bools, body.Terse := by
  have reads := spares.reads json written
  exact ⟨reads.leaves_written, reads.bools_terse⟩

theorem Json.spares_empty : (Json.obj []).Spares := by
  intro entries read key _
  cases read
  exact List.not_mem_nil

theorem BoolQuery.spares_empty : (Clause.bool empty).Spares := by
  refine .bool Json.spares_empty fun role clause listed => ?_
  cases role <;> cases listed

theorem BoolQuery.spares_add {q : BoolQuery} {role : Role} {clause : Clause}
    (spares : (Clause.bool q).Spares) (added : clause.Spares) :
    (Clause.bool (q.add role clause)).Spares := by
  cases spares with
  | bool options each =>
    refine .bool (by cases role <;> exact options) fun other listed member => ?_
    have either : listed ∈ q.clauses other ∨ listed = clause := by
      cases role <;> cases other <;> simp_all [add, clauses]
    rcases either with old | rfl
    · exact each other listed old
    · exact added

def scoredByStock : Clause :=
  .functionScore .empty
    [⟨.obj [], .int 2, none⟩,
     ⟨.obj [], .null, some (BoolQuery.empty.add .should (.leaf (.present "stock")))⟩]
    (.obj [])

def tangled : Clause :=
  .bool (((BoolQuery.empty.add .filter (.bool .empty)).add .mustNot (.leaf (.present "closed"))).add
    .must (.nested "lines" (BoolQuery.empty.add .must scoredByStock) .avg (.obj [])))

theorem spares_tangled : tangled.Spares := by
  have scored : scoredByStock.Spares := by
    refine .functionScore Json.spares_empty BoolQuery.spares_empty ?_ ?_
    · simp [Json.spares_empty]
    · simp [BoolQuery.spares_add BoolQuery.spares_empty (.leaf _)]
  exact BoolQuery.spares_add
    (BoolQuery.spares_add (BoolQuery.spares_add BoolQuery.spares_empty BoolQuery.spares_empty)
      (.leaf _))
    (.nested Json.spares_empty (BoolQuery.spares_add BoolQuery.spares_empty scored))

theorem read_back_tangled :
    ∃ json, tangled.toJson = .ok json ∧
      List.Forall₂ (fun leaf read => leaf.toJson = .ok read) tangled.leaves json.leaves ∧
      (∀ body ∈ json.bools, body.Terse) ∧
      json.leaves = [BoolQuery.everything, Object.only "exists" (.obj [("field", .str "stock")]),
        Object.only "exists" (.obj [("field", .str "closed")]), BoolQuery.everything] := by
  refine ⟨_, rfl, ?_⟩
  obtain ⟨leaves, terse⟩ := spares_tangled.read_back rfl
  exact ⟨leaves, terse, rfl⟩

end SearchRequest
