import Mathlib.Tactic.Choose
import SearchRequest.Proofs.Clause.Writable
import SearchRequest.Proofs.Clause.Written

/-!
What written clauses mean. The meaning of leaves, and of the two clauses that hold a query, is left
open; that of a boolean query is fixed. A boolean query without clauses, and one with a single
required clause and no parameter, is written shorter than it is, and means the same.
-/

namespace SearchRequest

/-- What is left open: which documents a leaf matches, as it is written, and what the clauses that
hold a query make of the documents that it matches. -/
structure Reading (Doc : Type) where
  leaf : Json → Doc → Bool
  nested : Json → (Doc → Bool) → Doc → Bool
  scored : (Doc → Bool) → Doc → Bool

namespace Reading

variable {Doc : Type}

def needed (clauses : Role → List (Doc → Bool)) : Json → Int
  | .int minimum => minimum
  | _ =>
      if !(clauses .should).isEmpty && (clauses .must).isEmpty && (clauses .filter).isEmpty then 1
      else 0

/-- A document is matched by all required and filtering clauses, by none that is excluded, and by as
many optional ones as are needed; without any clauses it is matched. -/
def combine (clauses : Role → List (Doc → Bool)) (minimum : Json) (doc : Doc) : Bool :=
  if Role.all.all fun role => (clauses role).isEmpty then true
  else
    (clauses .must).all (· doc) && (clauses .filter).all (· doc) &&
      !(clauses .mustNot).any (· doc) &&
      decide (needed clauses minimum ≤ ((clauses .should).countP (· doc) : Nat))

variable (r : Reading Doc)

mutual

def meaning : Json → Doc → Bool
  | .obj [(kind, body)] =>
      if kind = "match_all" then fun _ => true else meaningUnder kind body
  | other => r.leaf other

def meaningUnder (kind : String) : Json → Doc → Bool
  | .obj entries =>
      if kind = "bool" then
        combine (fun role => clausesAt role.name entries)
          (Object.field entries "minimum_should_match")
      else if kind = "nested" then r.nested (Object.field entries "path") (queryAt entries)
      else if kind = "function_score" then r.scored (queryAt entries)
      else r.leaf (Object.only kind (.obj entries))
  | body => r.leaf (Object.only kind body)

def queryAt : List (String × Json) → Doc → Bool
  | [] => fun _ => true
  | (name, value) :: rest => if "query" = name then meaning value else queryAt rest

def clausesAt (key : String) : List (String × Json) → List (Doc → Bool)
  | [] => []
  | (name, value) :: rest => if key = name then clausesOf value else clausesAt key rest

def clausesOf : Json → List (Doc → Bool)
  | .arr items => clauseList items
  | _ => []

def clauseList : List Json → List (Doc → Bool)
  | [] => []
  | item :: rest => meaning item :: clauseList rest

end

theorem clauseList_eq_map (items : List Json) : r.clauseList items = items.map r.meaning := by
  induction items with
  | nil => rfl
  | cons item rest ih => rw [clauseList, List.map_cons, ih]

theorem clausesAt_eq (key : String) (entries : Object) :
    r.clausesAt key entries = ((Object.get? entries key).map r.clausesOf).getD [] := by
  induction entries with
  | nil => rfl
  | cons entry rest ih =>
    obtain ⟨name, value⟩ := entry
    rw [clausesAt, Object.get?_cons, ih]
    split <;> rfl

theorem queryAt_eq (entries : Object) :
    r.queryAt entries = ((Object.get? entries "query").map r.meaning).getD fun _ => true := by
  induction entries with
  | nil => rfl
  | cons entry rest ih =>
    obtain ⟨name, value⟩ := entry
    rw [queryAt, Object.get?_cons, ih]
    split <;> rfl

theorem meaning_bool (entries : Object) :
    r.meaning (Object.only "bool" (.obj entries)) =
      combine (fun role => r.clausesAt role.name entries)
        (Object.field entries "minimum_should_match") := by
  rw [Object.only, meaning, if_neg (by decide), meaningUnder, if_pos rfl]

theorem meaning_nested (entries : Object) :
    r.meaning (Object.only "nested" (.obj entries)) =
      r.nested (Object.field entries "path") (r.queryAt entries) := by
  rw [Object.only, meaning, if_neg (by decide), meaningUnder, if_neg (by decide), if_pos rfl]

theorem meaning_functionScore (entries : Object) :
    r.meaning (Object.only "function_score" (.obj entries)) = r.scored (r.queryAt entries) := by
  rw [Object.only, meaning, if_neg (by decide), meaningUnder, if_neg (by decide),
    if_neg (by decide), if_pos rfl]

theorem combine_of_empty {clauses : Role → List (Doc → Bool)}
    (empty : ∀ role, clauses role = []) (minimum : Json) :
    combine clauses minimum = fun _ => true := by
  funext doc
  rw [combine, if_pos]
  simp [empty]

theorem combine_of_single {clauses : Role → List (Doc → Bool)} {only : Doc → Bool}
    (required : clauses .must = [only]) (alone : ∀ role, role ≠ .must → clauses role = []) :
    combine clauses .null = only := by
  funext doc
  have optional := alone .should nofun
  have forbidden := alone .mustNot nofun
  have filtering := alone .filter nofun
  simp [combine, needed, required, optional, forbidden, filtering, Role.all]

end Reading

mutual

/-- What is written for a clause when no boolean query is written shorter than it is. -/
def Clause.spelledOut : Clause → Except Failure Json
  | .leaf single => single.toJson
  | .bool query => query.spelledOut
  | .nested path query score options => do
      let inner ← query.spelledOut
      let body ← spreadOptions
        [("path", .str path), ("query", inner), ("score_mode", .str score.name)] options
      .ok (Object.only "nested" (.obj body))
  | .functionScore query functions options => do
      let inner ← query.spelledOut
      let scored ← functionsSpelledOut functions
      let body ← spreadOptions [("query", inner), ("functions", .arr scored)] options
      .ok (Object.only "function_score" (.obj body))

def BoolQuery.spelledOut : BoolQuery → Except Failure Json
  | ⟨must, should, mustNot, filter, minimumShouldMatch, boost, options⟩ => do
      let query : BoolQuery :=
        ⟨must, should, mustNot, filter, minimumShouldMatch, boost, options⟩
      let params ← query.parameters
      let required ← clausesSpelledOut must
      let optional ← clausesSpelledOut should
      let forbidden ← clausesSpelledOut mustNot
      let filtering ← clausesSpelledOut filter
      let roles := BoolQuery.roleEntries required optional forbidden filtering
      .ok (Object.only "bool" (.obj (roles.merge params)))

def ScoreFunction.spelledOut : ScoreFunction → Except Failure Json
  | ⟨spec, weight, filter⟩ => do
      let weighted ← ScoreFunction.weighted spec weight
      filterSpelledOut weighted filter

def filterSpelledOut (weighted : Json) : Option BoolQuery → Except Failure Json
  | none => .ok weighted
  | some query => do
      let inner ← query.spelledOut
      ScoreFunction.setEntry weighted "filter" inner

def clausesSpelledOut : List Clause → Except Failure (List Json)
  | [] => .ok []
  | clause :: rest => do
      let first ← clause.spelledOut
      let others ← clausesSpelledOut rest
      .ok (first :: others)

def functionsSpelledOut : List ScoreFunction → Except Failure (List Json)
  | [] => .ok []
  | function :: rest => do
      let first ← function.spelledOut
      let others ← functionsSpelledOut rest
      .ok (first :: others)

end

/-- A tree of clauses in which no boolean query has options; what is to be an object elsewhere is
one. -/
inductive Clause.Plain : Clause → Prop
  | leaf {single : Leaf} {extra : Object} (options : single.options = .obj extra) :
      Plain (.leaf single)
  | bool {query : BoolQuery} (options : query.options = .obj [])
      (clauses : ∀ role, ∀ clause ∈ query.clauses role, Plain clause) : Plain (.bool query)
  | nested {path : String} {query : BoolQuery} {score : NestedScore} {extra : Object}
      (inner : Plain (.bool query)) : Plain (.nested path query score (.obj extra))
  | functionScore {query : BoolQuery} {functions : List ScoreFunction} {extra : Object}
      (inner : Plain (.bool query))
      (specs : ∀ function ∈ functions, ∃ spec, function.spec = .obj spec)
      (filters : ∀ function ∈ functions, ∀ filter ∈ function.filter, Plain (.bool filter)) :
      Plain (.functionScore query functions (.obj extra))

namespace BoolQuery

variable {Doc : Type} (r : Reading Doc)

theorem clausesAt_entries (jsons : Role → List Json) (minimum boost : Json) (role : Role) :
    r.clausesAt role.name (entries jsons minimum boost) = (jsons role).map r.meaning := by
  rw [r.clausesAt_eq, get?_entries_of_role, group]
  by_cases empty : (jsons role).isEmpty = true
  · rw [if_pos empty, List.isEmpty_iff.mp empty]
    rfl
  · rw [if_neg empty]
    exact r.clauseList_eq_map (jsons role)

theorem meaning_entries (jsons : Role → List Json) (minimum boost : Json) :
    r.meaning (Object.only "bool" (.obj (entries jsons minimum boost))) =
      Reading.combine (fun role => (jsons role).map r.meaning) minimum := by
  rw [r.meaning_bool, field_minimum]
  congr 1
  funext role
  exact clausesAt_entries r jsons minimum boost role

theorem meaning_spelledOut {q : BoolQuery} (plain : q.options = .obj [])
    {jsons : Role → List Json}
    (spelled : ∀ role, clausesSpelledOut (q.clauses role) = .ok (jsons role)) :
    ∃ json, q.spelledOut = .ok json ∧
      r.meaning json = Reading.combine (fun role => (jsons role).map r.meaning)
        q.minimumShouldMatch := by
  have params := parameters_eq_given plain
  have must := spelled .must
  have should := spelled .should
  have mustNot := spelled .mustNot
  have filter := spelled .filter
  refine ⟨_, ?_, meaning_entries r jsons q.minimumShouldMatch q.boost⟩
  obtain ⟨musts, shoulds, mustNots, filters, minimum, boost, options⟩ := q
  simp only [BoolQuery.clauses] at must should mustNot filter
  simp only [spelledOut, params, must, should, mustNot, filter, bind_ok]
  rfl

theorem meaning_toJson {q : BoolQuery} (plain : q.options = .obj [])
    {jsons : Role → List Json}
    (written : ∀ role, clausesToJson (q.clauses role) = .ok (jsons role)) :
    ∃ json, q.toJson = .ok json ∧
      r.meaning json = Reading.combine (fun role => (jsons role).map r.meaning)
        q.minimumShouldMatch := by
  have unlisted {role : Role} (none : q.clauses role = []) : jsons role = [] := by
    have nothing := written role
    rw [none] at nothing
    exact (Except.ok.inj nothing).symm
  have params := parameters_eq_given plain
  have must := written .must
  have should := written .should
  have mustNot := written .mustNot
  have filter := written .filter
  have spelled := meaning_entries r jsons q.minimumShouldMatch q.boost
  by_cases empty : q.isEmpty = true
  · refine ⟨everything, ?_, ?_⟩
    · obtain ⟨musts, shoulds, mustNots, filters, minimum, boost, options⟩ := q
      rw [toJson, if_pos empty]
    · rw [Reading.combine_of_empty fun role => by
        rw [unlisted (clauses_of_isEmpty empty role)]; rfl]
      rfl
  · obtain ⟨musts, shoulds, mustNots, filters, minimum, boost, options⟩ := q
    simp only [BoolQuery.clauses] at must should mustNot filter
    rw [toJson]
    simp only [if_neg empty, params, must, bind_ok]
    split
    -- One required clause is written alone only when neither parameter is given.
    · rename_i only single none
      have alone (role : Role) (other : role ≠ .must) : jsons role = [] := by
        cases role with
        | must => exact absurd rfl other
        | _ => exact unlisted rfl
      have noMinimum : minimum = .null := by
        have nulls := given_parameters_eq_nil.mp none
        cases minimum with
        | null => rfl
        | _ => cases nulls
      refine ⟨only, rfl, ?_⟩
      subst noMinimum
      have required : (jsons .must).map r.meaning = [r.meaning only] := by rw [single]; rfl
      exact (Reading.combine_of_single required fun role other => by
        rw [alone role other]; rfl).symm
    · simp only [should, mustNot, filter, bind_ok]
      exact ⟨_, rfl, spelled⟩

end BoolQuery

def Clause.MeansSame {Doc : Type} (r : Reading Doc) (clause : Clause) : Prop :=
  ∃ written spelled, clause.toJson = .ok written ∧ clause.spelledOut = .ok spelled ∧
    r.meaning written = r.meaning spelled

section MeansSame

variable {Doc : Type} {r : Reading Doc}

theorem meansSame_clauses {clauses : List Clause} (each : ∀ clause ∈ clauses, clause.MeansSame r) :
    ∃ written spelled, clausesToJson clauses = .ok written ∧
      clausesSpelledOut clauses = .ok spelled ∧ written.map r.meaning = spelled.map r.meaning := by
  induction clauses with
  | nil => exact ⟨[], [], rfl, rfl, rfl⟩
  | cons clause rest ih =>
    obtain ⟨⟨first, second, written, spelled, same⟩, others⟩ := List.forall_mem_cons.mp each
    obtain ⟨firsts, seconds, restWritten, restSpelled, restSame⟩ := ih others
    refine ⟨first :: firsts, second :: seconds, ?_, ?_, ?_⟩
    · rw [clausesToJson, written, bind_ok, restWritten, bind_ok]
    · rw [clausesSpelledOut, spelled, bind_ok, restSpelled, bind_ok]
    · rw [List.map_cons, List.map_cons, same, restSame]

theorem BoolQuery.meansSame {q : BoolQuery} (plain : q.options = .obj [])
    (each : ∀ role, ∀ clause ∈ q.clauses role, clause.MeansSame r) :
    (Clause.bool q).MeansSame r := by
  choose writtens spelleds written spelled same using fun role => meansSame_clauses (each role)
  obtain ⟨first, toJson, meant⟩ := meaning_toJson r plain written
  obtain ⟨second, spelledOut, meant'⟩ := meaning_spelledOut r plain spelled
  refine ⟨first, second, toJson, spelledOut, ?_⟩
  rw [meant, meant']
  congr 1
  funext role
  exact same role

theorem ScoreFunction.succeeds_of_meansSame {function : ScoreFunction}
    (plain : ∃ spec, function.spec = .obj spec)
    (filter : ∀ query ∈ function.filter, (Clause.bool query).MeansSame r) :
    Succeeds function.toJson ∧ Succeeds function.spelledOut := by
  obtain ⟨spec, weight, filtered⟩ := function
  obtain ⟨entries, rfl⟩ := plain
  obtain ⟨more, weighted⟩ := weighted_obj entries weight
  simp only [toJson, spelledOut, weighted, bind_ok]
  cases filtered with
  | none => exact ⟨succeeds_ok _, succeeds_ok _⟩
  | some query =>
    obtain ⟨first, second, written, spelled, _⟩ := filter query rfl
    rw [Clause.toJson] at written
    rw [Clause.spelledOut] at spelled
    rw [filterToJson, filterSpelledOut, written, spelled]
    exact ⟨succeeds_ok _, succeeds_ok _⟩

theorem succeeds_functionsSpelledOut {functions : List ScoreFunction}
    (each : ∀ function ∈ functions, Succeeds function.spelledOut) :
    Succeeds (functionsSpelledOut functions) := by
  induction functions with
  | nil => exact succeeds_ok _
  | cons function rest ih =>
    obtain ⟨⟨json, first⟩, others⟩ := List.forall_mem_cons.mp each
    obtain ⟨jsons, rest⟩ := ih others
    exact ⟨json :: jsons, by rw [functionsSpelledOut, first, bind_ok, rest, bind_ok]⟩

theorem Reading.queryAt_merge {base extra : Object} {json : Json}
    (query : Object.get? base "query" = some json) :
    r.queryAt (Object.merge base extra) =
      ((Object.get? extra "query").map r.meaning).getD (r.meaning json) := by
  rw [queryAt_eq, Object.get?_merge, query]
  cases Object.get? extra "query" <;> rfl

/-- However deep the tree, what is written for it means what it means spelled out. -/
theorem Clause.Plain.meaning_kept (r : Reading Doc) {clause : Clause} (plain : clause.Plain) :
    clause.MeansSame r := by
  induction plain with
  | leaf options =>
    obtain ⟨json, written⟩ := Leaf.succeeds_toJson options
    exact ⟨json, json, written, written, rfl⟩
  | bool options _ each => exact BoolQuery.meansSame options each
  | @nested path _ score extra _ query =>
    obtain ⟨first, second, written, spelled, same⟩ := query
    rw [toJson] at written
    rw [spelledOut] at spelled
    refine ⟨_, _, by rw [toJson, written]; rfl, by rw [spelledOut, spelled]; rfl, ?_⟩
    -- Options with a path or a query of their own put it in place of either one.
    rw [r.meaning_nested, r.meaning_nested, Reading.queryAt_merge rfl, Reading.queryAt_merge rfl,
      same, Object.field, Object.field, Object.get?_merge, Object.get?_merge]
    rfl
  | @functionScore _ functions extra _ specs _ query filters =>
    obtain ⟨first, second, written, spelled, same⟩ := query
    rw [toJson] at written
    rw [spelledOut] at spelled
    -- The functions do not bear on the meaning, but they have to be written all the same.
    have each (function : ScoreFunction) (listed : function ∈ functions) :=
      ScoreFunction.succeeds_of_meansSame (specs function listed) (filters function listed)
    obtain ⟨rated, scored⟩ :=
      succeeds_functionsToJson fun function listed => (each function listed).1
    obtain ⟨rated', scored'⟩ :=
      succeeds_functionsSpelledOut fun function listed => (each function listed).2
    refine ⟨_, _, by rw [toJson, written, bind_ok, scored]; rfl,
      by rw [spelledOut, spelled, bind_ok, scored']; rfl, ?_⟩
    rw [r.meaning_functionScore, r.meaning_functionScore, Reading.queryAt_merge rfl,
      Reading.queryAt_merge rfl, same]

end MeansSame

namespace BoolQuery

def only (clause : Clause) : BoolQuery := empty.add .must clause

theorem plain_empty : (Clause.bool empty).Plain := by
  refine .bool rfl fun role clause listed => ?_
  cases role <;> cases listed

theorem plain_only {clause : Clause} (plain : clause.Plain) :
    (Clause.bool (only clause)).Plain := by
  refine .bool rfl fun role other listed => ?_
  cases role with
  | must =>
    cases List.mem_singleton.mp listed
    exact plain
  | _ => cases listed

end BoolQuery

def shortened : Clause :=
  .bool (.only (.nested "lines" (.only (.functionScore .empty [⟨.obj [], .int 2, none⟩] (.obj [])))
    .avg (.obj [])))

def numbered : Reading Nat := ⟨fun _ doc => doc % 2 == 0, fun _ inner doc => inner (doc + 1), id⟩

theorem meaning_kept_shortened : shortened.MeansSame numbered :=
  Clause.Plain.meaning_kept numbered <| BoolQuery.plain_only <| .nested <| BoolQuery.plain_only <|
    .functionScore BoolQuery.plain_empty (by simp) (by simp)

end SearchRequest
