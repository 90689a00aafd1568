import SearchRequest.Proofs.Clause.Written
import SearchRequest.Proofs.Search.History

/-!
The query of a request body, read off the history of a run. A history without clauses has no
query; a single required clause without parameters stands alone; anything else is a boolean query
with the clauses of each role in the order they were added and the parameters set last.
-/

namespace SearchRequest

def written : List (Role × Clause) → Except Failure (List (Role × Json))
  | [] => .ok []
  | (role, clause) :: rest => do
      let json ← clause.toJson
      let others ← written rest
      .ok ((role, json) :: others)

def roleEntry (entries : List (Role × Json)) (role : Role) : Option (String × Json) :=
  match under role entries with
  | [] => none
  | first :: rest => some (role.name, .arr (first :: rest))

def boolObject (entries : List (Role × Json)) (minimumShouldMatch boost : Json) : Object :=
  Role.all.filterMap (roleEntry entries) ++
    Object.given [("minimum_should_match", minimumShouldMatch), ("boost", boost)]

/-- The query that written clauses and parameters make. -/
def queryOf (entries : List (Role × Json)) (minimumShouldMatch boost : Json) : Option Json :=
  match entries with
  | [] => none
  | [(.must, json)] =>
      if minimumShouldMatch.isNull && boost.isNull then some json
      else some (Object.only "bool" (.obj (boolObject [(.must, json)] minimumShouldMatch boost)))
  | entries => some (Object.only "bool" (.obj (boolObject entries minimumShouldMatch boost)))

theorem clausesToJson_under {entries : List (Role × Clause)} {jsons : List (Role × Json)}
    (serialized : written entries = .ok jsons) (role : Role) :
    clausesToJson (under role entries) = .ok (under role jsons) := by
  induction entries generalizing jsons with
  | nil =>
    cases serialized
    rfl
  | cons entry rest ih =>
    obtain ⟨current, clause⟩ := entry
    obtain ⟨json, first, others⟩ := bind_eq_ok.mp serialized
    obtain ⟨tail, restWritten, same⟩ := bind_eq_ok.mp others
    cases same
    rw [under_cons, under_cons]
    by_cases listed : current = role
    · simp only [listed, if_true, List.singleton_append, clausesToJson, first, ih restWritten,
        bind_ok]
    · simp only [listed, if_false, List.nil_append, ih restWritten]

theorem length_written {entries : List (Role × Clause)} {jsons : List (Role × Json)}
    (serialized : written entries = .ok jsons) : jsons.length = entries.length := by
  induction entries generalizing jsons with
  | nil =>
    cases serialized
    rfl
  | cons entry rest ih =>
    obtain ⟨json, first, others⟩ := bind_eq_ok.mp serialized
    obtain ⟨tail, restWritten, same⟩ := bind_eq_ok.mp others
    cases same
    exact congrArg Nat.succ (ih restWritten)

theorem length_eq_sum {α : Type} (entries : List (Role × α)) :
    entries.length = (under .must entries).length + (under .should entries).length +
      (under .mustNot entries).length + (under .filter entries).length := by
  induction entries with
  | nil => rfl
  | cons entry rest ih =>
    obtain ⟨role, element⟩ := entry
    simp only [under_cons, List.length_append, List.length_cons, ih]
    cases role <;> simp <;> omega

theorem roleEntry_eq_group (entries : List (Role × Json)) :
    roleEntry entries = BoolQuery.group fun role => under role entries := by
  funext role
  unfold roleEntry BoolQuery.group
  cases listed : under role entries <;> simp [listed]

theorem roleEntries_under (entries : List (Role × Json)) :
    BoolQuery.roleEntries (under .must entries) (under .should entries) (under .mustNot entries)
        (under .filter entries) = Role.all.filterMap (roleEntry entries) := by
  rw [roleEntry_eq_group]
  exact BoolQuery.roleEntries_eq_groups fun role => under role entries

theorem boolObject_eq_merge (entries : List (Role × Json)) (minimumShouldMatch boost : Json) :
    Object.merge (Role.all.filterMap (roleEntry entries))
        (Object.given [("minimum_should_match", minimumShouldMatch), ("boost", boost)]) =
      boolObject entries minimumShouldMatch boost := by
  apply Object.merge_of_apart
  intro key list
  rw [roleEntry_eq_group] at list
  obtain ⟨role, rfl⟩ := BoolQuery.role_of_mem_keys list
  exact Object.get?_eq_none.mp (BoolQuery.get?_parameters_of_role _ _ role)

theorem isEmpty_iff {q : BoolQuery} {entries : List (Role × Clause)}
    (listed : ∀ role, q.clauses role = under role entries) :
    q.isEmpty = true ↔ entries = [] := by
  have must : q.must = under .must entries := listed .must
  have should : q.should = under .should entries := listed .should
  have mustNot : q.mustNot = under .mustNot entries := listed .mustNot
  have filter : q.filter = under .filter entries := listed .filter
  have sum := length_eq_sum entries
  simp only [BoolQuery.isEmpty, must, should, mustNot, filter, Bool.and_eq_true,
    List.isEmpty_iff_length_eq_zero, ← List.length_eq_zero_iff (l := entries)]
  omega

theorem eq_singleton_of_must {entries : List (Role × Json)} {only : Json}
    (must : under .must entries = [only]) (should : under .should entries = [])
    (mustNot : under .mustNot entries = []) (filter : under .filter entries = []) :
    entries = [(.must, only)] := by
  have sum := length_eq_sum entries
  rw [must, should, mustNot, filter] at sum
  obtain ⟨entry, rfl⟩ := List.length_eq_one_iff.mp sum
  obtain ⟨role, json⟩ := entry
  cases role <;> simp_all [under]

theorem toJson_of_listed {q : BoolQuery} {entries : List (Role × Clause)}
    {jsons : List (Role × Json)} (listed : ∀ role, q.clauses role = under role entries)
    (plain : q.options = .obj []) (serialized : written entries = .ok jsons)
    (filled : entries ≠ []) :
    ∃ json, q.toJson = .ok json ∧ queryOf jsons q.minimumShouldMatch q.boost = some json := by
  have notEmpty : q.isEmpty = false := by
    rw [← Bool.not_eq_true, isEmpty_iff listed]
    exact filled
  have jsonsFilled : jsons ≠ [] := by
    rintro rfl
    exact filled (List.length_eq_zero_iff.mp (length_written serialized).symm)
  have params := parameters_eq_given plain
  have lists (role : Role) : clausesToJson (q.clauses role) = .ok (under role jsons) := by
    rw [listed role]
    exact clausesToJson_under serialized role
  have must := lists .must
  have should := lists .should
  have mustNot := lists .mustNot
  have filter := lists .filter
  obtain ⟨musts, shoulds, mustNots, filters, minimumShouldMatch, boost, options⟩ := q
  simp only [BoolQuery.clauses] at must should mustNot filter
  rw [BoolQuery.toJson]
  simp only [notEmpty, params, must, bind_ok, Bool.false_eq_true, if_false]
  split
  · rename_i only one none
    have empty {clauses : List Json} (same : (.ok [] : Except Failure _) = .ok clauses) :
        clauses = [] := (Except.ok.inj same).symm
    -- The only clause is written alone, and so it is the only one that was listed.
    have alone := eq_singleton_of_must one (empty should) (empty mustNot) (empty filter)
    refine ⟨only, rfl, ?_⟩
    rw [alone]
    simp only [queryOf, given_parameters_eq_nil.mp none, if_true]
  · rename_i others
    simp only [should, mustNot, filter, bind_ok, roleEntries_under, boolObject_eq_merge]
    refine ⟨_, rfl, ?_⟩
    unfold queryOf
    split
    · exact absurd rfl jsonsFilled
    · rename_i json
      -- Both forms agree on when there is a single clause; then only a parameter can forbid the
      -- short one.
      have nonNull : ¬ (minimumShouldMatch.isNull && boost.isNull) = true := fun none =>
        others json rfl (eq_nil_of_clausesToJson should) (eq_nil_of_clausesToJson mustNot)
          (eq_nil_of_clausesToJson filter) (given_parameters_eq_nil.mpr none)
      rw [if_neg nonNull]
    · rfl

namespace Document

def furtherEntries (d : Document) (aggregations : Object) : Object :=
  aggregations ++ d.sortEntry ++ d.highlightEntry ++ d.windowEntries

theorem body_eq_ok {d : Document} {body : Object} :
    d.body = .ok body ↔ ∃ query aggregations, d.queryEntry = .ok query ∧
      d.aggregationsEntry = .ok aggregations ∧ body = query ++ d.furtherEntries aggregations := by
  simp only [Document.body, bind_eq_ok, Except.ok.injEq, furtherEntries, List.append_assoc]
  constructor
  · rintro ⟨query, queried, aggregations, aggregated, same⟩
    exact ⟨query, aggregations, queried, aggregated, same.symm⟩
  · rintro ⟨query, aggregations, queried, aggregated, same⟩
    exact ⟨query, queried, aggregations, aggregated, same.symm⟩

theorem mem_keys_aggregationsEntry {d : Document} {entry : Object} {key : String}
    (aggregated : d.aggregationsEntry = .ok entry) (listed : key ∈ entry.keys) : key = "aggs" := by
  unfold aggregationsEntry at aggregated
  split at aggregated
  · cases aggregated
    simp [Object.keys] at listed
  · obtain ⟨jsons, _, same⟩ := bind_eq_ok.mp aggregated
    cases same
    simpa [Object.keys] using listed

theorem mem_keys_queryEntry {d : Document} {entry : Object} {key : String}
    (queried : d.queryEntry = .ok entry) (listed : key ∈ entry.keys) : key = "query" := by
  unfold queryEntry at queried
  split at queried
  · cases queried
    simp [Object.keys] at listed
  · obtain ⟨json, _, same⟩ := bind_eq_ok.mp queried
    cases same
    simpa [Object.keys] using listed

theorem mem_keys_sortEntry {d : Document} {key : String} (listed : key ∈ d.sortEntry.keys) :
    key = "sort" := by
  unfold sortEntry at listed
  split at listed
  · cases listed
  · simpa [Object.keys] using listed

theorem mem_keys_highlightEntry {d : Document} {key : String}
    (listed : key ∈ d.highlightEntry.keys) : key = "highlight" := by
  unfold highlightEntry at listed
  split at listed
  · cases listed
  · simpa [Object.keys] using listed

theorem query_not_mem_furtherEntries {d : Document} {aggregations : Object}
    (aggregated : d.aggregationsEntry = .ok aggregations) :
    "query" ∉ (d.furtherEntries aggregations).keys := by
  intro listed
  simp only [furtherEntries, Object.keys, List.map_append, List.mem_append] at listed
  rcases listed with ((aggs | sort) | highlight) | window
  · exact absurd (mem_keys_aggregationsEntry aggregated aggs) (by decide)
  · exact absurd (mem_keys_sortEntry sort) (by decide)
  · exact absurd (mem_keys_highlightEntry highlight) (by decide)
  · have named := Object.mem_keys_given window
    simp [Object.keys] at named

theorem queryEntry_of_listed {d : Document} {entries : List (Role × Clause)}
    {jsons : List (Role × Json)} (listed : ∀ role, d.query.clauses role = under role entries)
    (plain : d.query.options = .obj []) (serialized : written entries = .ok jsons) :
    ∃ entry, d.queryEntry = .ok entry ∧ Object.get? entry "query" =
      queryOf jsons d.query.minimumShouldMatch d.query.boost := by
  by_cases filled : entries = []
  · subst filled
    cases serialized
    have none : d.query.isEmpty = true := (isEmpty_iff listed).mpr rfl
    exact ⟨[], by simp only [queryEntry, none, if_true], rfl⟩
  · have some : ¬ d.query.isEmpty = true := fun none => filled ((isEmpty_iff listed).mp none)
    obtain ⟨json, query, expected⟩ := toJson_of_listed listed plain serialized filled
    refine ⟨[("query", json)], ?_, expected.symm ▸ rfl⟩
    simp only [queryEntry, some, if_false, query, bind_ok, Bool.false_eq_true]

theorem query_of_body {d : Document} {body query : Object} (queried : d.queryEntry = .ok query)
    (compiled : d.body = .ok body) : Object.get? body "query" = Object.get? query "query" := by
  obtain ⟨first, aggregations, same, aggregated, rfl⟩ := body_eq_ok.mp compiled
  rw [queried] at same
  cases same
  rw [Object.get?_append, Object.get?_eq_none.mpr (query_not_mem_furtherEntries aggregated),
    Option.or_none]

end Document

namespace SearchStep

def aggregates : SearchStep → Bool
  | .aggregate .. => true
  | _ => false

theorem aggregations_final {steps : List SearchStep}
    (none : ∀ step ∈ steps, step.aggregates = false) (w : World) (s : Search) :
    (final steps (w, s)).2.document.aggregations = s.document.aggregations := by
  have keeps (step : SearchStep) (listed : step ∈ steps) (state : World × Search)
      (same : state.2.document.aggregations = s.document.aggregations) :
      (step.run state.1 state.2).state.2.document.aggregations = s.document.aggregations := by
    have other := none step listed
    rw [search_run, Search.aggregations_applyAll, ← same]
    cases step <;> first | rfl | cases other
  exact final_invariant (P := fun state => state.2.document.aggregations = _) keeps rfl

/-- The query in the body after a run has the clauses that its successful steps added, each under
the role switched to last before it and in the order they were added, and the parameters that they
set last. -/
theorem query_of_history (w : World) (steps : List SearchStep) (jsons : List (Role × Json))
    (serialized : written (additions .must steps (w, .fresh)) = .ok jsons) :
    let document := (final steps (w, .fresh)).2.document
    (∀ body, document.body = .ok body →
      Object.get? body "query" = queryOf jsons
        (lastValue .minimumShouldMatch .null steps (w, .fresh))
        (lastValue .boost .null steps (w, .fresh))) ∧
    ((∀ step ∈ steps, step.aggregates = false) → Succeeds document.body) := by
  intro document
  let changes := history steps (w, .fresh)
  obtain ⟨added, minimums, boosts⟩ := history_eq steps (w, .fresh)
  have same : document.query = (Search.fresh.applyAll changes).document.query :=
    congrArg Prod.snd (core_final steps w .fresh)
  have listed (role : Role) : document.query.clauses role =
      under role (additions .must steps (w, .fresh)) := by
    rw [same, Search.clauses_applyAll, ← added]
    cases role <;> rfl
  have settings : document.query.settings =
      (lastValue .minimumShouldMatch .null steps (w, .fresh),
        lastValue .boost .null steps (w, .fresh), .obj []) := by
    rw [same, Search.settings_applyAll, ← minimums, ← boosts]
    rfl
  simp only [BoolQuery.settings, Prod.mk.injEq] at settings
  obtain ⟨minimum, boost, plain⟩ := settings
  obtain ⟨entry, queried, expected⟩ := Document.queryEntry_of_listed listed plain serialized
  rw [minimum, boost] at expected
  constructor
  · intro body compiled
    rw [Document.query_of_body queried compiled, expected]
  -- Without aggregations only the query is to be written, which it can be.
  · intro none
    have empty : document.aggregationsEntry = .ok [] := by
      have kept := aggregations_final none w .fresh
      simp only [Document.aggregationsEntry, document, kept]
      rfl
    exact ⟨_, Document.body_eq_ok.mpr ⟨entry, [], queried, empty, rfl⟩⟩

def mixedRun : List SearchStep :=
  [.leaf .matching [("field", .str "title"), ("query", .str "laptop")],
   .edit .boost [("value", .str "high")],
   .edit (.role .mustNot) [],
   .append (.obj [("kind", .str "term"), ("field", .str "sold"), ("value", .bool true)]),
   .edit (.role .filter) [],
   .leaf .present [("fields", .arr [.str "brand", .str "price"])],
   .nested [("field", .str "variants"), ("callback", .null)]
     (some [.edit (.role .should) [],
       .leaf .term [("field", .str "variants.color"), ("value", .str "black")]]),
   .edit .boost [("value", .int 2)]]

def mixedClauses : List (Role × Json) :=
  [(.must, Object.only "match" (.obj [("title", .obj [("query", .str "laptop")])])),
   (.mustNot, Object.only "term" (.obj [("sold", .bool true)])),
   (.filter, Object.only "exists" (.obj [("field", .str "brand")])),
   (.filter, Object.only "exists" (.obj [("field", .str "price")])),
   (.filter, Object.only "nested" (.obj [("path", .str "variants"),
     ("query", Object.only "bool" (.obj [("should",
       .arr [Object.only "term" (.obj [("variants.color", .str "black")])])])),
     ("score_mode", .str "avg")]))]

theorem query_of_mixedRun :
    written (additions .must mixedRun (.isolated, .fresh)) = .ok mixedClauses ∧
      ∃ body, (final mixedRun (.isolated, .fresh)).2.document.body = .ok body ∧
        Object.get? body "query" = some (Object.only "bool" (.obj
          [("must", .arr (under .must mixedClauses)),
           ("must_not", .arr (under .mustNot mixedClauses)),
           ("filter", .arr (under .filter mixedClauses)), ("boost", .int 2)])) := by
  have serialized : written (additions .must mixedRun (.isolated, .fresh)) = .ok mixedClauses := rfl
  obtain ⟨query, compiles⟩ := query_of_history .isolated mixedRun mixedClauses serialized
  obtain ⟨body, compiled⟩ := compiles (by decide)
  exact ⟨serialized, body, compiled, (query body compiled).trans rfl⟩

end SearchStep

end SearchRequest
