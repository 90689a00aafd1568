import SearchRequest.Proofs.Clause.ReadBack
import SearchRequest.Proofs.Search.Failing
import SearchRequest.Proofs.Search.Functions
import SearchRequest.Search.Bench

/-!
A scoring beside the search that its query was taken from. The functions of the scoring are those
that were added with success, in order, and each is written with the weight and the filter that it
was added with; the query is that of the search at the time when the scoring was taken from it.
-/

namespace SearchRequest

/-- A function that was added to a scoring: how it was asked for, and the world that its filter was
built in. -/
structure Addition where
  kind : ScoreKind
  args : Object
  filter : Option (List SearchStep)
  world : World

namespace Addition

def built (x : Addition) (steps : List SearchStep) : BoolQuery :=
  (SearchStep.runAll steps x.world .fresh).state.2.document.query

def Makes (x : Addition) (function : ScoreFunction) : Prop :=
  ∃ draft, ScoreDraft.of x.kind x.args = .ok draft ∧
    function = draft.filteredBy (x.filter.map x.built)

def weight (x : Addition) : Json := x.args.field "weight"

/-- An entry that is written for the addition: the entries of the function itself, over them the
weight if one is given, and over all of them the filter. -/
structure Writes (x : Addition) (entry : Object) : Prop where
  own : ∃ spec, x.kind.Specifies x.args spec ∧ ∀ key, (key = "weight" → x.weight = .null) →
    (key = "filter" → x.filter = none) → entry.get? key = spec.get? key
  weighted : x.weight ≠ .null → entry.get? "weight" = some x.weight
  filtered : ∀ steps, x.filter = some steps → ∃ json, (x.built steps).toJson = .ok json ∧
    entry.get? "filter" = some json ∧
    ((x.built steps).isEmpty = true → json = Object.only "match_all" (.obj []))

def Writable (x : Addition) : Prop :=
  ∀ steps, x.filter = some steps → Succeeds (x.built steps).toJson

end Addition

namespace BenchStep

def final (steps : List BenchStep) (b : ScoreBench) : ScoreBench :=
  Outcome.last (Outcome.each BenchStep.run steps b) b

def addition? (step : BenchStep) (b : ScoreBench) : Option Addition :=
  match step, (step.run b).result with
  | .score (.add kind args filter), .ok _ => some ⟨kind, args, filter, b.world⟩
  | _, _ => none

def additions : List BenchStep → ScoreBench → List Addition
  | [], _ => []
  | step :: rest, b => (step.addition? b).toList ++ additions rest (step.run b).state

end BenchStep

namespace ScoreStep

theorem makes_of_ok {kind : ScoreKind} {args : Object} {filter : Option (List SearchStep)}
    {w : World} {s : Scoring} {answer : Answer}
    (ok : ((ScoreStep.add kind args filter).run w s).result = .ok answer) :
    ∃ function, Addition.Makes ⟨kind, args, filter, w⟩ function ∧
      ((ScoreStep.add kind args filter).run w s).state.2 = s.add function := by
  cases drafted : ScoreDraft.of kind args with
  | error failure => cases filter <;> simp [run, drafted, Outcome.fail] at ok
  | ok draft =>
    cases filter with
    | none =>
      simp only [run, drafted] at ok ⊢
      split at ok
      · rename_i unfiltered
        rw [if_pos unfiltered]
        exact ⟨_, ⟨draft, drafted, rfl⟩, rfl⟩
      · cases ok
    | some steps =>
      simp only [run, drafted] at ok ⊢
      cases building : (SearchStep.runAll steps w .fresh).result with
      | error refused =>
        rw [Outcome.andThen_of_error (Outcome.result_handedTo_of_error building s)] at ok
        cases ok
      | ok done =>
        rw [Outcome.andThen_of_ok (Outcome.result_handedTo_of_ok building s)]
        exact ⟨_, ⟨draft, drafted, rfl⟩, rfl⟩

end ScoreStep

namespace BenchStep

theorem addition?_of_failed {step : BenchStep} {b : ScoreBench} {failure : Failure}
    (failed : (step.run b).result = .error failure) : step.addition? b = none := by
  unfold addition?
  split
  · rename_i ok
    rw [failed] at ok
    cases ok
  · rfl

theorem scoring_run (step : BenchStep) (b : ScoreBench) :
    ∃ functions, List.Forall₂ Addition.Makes (step.addition? b).toList functions ∧
      (step.run b).state.scoring =
        { b.scoring with functions := b.scoring.functions ++ functions } := by
  have unchanged (none : step.addition? b = none) (same : (step.run b).state.scoring = b.scoring) :
      ∃ functions, List.Forall₂ Addition.Makes (step.addition? b).toList functions ∧
        (step.run b).state.scoring =
          { b.scoring with functions := b.scoring.functions ++ functions } := by
    refine ⟨[], by rw [none]; exact .nil, ?_⟩
    rw [same, List.append_nil]
  -- Only a function that is added changes the scoring.
  cases step with
  | inner steps =>
    exact unchanged rfl (Outcome.andThen_invariant (P := fun state : ScoreBench =>
      state.scoring = b.scoring) rfl fun _ => rfl)
  | score step =>
    cases result : (step.run b.world b.scoring).result with
    | error failure =>
      exact unchanged (addition?_of_failed result) (ScoreStep.scoring_of_failed result)
    | ok answer =>
      cases step with
      | add kind args filter =>
        obtain ⟨function, makes, added⟩ := ScoreStep.makes_of_ok result
        have one : (score (.add kind args filter)).addition? b =
            some ⟨kind, args, filter, b.world⟩ := by
          simp only [addition?, run, Outcome.within, result]
        exact ⟨[function], by rw [one]; exact .cons makes .nil, added⟩
      | query args =>
        refine unchanged rfl ?_
        change ((ScoreStep.query args).run b.world b.scoring).state.2 = b.scoring
        rw [ScoreStep.run]
        cases noArguments.bind args <;> rfl
      | _ => exact unchanged rfl rfl

theorem scoring_final (steps : List BenchStep) (b : ScoreBench) :
    ∃ functions, List.Forall₂ Addition.Makes (additions steps b) functions ∧
      (final steps b).scoring =
        { b.scoring with functions := b.scoring.functions ++ functions } := by
  induction steps generalizing b with
  | nil => exact ⟨[], .nil, by rw [List.append_nil]; rfl⟩
  | cons step rest ih =>
    obtain ⟨first, made, after⟩ := scoring_run step b
    obtain ⟨others, madeOthers, last⟩ := ih (step.run b).state
    refine ⟨first ++ others, List.rel_append made madeOthers, ?_⟩
    rw [final, Outcome.last_each_cons]
    rw [final] at last
    rw [last, after, List.append_assoc]

end BenchStep

theorem BoolQuery.toJson_of_isEmpty {q : BoolQuery} (empty : q.isEmpty = true) :
    q.toJson = .ok (Object.only "match_all" (.obj [])) := by
  obtain ⟨must, should, mustNot, filter, minimumShouldMatch, boost, options⟩ := q
  rw [toJson, if_pos empty]
  rfl

namespace Addition

variable {x : Addition} {function : ScoreFunction}

theorem get?_weighted {spec entries : Object} {weight : Json}
    (made : ScoreFunction.weighted (.obj spec) weight = .ok (.obj entries)) :
    (weight ≠ .null → entries.get? "weight" = some weight) ∧
      ∀ key, (key = "weight" → weight = .null) → entries.get? key = spec.get? key := by
  unfold ScoreFunction.weighted at made
  split at made
  · rename_i null
    cases made
    exact ⟨fun given => absurd (Json.isNull_iff.mp null) given, fun _ _ => rfl⟩
  · rename_i given
    cases made
    refine ⟨fun _ => by rw [Object.get?_set, if_pos rfl], fun key absent => ?_⟩
    rw [Object.get?_set, if_neg fun same => given (Json.isNull_iff.mpr (absent same))]

theorem writes_of_makes (makes : x.Makes function) (writable : x.Writable) :
    ∃ entry, function.toJson = .ok (.obj entry) ∧ x.Writes entry := by
  obtain ⟨draft, drafted, rfl⟩ := makes
  have weight : draft.weight = x.weight := ScoreDraft.weight_of_ok drafted
  have specifies := ScoreDraft.specifies_of_ok drafted
  -- The filter is set last, so without one the entries are those with the weight.
  obtain ⟨entries, made⟩ := ScoreFunction.weighted_obj draft.spec draft.weight
  obtain ⟨weighted, own⟩ := get?_weighted made
  rw [weight] at weighted own
  cases filter : x.filter with
  | none =>
    refine ⟨entries, ?_, ⟨_, specifies, fun key light _ => own key light⟩, weighted, ?_⟩
    · simp only [ScoreDraft.filteredBy, ScoreFunction.toJson, made, bind_ok, Option.map_none,
        filterToJson]
    · rw [filter]
      rintro _ ⟨⟩
  | some steps =>
    obtain ⟨json, written⟩ := writable steps filter
    refine ⟨Object.set entries "filter" json, ?_, ⟨_, specifies, fun key light free => ?_⟩,
      fun given => ?_, fun others same => ?_⟩
    · simp only [ScoreDraft.filteredBy, ScoreFunction.toJson, made, bind_ok, Option.map_some,
        filterToJson, written]
      rfl
    · have other : key ≠ "filter" := fun same => by
        rw [free same] at filter
        cases filter
      rw [Object.get?_set, if_neg other]
      exact own key light
    · rw [Object.get?_set, if_neg (by decide)]
      exact weighted given
    · cases filter.symm.trans same
      refine ⟨json, written, by rw [Object.get?_set, if_pos rfl], fun empty => ?_⟩
      rw [BoolQuery.toJson_of_isEmpty empty] at written
      exact (Except.ok.inj written).symm

theorem functionsToJson_of_makes {additions : List Addition} {functions : List ScoreFunction}
    (makes : List.Forall₂ Makes additions functions) (writable : ∀ x ∈ additions, x.Writable) :
    ∃ entries : List Object, functionsToJson functions = .ok (entries.map .obj) ∧
      List.Forall₂ Writes additions entries := by
  induction makes with
  | nil => exact ⟨[], rfl, .nil⟩
  | cons made _ ih =>
    obtain ⟨first, others⟩ := List.forall_mem_cons.mp writable
    obtain ⟨entry, written, writes⟩ := writes_of_makes made first
    obtain ⟨entries, writtenOthers, writesOthers⟩ := ih others
    refine ⟨entry :: entries, ?_, .cons writes writesOthers⟩
    rw [functionsToJson, written, bind_ok, writtenOthers]
    rfl

end Addition

theorem ScoreBench.scoring_of_start {w : World} {inner : Search} {parameters : Json}
    {b : ScoreBench} {further : Object} (started : start w inner parameters = .ok b)
    (given : parameters.orEmpty = .obj further) :
    b.scoring = ⟨inner.document.query, further, []⟩ := by
  obtain ⟨scoring, taken, same⟩ := bind_eq_ok.mp started
  cases same
  obtain ⟨entries, accepted, same⟩ := bind_eq_ok.mp taken
  cases same
  rw [Scoring.parametersOf, given] at accepted
  obtain ⟨_, _, accepted⟩ := bind_eq_ok.mp accepted
  obtain ⟨_, _, same⟩ := bind_eq_ok.mp accepted
  cases same
  rfl

namespace BenchStep

/-- A scoring is written with the query that its search had when the scoring was taken from it,
with one entry for each function that was added since, in order, and with its parameters. What is
done with the search in the meantime has no part in it, and neither has a step that fails. -/
theorem scored_query_written {w : World} {inner : Search} {parameters : Json} {b : ScoreBench}
    {further : Object} {query : Json} (started : ScoreBench.start w inner parameters = .ok b)
    (given : parameters.orEmpty = .obj further)
    (apart : "query" ∉ further.keys ∧ "functions" ∉ further.keys) (steps : List BenchStep)
    (written : inner.document.query.toJson = .ok query)
    (writable : ∀ x ∈ additions steps b, x.Writable) :
    ∃ entries : List Object, List.Forall₂ Addition.Writes (additions steps b) entries ∧
      ((score (.query [])).run (final steps b)).result =
        .ok (.clause (.ok (Object.only "function_score" (.obj
          ([("query", query), ("functions", .arr (entries.map .obj))] ++ further))))) := by
  obtain ⟨functions, makes, after⟩ := scoring_final steps b
  rw [ScoreBench.scoring_of_start started given] at after
  obtain ⟨entries, listed, writes⟩ := Addition.functionsToJson_of_makes makes writable
  refine ⟨entries, writes, ?_⟩
  have clause : (final steps b).scoring.clause.toJson =
      .ok (Object.only "function_score" (.obj
        (Object.merge [("query", query), ("functions", .arr (entries.map .obj))] further))) := by
    rw [after, Scoring.clause, Clause.toJson, written, bind_ok, List.nil_append, listed]
    rfl
  have joined : Object.merge [("query", query), ("functions", .arr (entries.map .obj))] further =
      [("query", query), ("functions", .arr (entries.map .obj))] ++ further :=
    Object.merge_of_apart
      (List.forall_mem_cons.mpr ⟨apart.1, List.forall_mem_singleton.mpr apart.2⟩)
  rw [joined] at clause
  change Except.ok (Answer.clause (final steps b).scoring.clause.toJson) = _
  rw [clause]

/-- Steps on a scoring and on its search: a function with a weight and a filter, one whose filter
cannot be built, and one that is spelled out, with a filter over its own. -/
def interleaved : List BenchStep :=
  [.score (.add .fieldValueFactor [("field", .str "rank"), ("weight", .int 2)]
     (some [.leaf .present [("fields", .str "stock")]])),
   .inner [.leaf .present [("fields", .str "brand")], .unknown],
   .score (.add .randomScore [] (some [.leaf .present [("fields", .str "stock")], .unknown])),
   .score (.add .raw [("function", .obj [("filter", .int 1), ("weight", .int 3)])] (some []))]

def priced : Search := .add .fresh (.leaf (.present "price"))

def pricedBench : ScoreBench :=
  ⟨.isolated, priced, ⟨priced.document.query, [("score_mode", .str "sum")], []⟩⟩

theorem scored_query_written_interleaved :
    ScoreBench.start .isolated priced (.obj [("score_mode", .str "sum")]) = .ok pricedBench ∧
    (additions interleaved pricedBench).map (·.kind) = [.fieldValueFactor, .raw] ∧
    ∃ entries : List Object,
      List.Forall₂ Addition.Writes (additions interleaved pricedBench) entries ∧
      entries.map (·.field "field_value_factor") =
        [.obj [("field", .str "rank"), ("factor", .float .one), ("modifier", .str "none")],
         .null] ∧
      entries.map (·.field "weight") = [.int 2, .int 3] ∧
      entries.map (·.field "filter") =
        [Object.only "exists" (.obj [("field", .str "stock")]),
         Object.only "match_all" (.obj [])] ∧
      ((score (.query [])).run (final interleaved pricedBench)).result =
        .ok (.clause (.ok (Object.only "function_score" (.obj
          ([("query", Object.only "exists" (.obj [("field", .str "price")])),
            ("functions", .arr (entries.map .obj))] ++ [("score_mode", .str "sum")]))))) := by
  have started : ScoreBench.start .isolated priced (.obj [("score_mode", .str "sum")]) =
      .ok pricedBench := rfl
  have writable : ∀ x ∈ additions interleaved pricedBench, x.Writable := by
    refine List.forall_mem_cons.mpr ⟨?_, List.forall_mem_singleton.mpr ?_⟩
    · rintro _ ⟨⟩
      exact ⟨_, rfl⟩
    · rintro _ ⟨⟩
      exact ⟨_, rfl⟩
  obtain ⟨entries, writes, answered⟩ :=
    scored_query_written started rfl (by decide) interleaved rfl writable
  refine ⟨started, rfl, entries, writes, ?_, ?_, ?_, answered⟩
  · obtain _ | ⟨ranked, _ | ⟨spelled, ⟨⟩⟩⟩ := writes
    obtain ⟨_, rfl, factor⟩ := ranked.own
    obtain ⟨_, ⟨table, counts, rfl⟩, own⟩ := spelled.own
    obtain ⟨⟩ : Json.Reads (.obj [("filter", .int 1), ("weight", .int 3)]) table := counts
    have first := factor "field_value_factor" (by decide) (by decide)
    have second := own "field_value_factor" (by decide) (by decide)
    simp only [List.map_cons, List.map_nil, Object.field, first, second]
    rfl
  · obtain _ | ⟨ranked, _ | ⟨spelled, ⟨⟩⟩⟩ := writes
    have first := ranked.weighted (by decide)
    obtain ⟨_, ⟨table, counts, rfl⟩, own⟩ := spelled.own
    obtain ⟨⟩ : Json.Reads (.obj [("filter", .int 1), ("weight", .int 3)]) table := counts
    have second := own "weight" (fun _ => rfl) (by decide)
    simp only [List.map_cons, List.map_nil, Object.field, first, second]
    rfl
  · obtain _ | ⟨ranked, _ | ⟨spelled, ⟨⟩⟩⟩ := writes
    obtain ⟨stocked, builtStocked, first, _⟩ := ranked.filtered _ rfl
    obtain ⟨empty, _, second, everything⟩ := spelled.filtered [] rfl
    cases builtStocked
    rw [everything rfl] at second
    simp only [List.map_cons, List.map_nil, Object.field, first, second]
    rfl

end BenchStep

end SearchRequest
