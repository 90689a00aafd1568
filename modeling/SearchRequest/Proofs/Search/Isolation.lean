import SearchRequest.Proofs.Search.History
import SearchRequest.Proofs.Search.Thinning

/-!
Sub-searches are isolated. A step that builds a clause by steps of its own adds that clause and
changes nothing else; the clause depends on the steps that shape a query alone, unless something is
sent on the way; and a failure anywhere inside leaves the outer search as it was.
-/

namespace SearchRequest

def Edit.shapesQuery : Edit → Bool
  | .role _ | .minimumShouldMatch | .boost => true
  | _ => false

namespace SearchStep

/-- A step that switches the role, sets a parameter of the query or adds clauses. -/
def shapesQuery : SearchStep → Bool
  | .edit e _ => e.shapesQuery
  | .leaf .. | .append _ | .nested .. | .functions .. => true
  | _ => false

end SearchStep

theorem Edit.core_change {e : Edit} (other : e.shapesQuery = false) {args : Object}
    {change : Change} (made : e.change args = .ok change) (s : Search) :
    (s.apply change).core = s.core := by
  obtain ⟨a, _, made⟩ := bind_eq_ok.mp made
  cases e with
  | role role => cases other
  | minimumShouldMatch => cases other
  | boost => cases other
  | _ =>
    obtain ⟨value, _, same⟩ := bind_eq_ok.mp made
    cases same
    rfl

namespace SearchStep

theorem core_of_not_shapesQuery {step : SearchStep} (other : step.shapesQuery = false) (w : World)
    (s : Search) : (step.run w s).state.2.core = s.core := by
  rw [search_run]
  cases step with
  | edit e args =>
    simp only [changes, withAggregations]
    cases made : e.change args with
    | error failure => rfl
    | ok change => exact Edit.core_change other made s
  | paginate args => exact core_pageChanges w args s
  | leaf kind args => cases other
  | append spec => cases other
  | nested args build => cases other
  | functions args build score => cases other
  | aggregate args build => exact core_withAggregations (.aggregate args build) s
  | _ => rfl

/-- A step that adds no clause of its own making and is done silently is done alike in any world. -/
theorem gives_in_any_world {step : SearchStep} (simple : ∀ c : Composite, c.step ≠ step)
    {w : World} {s : Search} {answer : Answer} {after : World × Search}
    (done : (step.run w s).Gives answer after) (v : World) :
    (step.run v s).Gives answer (v, after.2) := by
  cases step with
  | edit e args =>
    obtain ⟨change, made, rfl, rfl⟩ := gives_changed.mp done
    exact gives_changed.mpr ⟨change, made, rfl, rfl⟩
  | leaf kind args =>
    obtain ⟨change, made, rfl, rfl⟩ := gives_changed.mp done
    exact gives_changed.mpr ⟨change, made, rfl, rfl⟩
  | append spec =>
    obtain ⟨change, made, rfl, rfl⟩ := gives_changed.mp done
    exact gives_changed.mpr ⟨change, made, rfl, rfl⟩
  | nested args build => exact absurd rfl (simple (.nested args build))
  | functions args build score => exact absurd rfl (simple (.functions args build score))
  | aggregate args build =>
    simp only [run, aggregated] at done ⊢
    split at done
    · exact absurd done Outcome.not_gives_fail
    · exact absurd done Outcome.not_gives_fail
    · rename_i a steps bound
      obtain ⟨_, state, within, added⟩ := Outcome.gives_andThen.mp done
      obtain ⟨d, ran, rfl⟩ := Outcome.gives_within.mp within
      obtain ⟨rfl, rfl⟩ := Outcome.gives_succeed.mp added
      exact Outcome.gives_andThen.mpr ⟨(), (v, s.withDocument d),
        Outcome.gives_within.mpr ⟨d, ran, rfl⟩, Outcome.gives_succeed.mpr ⟨rfl, rfl⟩⟩
  | view part args =>
    obtain ⟨result, rfl, silent⟩ := done
    exact ⟨result, rfl, silent⟩
  | observe =>
    obtain ⟨result, rfl, silent⟩ := done
    exact ⟨result, rfl, silent⟩
  -- What asks the cluster is never silent.
  | fetch args => exact absurd done (not_gives_of_asks rfl)
  | execute args => exact absurd done (not_gives_of_asks rfl)
  | paginate args => exact absurd done (not_gives_of_asks rfl)
  | part => exact absurd done Outcome.not_gives_fail
  | unknown => exact absurd done Outcome.not_gives_fail

theorem core_of_shapesQuery {step : SearchStep} (shapes : step.shapesQuery = true)
    (simple : ∀ c : Composite, c.step ≠ step) {w : World} {s t : Search}
    (same : s.core = t.core) {answer : Answer} {after : World × Search}
    (done : (step.run w s).Gives answer after) (v : World) :
    ∃ t', (step.run v t).Gives .nothing (v, t') ∧ after.2.core = t'.core := by
  have changed {attempt : Except Failure Change}
      (done : (changed w s attempt).Gives answer after) :
      ∃ t', (changed v t attempt).Gives .nothing (v, t') ∧ after.2.core = t'.core := by
    obtain ⟨change, made, _, rfl⟩ := gives_changed.mp done
    exact ⟨t.apply change, gives_changed.mpr ⟨change, made, rfl, rfl⟩,
      Search.core_apply same change⟩
  cases step with
  | edit e args => exact changed done
  | leaf kind args => exact changed done
  | append spec => exact changed done
  | nested args build => exact absurd rfl (simple (.nested args build))
  | functions args build score => exact absurd rfl (simple (.functions args build score))
  | _ => cases shapes

end SearchStep

namespace Thinning

def all : Thinning where
  keeps _ := true
  Alike := Eq
  fresh := rfl
  query same := congrArg (·.document.query) same
  add same clause := congrArg (·.add clause) same
  composite _ := rfl
  kept _ simple same done v := by
    subst same
    exact ⟨_, _, SearchStep.gives_in_any_world simple done v, rfl⟩
  dropped none := nomatch none

def shaping : Thinning where
  keeps := SearchStep.shapesQuery
  Alike s t := s.core = t.core
  fresh := rfl
  query same := congrArg Prod.snd same
  add same clause := Search.core_add same clause
  composite c := by cases c <;> rfl
  kept shapes simple same done v := by
    obtain ⟨t', done', same'⟩ := SearchStep.core_of_shapesQuery shapes simple same done v
    exact ⟨.nothing, t', done', same'⟩
  dropped other same done := by
    rw [← done.state, SearchStep.core_of_not_shapesQuery other, same]

theorem thinnedAll_all {steps : List SearchStep}
    (each : ∀ step ∈ steps, step.thinned (fun _ => true) = step) :
    SearchStep.thinnedAll (fun _ => true) steps = steps := by
  induction steps with
  | nil => rfl
  | cons step rest ih =>
    obtain ⟨first, others⟩ := List.forall_mem_cons.mp each
    rw [SearchStep.thinnedAll, if_pos rfl, first, ih others]

theorem thinnedAll_all_onScoring {steps : List ScoreStep}
    (each : ∀ step ∈ steps, step.thinned (fun _ => true) = step) :
    ScoreStep.thinnedAll (fun _ => true) steps = steps := by
  induction steps with
  | nil => rfl
  | cons step rest ih =>
    obtain ⟨first, others⟩ := List.forall_mem_cons.mp each
    rw [ScoreStep.thinnedAll, first, ih others]

theorem thinned_all : (∀ step : SearchStep, step.thinned (fun _ => true) = step) ∧
    (∀ step : ScoreStep, step.thinned (fun _ => true) = step) := by
  refine steps_induction ?_ ?_
  · intro step building scoring
    cases step with
    | nested args build =>
      cases build with
      | none => rfl
      | some steps =>
        have same : SearchStep.thinnedAll (fun _ => true) steps = steps := thinnedAll_all building
        simp only [SearchStep.thinned, SearchStep.thinnedGiven, same]
    | functions args build score =>
      have same : SearchStep.thinnedGiven (fun _ => true) build = build := by
        cases build with
        | none => rfl
        | some steps => cases score <;> exact congrArg some (thinnedAll_all building)
      have sameScore : ScoreStep.thinnedGiven (fun _ => true) score = score := by
        cases score with
        | none => rfl
        | some steps => cases build <;> exact congrArg some (thinnedAll_all_onScoring scoring)
      rw [SearchStep.thinned, same, sameScore]
    | _ => simp only [SearchStep.thinned]
  · intro step filtering
    cases step with
    | add kind args filter =>
      cases filter with
      | none => rfl
      | some steps =>
        have same : SearchStep.thinnedAll (fun _ => true) steps = steps := thinnedAll_all filtering
        simp only [ScoreStep.thinned, SearchStep.thinnedGiven, same]
    | _ => simp only [ScoreStep.thinned]

end Thinning

/-- One clause at the end of the list of the current role, and nothing else. -/
structure Search.ExtendedBy (before : Search) (clause : Clause) (after : Search) : Prop where
  role : after.role = before.role
  index : after.index = before.index
  docType : after.docType = before.docType
  clauses (role : Role) : after.document.query.clauses role =
    before.document.query.clauses role ++ if before.role = role then [clause] else []
  settings : after.document.query.settings = before.document.query.settings
  aggregations : after.document.aggregations = before.document.aggregations
  sorts : after.document.sorts = before.document.sorts
  highlight : after.document.highlight = before.document.highlight
  offset : after.document.offset = before.document.offset
  size : after.document.size = before.document.size
  minScore : after.document.minScore = before.document.minScore
  source : after.document.source = before.document.source

theorem Search.extendedBy_add (s : Search) (clause : Clause) : s.ExtendedBy clause (s.add clause) :=
  ⟨rfl, rfl, rfl, BoolQuery.clauses_add s.document.query s.role clause,
    BoolQuery.settings_add s.document.query s.role clause, rfl, rfl, rfl, rfl, rfl, rfl, rfl⟩

namespace ScoreStep

theorem runAll_append (first second : List ScoreStep) (w : World) (s : Scoring) :
    runAll (first ++ second) w s =
      (runAll first w s).andThen fun _ state => runAll second state.1 state.2 := by
  induction first generalizing w s with
  | nil => rw [List.nil_append, runAll, Outcome.succeed_andThen]
  | cons step rest ih =>
    rw [List.cons_append, runAll, runAll, Outcome.andThen_assoc]
    simp only [ih]

theorem result_of_failed_filter {kind : ScoreKind} {args : Object} {filter : List SearchStep}
    {earlier later : List ScoreStep} {w : World} {start : Scoring} {draft : ScoreDraft}
    {failure : Failure} (reached : (runAll earlier w start).result = .ok ())
    (drafted : ScoreDraft.of kind args = .ok draft)
    (failed : (SearchStep.runAll filter (runAll earlier w start).state.1 .fresh).result =
      .error failure) :
    (runAll (earlier ++ .add kind args (some filter) :: later) w start).result =
      .error failure := by
  have step : (run (.add kind args (some filter)) (runAll earlier w start).state.1
      (runAll earlier w start).state.2).result = .error failure := by
    simp only [run, drafted]
    rw [Outcome.andThen_of_error (Outcome.result_handedTo_of_error failed _)]
  rw [runAll_append, Outcome.andThen_of_ok reached, runAll, Outcome.andThen_of_error step]

end ScoreStep

namespace Composite

/-- The places where building a clause can fail once its arguments are accepted: a step of a
callback, the clause itself, and a step that builds the filter of a scoring function. -/
inductive FailsAt (w : World) : Composite → Failure → Prop
  | callback {args a : Object} {steps : List SearchStep} {failure : Failure}
      (bound : Search.nestedSignature.bind args = .ok a)
      (failed : (SearchStep.runAll steps w .fresh).result = .error failure) :
      FailsAt w (.nested args (some steps)) failure
  | nestedClause {args a : Object} {steps : List SearchStep} {failure : Failure}
      (bound : Search.nestedSignature.bind args = .ok a)
      (ran : (SearchStep.runAll steps w .fresh).result = .ok ())
      (refused : Clause.nested? (a.field "field")
        (SearchStep.runAll steps w .fresh).state.2.document.query (a.field "score_mode")
        (.obj []) = .error failure) :
      FailsAt w (.nested args (some steps)) failure
  | queryCallback {args a : Object} {steps : List SearchStep} {scoring : List ScoreStep}
      {failure : Failure} (bound : Search.functionsSignature.bind args = .ok a)
      (failed : (SearchStep.runAll steps w .fresh).result = .error failure) :
      FailsAt w (.functions args (some steps) (some scoring)) failure
  | scoredClause {args a : Object} {steps : List SearchStep} {scoring : List ScoreStep}
      {failure : Failure} (bound : Search.functionsSignature.bind args = .ok a)
      (ran : (SearchStep.runAll steps w .fresh).result = .ok ())
      (refused : Scoring.start (SearchStep.runAll steps w .fresh).state.2.document.query
        (a.field "parameters") = .error failure) :
      FailsAt w (.functions args (some steps) (some scoring)) failure
  | scoreCallback {args a : Object} {steps : List SearchStep} {scoring : List ScoreStep}
      {start : Scoring} {failure : Failure}
      (bound : Search.functionsSignature.bind args = .ok a)
      (ran : (SearchStep.runAll steps w .fresh).result = .ok ())
      (started : Scoring.start (SearchStep.runAll steps w .fresh).state.2.document.query
        (a.field "parameters") = .ok start)
      (failed : (ScoreStep.runAll scoring (SearchStep.runAll steps w .fresh).state.1 start).result =
        .error failure) :
      FailsAt w (.functions args (some steps) (some scoring)) failure
  | filterCallback {args a kindArgs : Object} {kind : ScoreKind} {steps filter : List SearchStep}
      {earlier later : List ScoreStep} {start : Scoring} {draft : ScoreDraft} {failure : Failure}
      (bound : Search.functionsSignature.bind args = .ok a)
      (ran : (SearchStep.runAll steps w .fresh).result = .ok ())
      (started : Scoring.start (SearchStep.runAll steps w .fresh).state.2.document.query
        (a.field "parameters") = .ok start)
      (reached :
        (ScoreStep.runAll earlier (SearchStep.runAll steps w .fresh).state.1 start).result =
          .ok ())
      (drafted : ScoreDraft.of kind kindArgs = .ok draft)
      (failed : (SearchStep.runAll filter
        (ScoreStep.runAll earlier (SearchStep.runAll steps w .fresh).state.1 start).state.1
        .fresh).result = .error failure) :
      FailsAt w
        (.functions args (some steps) (some (earlier ++ .add kind kindArgs (some filter) :: later)))
        failure

theorem clause_of_failsAt {c : Composite} {w : World} {failure : Failure}
    (fails : c.FailsAt w failure) : c.clause w = .error failure := by
  cases fails with
  | callback bound failed =>
    simp only [clause, bound, stepsFor, bind_ok, failed, bind_error]
  | nestedClause bound ran refused =>
    simp only [clause, bound, stepsFor, bind_ok, ran, refused]
  | queryCallback bound failed =>
    simp only [clause, bound, stepsFor, bind_ok, failed, bind_error]
  | scoredClause bound ran refused =>
    simp only [clause, bound, stepsFor, bind_ok, ran, refused, bind_error]
  | scoreCallback bound ran started failed =>
    simp only [clause, bound, stepsFor, bind_ok, ran, started, failed, bind_error]
  | filterCallback bound ran started reached drafted failed =>
    simp only [clause, bound, stepsFor, bind_ok, ran, started,
      ScoreStep.result_of_failed_filter reached drafted failed, bind_error]

/-- Built silently in one world, a clause is built alike in every world, also by those steps alone
that shape a query. -/
theorem clause_of_silent {c : Composite} {w : World} {s : Search} {clause : Clause}
    (built : c.clause w = .ok clause) (silent : (c.step.run w s).report.requests = []) (v : World) :
    c.clause v = .ok clause ∧ (c.thinned SearchStep.shapesQuery).clause v = .ok clause := by
  have result := (c.run_step w s).result
  rw [built] at result
  obtain ⟨clause', builds, _, _⟩ := gives_step.mp ⟨result, rfl, silent⟩
  have same : clause' = clause := by
    have again := clause_of_builds builds
    rw [built] at again
    exact (Except.ok.inj again).symm
  subst same
  have whole : c.thinned Thinning.all.keeps = c := step_injective <| by
    rw [step_thinned]
    exact Thinning.thinned_all.1 c.step
  refine ⟨?_, Thinning.shaping.clause_thinned builds v⟩
  have every := Thinning.all.clause_thinned builds v
  rwa [whole] at every

/-- A step that builds a clause by steps of its own gives its clause or fails with the clause. The
clause goes to the end of the list of the current role and nothing else changes; built silently it
is the same in every world and for every search, and no other steps than those that shape a query
have a part in it. A failure, wherever it happens, leaves the search as it was. -/
theorem isolated (c : Composite) (w : World) (s : Search) :
    let o := c.step.run w s
    o.result = (c.clause w).map (fun _ => .nothing) ∧
      (∀ clause, c.clause w = .ok clause → s.ExtendedBy clause o.state.2 ∧
        (o.report.requests = [] → ∀ v, c.clause v = .ok clause ∧
          (c.thinned SearchStep.shapesQuery).clause v = .ok clause)) ∧
      (∀ failure, c.clause w = .error failure → o.state.2 = s) ∧
      (∀ failure, c.FailsAt w failure → o.result = .error failure ∧ o.state.2 = s) := by
  intro o
  have adds := c.run_step w s
  have unchanged {failure : Failure} (failed : c.clause w = .error failure) : o.state.2 = s := by
    rw [adds.search, failed]
    rfl
  refine ⟨adds.result, ?_, fun failure => unchanged, ?_⟩
  · intro clause built
    refine ⟨?_, clause_of_silent built⟩
    rw [adds.search, built]
    exact s.extendedBy_add clause
  · intro failure fails
    have failed := clause_of_failsAt fails
    exact ⟨by rw [adds.result, failed]; rfl, unchanged failed⟩

def layered : Composite :=
  .functions [("query_callback", .null), ("score_callback", .null)]
    (some [.edit .index [("index", .str "orders")],
      .edit (.role .should) [],
      .nested [("field", .str "lines"), ("callback", .null)]
        (some [.edit .sortBy [("fields", .str "price")],
          .leaf .term [("field", .str "lines.color"), ("value", .str "black")]]),
      .view .body []])
    (some [.add .weight [("weight", .int 2), ("filter_", .null)]
      (some [.edit .size [("limit", .int 5)],
        .leaf .present [("fields", .str "brand")]])])

def layeredJson : Json :=
  Object.only "function_score" (.obj
    [("query", Object.only "bool" (.obj [("should", .arr [Object.only "nested" (.obj
        [("path", .str "lines"),
         ("query", Object.only "term" (.obj [("lines.color", .str "black")])),
         ("score_mode", .str "avg")])])])),
     ("functions", .arr [.obj
        [("weight", .int 2),
         ("filter", Object.only "exists" (.obj [("field", .str "brand")]))]])])

theorem isolated_of_layered : ∃ clause, clause.toJson = .ok layeredJson ∧
    ∀ v, layered.clause v = .ok clause ∧
      (layered.thinned SearchStep.shapesQuery).clause v = .ok clause := by
  obtain ⟨clause, built, json⟩ :
      ∃ clause, layered.clause .isolated = .ok clause ∧ clause.toJson = .ok layeredJson :=
    ⟨_, rfl, rfl⟩
  obtain ⟨_, added, _⟩ := isolated layered .isolated .fresh
  exact ⟨clause, json, (added clause built).2 rfl⟩

end Composite

end SearchRequest
