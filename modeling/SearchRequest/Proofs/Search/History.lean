import SearchRequest.Proofs.Arguments
import SearchRequest.Proofs.Search.Change

/-!
The history of a run. The clauses that its successful steps add are read off their arguments, each
under the role that was switched to last before it, and so are the values that they set last; the
changes that the steps make are the same clauses and the same values.
-/

namespace SearchRequest

def under {α : Type} (role : Role) (entries : List (Role × α)) : List α :=
  entries.filterMap fun entry => if entry.1 = role then some entry.2 else none

@[simp] theorem under_append {α : Type} (role : Role) (first second : List (Role × α)) :
    under role (first ++ second) = under role first ++ under role second :=
  List.filterMap_append

@[simp] theorem under_cons {α : Type} (role : Role) (entry : Role × α) (rest : List (Role × α)) :
    under role (entry :: rest) =
      (if entry.1 = role then [entry.2] else []) ++ under role rest := by
  by_cases same : entry.1 = role <;> simp [under, same]

theorem under_map {α : Type} (role current : Role) (elements : List α) :
    under role (elements.map fun element => (current, element)) =
      if current = role then elements else [] := by
  induction elements with
  | nil => simp [under]
  | cons element rest ih => rw [List.map_cons, under_cons, ih]; split <;> rfl

namespace Change

def tagged : Role → List Change → List (Role × Clause)
  | _, [] => []
  | _, .role next :: rest => tagged next rest
  | current, .clauses added :: rest =>
      added.map (fun clause => (current, clause)) ++ tagged current rest
  | current, _ :: rest => tagged current rest

def minimumAfter (before : Json) : Change → Json
  | .minimumShouldMatch value => value
  | _ => before

def boostAfter (before : Json) : Change → Json
  | .boost value => value
  | _ => before

end Change

namespace SearchStep

def final (steps : List SearchStep) (state : World × Search) : World × Search :=
  Outcome.last (Outcome.each (fun step state => SearchStep.run step state.1 state.2) steps state)
    state

def contribution (step : SearchStep) (w : World) (s : Search) : List Change :=
  match (step.run w s).result with
  | .ok _ => step.changes w
  | .error _ => []

def history : List SearchStep → World × Search → List Change
  | [], _ => []
  | step :: rest, state =>
      step.contribution state.1 state.2 ++ history rest (step.run state.1 state.2).state

end SearchStep

theorem SearchStep.final_invariant {P : World × Search → Prop} {steps : List SearchStep}
    (keeps : ∀ step ∈ steps, ∀ state, P state → P (step.run state.1 state.2).state)
    {state : World × Search} (start : P state) : P (final steps state) := by
  induction steps generalizing state with
  | nil => exact start
  | cons step rest ih =>
    obtain ⟨first, others⟩ := List.forall_mem_cons.mp keeps
    rw [final, Outcome.last_each_cons]
    exact ih others (first state start)

namespace Search

/-- The part of a search that its query is written from, and the role of the next clauses. -/
def core (s : Search) : Role × BoolQuery := (s.role, s.document.query)

theorem core_add {s t : Search} (same : s.core = t.core) (clause : Clause) :
    (s.add clause).core = (t.add clause).core := by
  obtain ⟨role, query⟩ := Prod.mk.inj same
  simp only [core, add, role, query]

theorem core_addAll {s t : Search} (same : s.core = t.core) (added : List Clause) :
    (s.addAll added).core = (t.addAll added).core := by
  induction added generalizing s t with
  | nil => exact same
  | cons clause rest ih => exact ih (core_add same clause)

theorem core_apply {s t : Search} (same : s.core = t.core) (change : Change) :
    (s.apply change).core = (t.apply change).core := by
  obtain ⟨role, query⟩ := Prod.mk.inj same
  cases change with
  | clauses added => exact core_addAll same added
  | _ => simp only [core, apply, withDocument, role, query]

theorem core_applyAll {s t : Search} (same : s.core = t.core) (changes : List Change) :
    (s.applyAll changes).core = (t.applyAll changes).core := by
  induction changes generalizing s t with
  | nil => exact same
  | cons change rest ih => exact ih (core_apply same change)

end Search

namespace BoolQuery

theorem clauses_add (q : BoolQuery) (current : Role) (clause : Clause) (role : Role) :
    (q.add current clause).clauses role =
      q.clauses role ++ if current = role then [clause] else [] := by
  cases current <;> cases role <;> simp [add, clauses]

def settings (q : BoolQuery) : Json × Json × Json := (q.minimumShouldMatch, q.boost, q.options)

@[simp] theorem settings_add (q : BoolQuery) (role : Role) (clause : Clause) :
    (q.add role clause).settings = q.settings := by
  cases role <;> rfl

end BoolQuery

namespace Search

@[simp] theorem role_addAll (s : Search) (added : List Clause) :
    (s.addAll added).role = s.role := by
  induction added generalizing s with
  | nil => rfl
  | cons clause rest ih => exact ih (s.add clause)

@[simp] theorem settings_addAll (s : Search) (added : List Clause) :
    (s.addAll added).document.query.settings = s.document.query.settings := by
  induction added generalizing s with
  | nil => rfl
  | cons clause rest ih =>
    exact (ih (s.add clause)).trans (BoolQuery.settings_add s.document.query s.role clause)

theorem clauses_addAll (s : Search) (added : List Clause) (role : Role) :
    (s.addAll added).document.query.clauses role =
      s.document.query.clauses role ++ if s.role = role then added else [] := by
  induction added generalizing s with
  | nil => simp [addAll]
  | cons clause rest ih =>
    have next := ih (s.add clause)
    have first := BoolQuery.clauses_add s.document.query s.role clause role
    change ((s.add clause).addAll rest).document.query.clauses role = _
    rw [next]
    change (s.document.query.add s.role clause).clauses role ++
      (if s.role = role then rest else []) = _
    rw [first]
    split <;> simp

theorem clauses_applyAll (s : Search) (changes : List Change) (role : Role) :
    (s.applyAll changes).document.query.clauses role =
      s.document.query.clauses role ++ under role (Change.tagged s.role changes) := by
  induction changes generalizing s with
  | nil => simp [Change.tagged, under]
  | cons change rest ih =>
    rw [applyAll_cons, ih]
    cases change with
    | clauses added =>
      simp only [apply, Change.tagged, role_addAll, clauses_addAll, under_append, under_map,
        List.append_assoc]
    | _ => rfl

theorem settings_applyAll (s : Search) (changes : List Change) :
    (s.applyAll changes).document.query.settings =
      (changes.foldl Change.minimumAfter s.document.query.minimumShouldMatch,
       changes.foldl Change.boostAfter s.document.query.boost, s.document.query.options) := by
  induction changes generalizing s with
  | nil => rfl
  | cons change rest ih =>
    rw [applyAll_cons, ih]
    cases change with
    | clauses added =>
      have same := settings_addAll s added
      simp only [BoolQuery.settings, Prod.mk.injEq] at same
      simp only [apply, List.foldl_cons, Change.minimumAfter, Change.boostAfter, same]
    | _ => rfl

@[simp] theorem aggregations_addAll (s : Search) (added : List Clause) :
    (s.addAll added).document.aggregations = s.document.aggregations := by
  induction added generalizing s with
  | nil => rfl
  | cons clause rest ih => exact ih (s.add clause)

theorem aggregations_applyAll (s : Search) (changes : List Change) :
    (s.applyAll changes).document.aggregations = s.document.aggregations := by
  induction changes generalizing s with
  | nil => rfl
  | cons change rest ih =>
    rw [applyAll_cons, ih]
    cases change with
    | clauses added => exact aggregations_addAll s added
    | _ => rfl

end Search

namespace AggregationStep

theorem query_run (step : AggregationStep) (d : Document) :
    (step.run d).state.query = d.query := by
  cases step with
  | add kind args => simp only [run]; cases kind.request args <;> rfl
  | append spec => simp only [run]; cases Aggregation.ofJson spec <;> rfl
  | _ => rfl

theorem query_runAll (steps : List AggregationStep) (d : Document) :
    (runAll steps d).state.query = d.query := by
  induction steps generalizing d with
  | nil => rfl
  | cons step rest ih =>
    have first := query_run step d
    rw [runAll]
    exact Outcome.andThen_invariant (P := fun after : Document => after.query = d.query) first
      fun _ => (ih _).trans first

end AggregationStep

namespace SearchStep

theorem core_withAggregations (step : SearchStep) (s : Search) :
    (step.withAggregations s).core = s.core := by
  unfold withAggregations
  split
  · split
    · rfl
    · simp only [Search.core, Search.withDocument, AggregationStep.query_runAll]
  · rfl

theorem core_pageChanges (w : World) (args : Object) (s : Search) :
    (s.applyAll (pageChanges w args)).core = s.core := by
  unfold pageChanges
  split
  · rfl
  · split <;> rfl

theorem changes_of_failed {step : SearchStep} {w : World} {s : Search} {failure : Failure}
    (failed : (step.run w s).result = .error failure) (unpaged : ∀ args, step ≠ .paginate args) :
    step.changes w = [] := by
  have refused {attempt : Except Failure Change}
      (result : (attempt.map fun _ => Answer.nothing) = .error failure) :
      granted attempt = [] := by
    cases attempt with
    | error _ => rfl
    | ok _ => cases result
  have refusedClause {attempt : Except Failure Clause}
      (result : (attempt.map fun _ => Answer.nothing) = .error failure) :
      granted (added attempt) = [] := by
    have same : (added attempt).map (fun _ => Answer.nothing) = attempt.map fun _ => .nothing := by
      cases attempt <;> rfl
    exact refused (same.trans result)
  cases step with
  | edit e args => exact refused ((changed_result w s _).symm.trans failed)
  | leaf kind args => exact refused ((changed_result w s _).symm.trans failed)
  | append spec => exact refused ((changed_result w s _).symm.trans failed)
  | nested args build =>
    exact refusedClause (((Composite.nested args build).run_step w s).result.symm.trans failed)
  | functions args build score =>
    exact refusedClause
      (((Composite.functions args build score).run_step w s).result.symm.trans failed)
  | paginate args => exact absurd rfl (unpaged args)
  | _ => rfl

theorem core_of_failed {step : SearchStep} {w : World} {s : Search} {failure : Failure}
    (failed : (step.run w s).result = .error failure) (t : Search) :
    (t.applyAll (step.changes w)).core = t.core := by
  by_cases paged : ∃ args, step = .paginate args
  -- The window of a page stays although sending it fails, but it is no part of the core.
  · obtain ⟨args, rfl⟩ := paged
    exact core_pageChanges w args t
  · rw [changes_of_failed failed fun args same => paged ⟨args, same⟩, Search.applyAll_nil]

theorem core_run (step : SearchStep) (w : World) (s : Search) :
    (step.run w s).state.2.core = (s.applyAll (step.contribution w s)).core := by
  have made : (step.run w s).state.2.core = (s.applyAll (step.changes w)).core := by
    rw [search_run]
    exact Search.core_applyAll (core_withAggregations step s) _
  cases result : (step.run w s).result with
  | ok answer => simpa only [contribution, result] using made
  | error failure =>
    simp only [contribution, result, Search.applyAll_nil]
    exact made.trans (core_of_failed result s)

theorem core_final (steps : List SearchStep) (w : World) (s : Search) :
    (final steps (w, s)).2.core = (s.applyAll (history steps (w, s))).core := by
  induction steps generalizing w s with
  | nil => rfl
  | cons step rest ih =>
    rw [final, Outcome.last_each_cons, history, Search.applyAll_append]
    exact (ih _ _).trans (Search.core_applyAll (core_run step w s) _)

/-- The clauses that a step adds, by its arguments; a step that takes steps adds the clause that
they build. -/
def clausesOf (w : World) : SearchStep → Except Failure (List Clause)
  | .leaf kind args => (kind.request args).map fun leaves => leaves.map .leaf
  | .append spec => (Clause.ofJson spec).map fun clause => [clause]
  | .nested args build => ((Composite.nested args build).clause w).map fun clause => [clause]
  | .functions args build score =>
      ((Composite.functions args build score).clause w).map fun clause => [clause]
  | _ => .ok []

def roleAfter (current : Role) : SearchStep → Role
  | .edit (.role next) _ => next
  | _ => current

def valueAfter (e : Edit) (before : Json) : SearchStep → Json
  | .edit other args => if other = e then args.field "value" else before
  | _ => before

/-- The clauses that the successful steps of a run add, each under the role switched to last before
it. -/
def additions : Role → List SearchStep → World × Search → List (Role × Clause)
  | _, [], _ => []
  | current, step :: rest, state =>
      let o := step.run state.1 state.2
      match o.result, step.clausesOf state.1 with
      | .ok _, .ok clauses =>
          clauses.map (fun clause => (current, clause)) ++
            additions (step.roleAfter current) rest o.state
      | _, _ => additions current rest o.state

def lastValue (e : Edit) : Json → List SearchStep → World × Search → Json
  | before, [], _ => before
  | before, step :: rest, state =>
      let o := step.run state.1 state.2
      match o.result with
      | .ok _ => lastValue e (step.valueAfter e before) rest o.state
      | .error _ => lastValue e before rest o.state

end SearchStep

theorem Edit.value_of_bind {e : Edit} {args a : Object} (bound : e.signature.bind args = .ok a)
    (valued : e.signature = .closed [.required "value"]) :
    a.field "value" = args.field "value" := by
  rw [valued] at bound
  exact Signature.argument_of_bind bound "value" rfl rfl

namespace SearchStep

theorem exists_change {w : World} {s : Search} {attempt : Except Failure Change} {answer : Answer}
    (done : (changed w s attempt).result = .ok answer) : ∃ change, attempt = .ok change := by
  cases attempt with
  | error failure => cases done
  | ok change => exact ⟨change, rfl⟩

/-- The changes of a successful step add the clauses of its arguments under the current role, switch
to the role it names, and set the values that it gives. -/
theorem changes_of_done {step : SearchStep} {w : World} {s : Search} {answer : Answer}
    (done : (step.run w s).result = .ok answer) :
    ∃ clauses, step.clausesOf w = .ok clauses ∧
      (∀ current later, Change.tagged current (step.changes w ++ later) =
        clauses.map (fun clause => (current, clause)) ++
          Change.tagged (step.roleAfter current) later) ∧
      (∀ before, (step.changes w).foldl Change.minimumAfter before =
        step.valueAfter .minimumShouldMatch before) ∧
      ∀ before,
        (step.changes w).foldl Change.boostAfter before = step.valueAfter .boost before := by
  have built (c : Composite) (same : c.step = step) :
      ∃ clause, c.clause w = .ok clause := by
    subst same
    rw [(c.run_step w s).result] at done
    cases made : c.clause w with
    | error failure =>
      rw [made] at done
      cases done
    | ok clause => exact ⟨clause, rfl⟩
  cases step with
  | edit e args =>
    obtain ⟨change, made⟩ := exists_change done
    obtain ⟨a, bound, shaped⟩ := bind_eq_ok.mp made
    refine ⟨[], rfl, ?_⟩
    rw [changes, made, granted]
    cases e with
    | role next =>
      cases shaped
      exact ⟨fun _ _ => rfl, fun _ => rfl, fun _ => rfl⟩
    | minimumShouldMatch =>
      cases shaped
      have value := Edit.value_of_bind bound rfl
      exact ⟨fun _ _ => rfl, fun _ => value, fun _ => rfl⟩
    | boost =>
      obtain ⟨number, read, same⟩ := bind_eq_ok.mp shaped
      cases same
      have value := Edit.value_of_bind bound rfl
      unfold Edit.numberIn at read
      split at read
      · cases read
        exact ⟨fun _ _ => rfl, fun _ => rfl, fun _ => value⟩
      · cases read
    | _ =>
      obtain ⟨value, _, same⟩ := bind_eq_ok.mp shaped
      cases same
      exact ⟨fun _ _ => rfl, fun _ => rfl, fun _ => rfl⟩
  | leaf kind args =>
    obtain ⟨change, made⟩ := exists_change done
    obtain ⟨leaves, requested, same⟩ := bind_eq_ok.mp made
    cases same
    refine ⟨leaves.map .leaf, by rw [clausesOf, requested]; rfl, ?_⟩
    rw [changes, made]
    exact ⟨fun _ _ => rfl, fun _ => rfl, fun _ => rfl⟩
  | append spec =>
    obtain ⟨change, made⟩ := exists_change done
    obtain ⟨clause, read, same⟩ := bind_eq_ok.mp made
    cases same
    refine ⟨[clause], by rw [clausesOf, read]; rfl, ?_⟩
    rw [changes, made]
    exact ⟨fun _ _ => rfl, fun _ => rfl, fun _ => rfl⟩
  | nested args build =>
    obtain ⟨clause, made⟩ := built (.nested args build) rfl
    refine ⟨[clause], by rw [clausesOf, made]; rfl, ?_⟩
    rw [changes, made]
    exact ⟨fun _ _ => rfl, fun _ => rfl, fun _ => rfl⟩
  | functions args build score =>
    obtain ⟨clause, made⟩ := built (.functions args build score) rfl
    refine ⟨[clause], by rw [clausesOf, made]; rfl, ?_⟩
    rw [changes, made]
    exact ⟨fun _ _ => rfl, fun _ => rfl, fun _ => rfl⟩
  -- The window of a page is no part of the query, and stands whether or not the page is read.
  | paginate args =>
    refine ⟨[], rfl, ?_⟩
    rw [changes, pageChanges]
    split
    · exact ⟨fun _ _ => rfl, fun _ => rfl, fun _ => rfl⟩
    · split <;> exact ⟨fun _ _ => rfl, fun _ => rfl, fun _ => rfl⟩
  | _ => exact ⟨[], rfl, fun _ _ => rfl, fun _ => rfl, fun _ => rfl⟩

theorem history_eq (steps : List SearchStep) (state : World × Search) :
    (∀ current, Change.tagged current (history steps state) = additions current steps state) ∧
      (∀ before, (history steps state).foldl Change.minimumAfter before =
        lastValue .minimumShouldMatch before steps state) ∧
      ∀ before, (history steps state).foldl Change.boostAfter before =
        lastValue .boost before steps state := by
  induction steps generalizing state with
  | nil => exact ⟨fun _ => rfl, fun _ => rfl, fun _ => rfl⟩
  | cons step rest ih =>
    obtain ⟨tagged, minimum, boost⟩ := ih (step.run state.1 state.2).state
    cases result : (step.run state.1 state.2).result with
    | error failure =>
      simp only [history, contribution, additions, lastValue, result, List.nil_append]
      exact ⟨tagged, minimum, boost⟩
    | ok answer =>
      obtain ⟨clauses, added, tags, minimums, boosts⟩ := changes_of_done result
      simp only [history, contribution, additions, lastValue, result, added, tags, tagged,
        List.foldl_append, minimums, minimum, boosts, boost, implies_true, and_self]

end SearchStep

end SearchRequest
