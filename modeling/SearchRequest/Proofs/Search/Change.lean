import SearchRequest.Proofs.Outcome
import SearchRequest.Search.Step

/-!
What a step does to the search it runs on, said once for all steps. A step that builds a clause by
steps of its own comes to one clause, which is read off the world and not off the outer search. A
step that adds aggregations changes those of the document alone; every other step makes a list of
changes that is read off its arguments and the world.
-/

namespace SearchRequest

/-- A step that adds one clause, built by steps of its own on a search of its own. -/
inductive Composite
  | nested (args : Object) (build : Option (List SearchStep))
  | functions (args : Object) (build : Option (List SearchStep))
      (score : Option (List ScoreStep))

namespace Composite

def step : Composite → SearchStep
  | nested args build => .nested args build
  | functions args build score => .functions args build score

theorem step_injective {c d : Composite} (same : c.step = d.step) : c = d := by
  cases c <;> cases d <;> cases same <;> rfl

def stepsFor {α : Type} (name : String) : Option α → Except Failure α
  | some steps => .ok steps
  | none => .error (.argument (.notCallable name))

/-- The clause over the query of a fresh search on which the steps have run, or the first failure
of the arguments, of the steps or of the clause itself. -/
def clause (w : World) : Composite → Except Failure Clause
  | nested args build => do
      let a ← Search.nestedSignature.bind args
      let steps ← stepsFor "callback" build
      let sub := SearchStep.runAll steps w .fresh
      let _ ← sub.result
      Clause.nested? (a.field "field") sub.state.2.document.query (a.field "score_mode") (.obj [])
  | functions args build score => do
      let a ← Search.functionsSignature.bind args
      let steps ← stepsFor "query_callback" build
      let scoring ← stepsFor "score_callback" score
      let sub := SearchStep.runAll steps w .fresh
      let _ ← sub.result
      let start ← Scoring.start sub.state.2.document.query (a.field "parameters")
      let scored := ScoreStep.runAll scoring sub.state.1 start
      let _ ← scored.result
      .ok scored.state.2.clause

end Composite

namespace Search

def settle (s : Search) : Except Failure Change → Search
  | .ok change => s.apply change
  | .error _ => s

def applyAll (s : Search) (changes : List Change) : Search := changes.foldl apply s

@[simp] theorem applyAll_nil (s : Search) : s.applyAll [] = s := rfl

@[simp] theorem applyAll_cons (s : Search) (change : Change) (rest : List Change) :
    s.applyAll (change :: rest) = (s.apply change).applyAll rest := rfl

theorem applyAll_append (s : Search) (first second : List Change) :
    s.applyAll (first ++ second) = (s.applyAll first).applyAll second :=
  List.foldl_append

end Search

namespace SearchStep

def granted : Except Failure Change → List Change
  | .ok change => [change]
  | .error _ => []

def pageChanges (w : World) (args : Object) : List Change :=
  match Search.paginateSignature.bind args with
  | .error _ => []
  | .ok a => match (w.page (a.field "limit") (a.field "page")).1 with
      | .error _ => []
      | .ok page => [.offset page.offset, .size page.size]

def added (attempt : Except Failure Clause) : Except Failure Change :=
  attempt.map fun clause => .clauses [clause]

def changes (w : World) : SearchStep → List Change
  | .edit e args => granted (e.change args)
  | .leaf kind args => granted (kind.change args)
  | .append spec => granted (appended spec)
  | .nested args build => granted (added ((Composite.nested args build).clause w))
  | .functions args build score =>
      granted (added ((Composite.functions args build score).clause w))
  | .paginate args => pageChanges w args
  | _ => []

theorem mem_granted {attempt : Except Failure Change} {change : Change} :
    change ∈ granted attempt ↔ attempt = .ok change := by
  cases attempt <;> simp [granted, eq_comm]

theorem mem_granted_added {attempt : Except Failure Clause} {change : Change} :
    change ∈ granted (added attempt) ↔
      ∃ clause, attempt = .ok clause ∧ change = .clauses [clause] := by
  cases attempt <;> simp [granted, added]

/-- What a step can change in its search, by the kind of the step. -/
inductive Makes (w : World) : SearchStep → Change → Prop
  | edit {e : Edit} {args : Object} {change : Change} (accepted : e.change args = .ok change) :
      Makes w (.edit e args) change
  | leaf {kind : LeafKind} {args : Object} {leaves : List Leaf}
      (requested : kind.request args = .ok leaves) :
      Makes w (.leaf kind args) (.clauses (leaves.map .leaf))
  | append {spec : Json} {clause : Clause} (read : Clause.ofJson spec = .ok clause) :
      Makes w (.append spec) (.clauses [clause])
  | built {c : Composite} {clause : Clause} (made : c.clause w = .ok clause) :
      Makes w c.step (.clauses [clause])
  | offset {args : Object} (page : Page) : Makes w (.paginate args) (.offset page.offset)
  | size {args : Object} (page : Page) : Makes w (.paginate args) (.size page.size)

theorem makes_of_mem {step : SearchStep} {w : World} {change : Change}
    (listed : change ∈ step.changes w) : step.Makes w change := by
  cases step with
  | edit e args => exact .edit (mem_granted.mp listed)
  | leaf kind args =>
    obtain ⟨leaves, requested, same⟩ := bind_eq_ok.mp (mem_granted.mp listed)
    cases same
    exact .leaf requested
  | append spec =>
    obtain ⟨clause, read, same⟩ := bind_eq_ok.mp (mem_granted.mp listed)
    cases same
    exact .append read
  | nested args build =>
    obtain ⟨clause, made, rfl⟩ := mem_granted_added.mp listed
    exact .built (c := .nested args build) made
  | functions args build score =>
    obtain ⟨clause, made, rfl⟩ := mem_granted_added.mp listed
    exact .built (c := .functions args build score) made
  | paginate args =>
    simp only [changes, pageChanges] at listed
    split at listed
    · cases listed
    · split at listed
      · cases listed
      · rcases List.mem_cons.mp listed with rfl | listed
        · exact .offset _
        · rw [List.mem_singleton.mp listed]
          exact .size _
  | _ => cases listed

theorem changed_result (w : World) (s : Search) (attempt : Except Failure Change) :
    (changed w s attempt).result = attempt.map fun _ => .nothing := by
  cases attempt <;> rfl

theorem changed_state (w : World) (s : Search) (attempt : Except Failure Change) :
    (changed w s attempt).state = (w, s.settle attempt) := by
  cases attempt <;> rfl

theorem settle_eq_applyAll (s : Search) (attempt : Except Failure Change) :
    s.settle attempt = s.applyAll (granted attempt) := by
  cases attempt <;> rfl

end SearchStep

/-- The outcome of a step on a search that comes to one clause: the clause is added and nothing is
answered, or the failure is the answer and the search is as it was. -/
structure Outcome.Adds (o : Outcome (World × Search) Answer) (s : Search)
    (attempt : Except Failure Clause) : Prop where
  result : o.result = attempt.map fun _ => .nothing
  search : o.state.2 = s.settle (SearchStep.added attempt)

namespace Outcome

variable {τ : Type}

theorem adds_changed (w : World) (s : Search) (attempt : Except Failure Clause) :
    (SearchStep.changed w s (SearchStep.added attempt)).Adds s attempt := by
  cases attempt <;> exact ⟨rfl, rfl⟩

theorem adds_fail (w : World) (s : Search) (failure : Failure) :
    (fail (w, s) failure : Outcome (World × Search) Answer).Adds s (.error failure) := ⟨rfl, rfl⟩

theorem adds_notCallable (w : World) (s : Search) (name : String) :
    (SearchStep.notCallable w s name : Outcome (World × Search) Answer).Adds s
      (.error (.argument (.notCallable name))) := ⟨rfl, rfl⟩

theorem result_handedTo_of_ok {σ : Type} {sub : Outcome (World × τ) Unit} {done : Unit}
    (ok : sub.result = .ok done) (owner : σ) : (sub.handedTo owner).result = .ok sub.state.2 := by
  simp only [handedTo, ok, map_ok]

theorem result_handedTo_of_error {σ : Type} {sub : Outcome (World × τ) Unit} {failure : Failure}
    (failed : sub.result = .error failure) (owner : σ) :
    (sub.handedTo owner).result = .error failure := by
  simp only [handedTo, failed, map_error]

theorem handedTo_eq_ok {σ : Type} {sub : Outcome (World × τ) Unit} {owner : σ} {built : τ}
    (handed : (sub.handedTo owner).result = .ok built) :
    ∃ done, sub.result = .ok done ∧ sub.state.2 = built := by
  cases result : sub.result with
  | error failure =>
    rw [result_handedTo_of_error result] at handed
    cases handed
  | ok done =>
    rw [result_handedTo_of_ok result] at handed
    exact ⟨done, rfl, Except.ok.inj handed⟩

theorem adds_handedTo {sub : Outcome (World × τ) Unit} {s : Search}
    {next : τ → World × Search → Outcome (World × Search) Answer}
    {attempt : Except Failure Clause}
    (follows : (next sub.state.2 (sub.state.1, s)).Adds s attempt) :
    ((sub.handedTo s).andThen next).Adds s (do let _ ← sub.result; attempt) := by
  cases built : sub.result with
  | error failure =>
    rw [andThen_of_error (result_handedTo_of_error built s)]
    exact ⟨rfl, rfl⟩
  | ok done =>
    rw [andThen_of_ok (result_handedTo_of_ok built s)]
    exact ⟨follows.result, follows.search⟩

theorem Adds.noting {o : Outcome (World × Search) Answer} {s : Search}
    {attempt : Except Failure Clause} (adds : o.Adds s attempt) (earlier : Report) :
    (o.noting earlier).Adds s attempt := ⟨adds.result, adds.search⟩

end Outcome

namespace Composite

/-- Running the step comes to its clause, which does not depend on the search it is added to. -/
theorem run_step (c : Composite) (w : World) (s : Search) :
    (c.step.run w s).Adds s (c.clause w) := by
  cases c with
  | nested args build =>
    cases bound : Search.nestedSignature.bind args with
    | error failure =>
      cases build <;>
        simpa [step, SearchStep.run, clause, bound] using Outcome.adds_fail w s failure
    | ok a =>
      cases build with
      | none =>
        simpa [step, SearchStep.run, clause, bound, stepsFor] using Outcome.adds_notCallable w s _
      | some steps =>
        simp only [step, SearchStep.run, clause, bound, stepsFor, bind_ok]
        exact Outcome.adds_handedTo (Outcome.adds_changed _ s _)
  | functions args build score =>
    cases bound : Search.functionsSignature.bind args with
    | error failure =>
      cases build <;> cases score <;>
        simpa [step, SearchStep.run, clause, bound] using Outcome.adds_fail w s failure
    | ok a =>
      cases build with
      | none =>
        simpa [step, SearchStep.run, clause, bound, stepsFor] using Outcome.adds_notCallable w s _
      | some steps =>
        cases score with
        | none =>
          simpa [step, SearchStep.run, clause, bound, stepsFor] using Outcome.adds_notCallable w s _
        | some scoring =>
          simp only [step, SearchStep.run, clause, bound, stepsFor, bind_ok]
          apply Outcome.adds_handedTo
          cases Scoring.start (SearchStep.runAll steps w .fresh).state.2.document.query
              (a.field "parameters") with
          | error failure => exact Outcome.adds_fail _ s failure
          | ok start =>
            simp only [bind_ok]
            apply Outcome.adds_handedTo
            exact (Outcome.adds_changed _ s (.ok _)).noting _

end Composite

namespace SearchStep

/-- The search with the aggregations that the step adds to its document, also those before a step
that fails. -/
def withAggregations (s : Search) : SearchStep → Search
  | .aggregate args (some steps) => match Search.aggregateSignature.bind args with
      | .error _ => s
      | .ok _ => s.withDocument (AggregationStep.runAll steps s.document).state
  | _ => s

theorem search_fetched (args : Object) (w : World) (s : Search) :
    (fetched args w s).state.2 = s := by
  unfold fetched
  cases noArguments.bind args with
  | error failure => rfl
  | ok a => exact congrArg Prod.snd (Outcome.andThen_state fun _ _ => rfl)

theorem search_executed (args : Object) (w : World) (s : Search) :
    (executed args w s).state.2 = s := by
  unfold executed
  cases noArguments.bind args with
  | error failure => rfl
  | ok a => exact congrArg Prod.snd (Outcome.andThen_state fun _ _ => rfl)

theorem search_paginate (s : Search) (w : World) (limit number : Json) :
    (s.paginate w limit number).state.2 =
      match (w.page limit number).1 with
      | .error _ => s
      | .ok page => s.onPage page := by
  unfold Search.paginate
  cases w.page limit number with
  | mk resolved after =>
    cases resolved with
    | error failure => rfl
    | ok page => exact congrArg Prod.snd (Outcome.andThen_state fun _ _ => rfl)

theorem search_paginated (args : Object) (w : World) (s : Search) :
    (paginated args w s).state.2 = s.applyAll (pageChanges w args) := by
  unfold paginated pageChanges
  cases Search.paginateSignature.bind args with
  | error failure => rfl
  | ok a =>
    dsimp only
    rw [Outcome.andThen_state fun _ _ => rfl, search_paginate]
    cases (w.page (a.field "limit") (a.field "page")).1 <;> rfl

theorem search_aggregated (args : Object) (build : Option (List AggregationStep)) (w : World)
    (s : Search) :
    (aggregated args build w s).state.2 = withAggregations s (.aggregate args build) := by
  unfold aggregated
  cases bound : Search.aggregateSignature.bind args with
  | error failure => cases build <;> simp [withAggregations, bound, Outcome.fail]
  | ok a =>
    cases build with
    | none => rfl
    | some steps =>
      simp only [withAggregations, bound]
      exact congrArg Prod.snd (Outcome.andThen_state fun _ _ => rfl)

theorem search_run (step : SearchStep) (w : World) (s : Search) :
    (step.run w s).state.2 = (step.withAggregations s).applyAll (step.changes w) := by
  cases step with
  | edit e args => simp only [run, changed_state, settle_eq_applyAll, withAggregations, changes]
  | leaf kind args =>
    simp only [run, changed_state, settle_eq_applyAll, withAggregations, changes]
  | append spec => simp only [run, changed_state, settle_eq_applyAll, withAggregations, changes]
  | nested args build =>
    exact ((Composite.nested args build).run_step w s).search.trans (settle_eq_applyAll s _)
  | functions args build score =>
    exact ((Composite.functions args build score).run_step w s).search.trans
      (settle_eq_applyAll s _)
  | aggregate args build =>
    exact search_aggregated args build w s
  | view v args => rfl
  | fetch args => exact search_fetched args w s
  | execute args => exact search_executed args w s
  | paginate args => exact search_paginated args w s
  | observe => rfl
  | part => rfl
  | unknown => rfl

end SearchStep

end SearchRequest
