import SearchRequest.Proofs.Result.Pages
import SearchRequest.Proofs.Search.History

/-!
What is left of a step that fails. It leaves everything as it was, apart from two kinds of steps:
of a group of aggregations those before the failing one stay, and the window of a page stays once
the page is accepted.
-/

namespace SearchRequest

structure World.Means (w : World) (limit number : Json) (page : Page) : Prop where
  size : (if limit.isNull then w.defaultPageSize else limit) = .int page.size
  number : (if number.isNull then w.pages.next.1 else number) = .int page.number

theorem World.page_eq_ok {w : World} {limit number : Json} {page : Page} :
    (w.page limit number).1 = .ok page ↔ w.Means limit number page := by
  have pair : (if number.isNull then w.pages.next else (number, w.pages)).1 =
      if number.isNull then w.pages.next.1 else number := by
    split <;> rfl
  constructor
  · intro accepted
    unfold World.page at accepted
    dsimp only at accepted
    split at accepted
    · cases accepted
    · rename_i size sized
      split at accepted
      · cases accepted
      · rename_i count counted
        cases accepted
        exact ⟨Page.counted?_eq_some.mp sized, pair.symm.trans (Page.counted?_eq_some.mp counted)⟩
  · rintro ⟨sized, numbered⟩
    have size := (@Page.counted?_eq_some _ ⟨page.size, page.size_pos⟩).mpr sized
    have count := (@Page.counted?_eq_some _ ⟨page.number, page.number_pos⟩).mpr
      (pair.trans numbered)
    unfold World.page
    simp only [size, count]
    rfl

namespace Document

def aggregateAll (d : Document) (added : List Aggregation) : Document := added.foldl aggregate d

end Document

namespace AggregationStep

def added : AggregationStep → List Aggregation
  | .add kind args => (kind.request args).toOption.toList
  | .append spec => (Aggregation.ofJson spec).toOption.toList
  | _ => []

theorem state_run (step : AggregationStep) (d : Document) :
    (step.run d).state = d.aggregateAll step.added := by
  cases step with
  | add kind args => simp only [run, added]; cases kind.request args <;> rfl
  | append spec => simp only [run, added]; cases Aggregation.ofJson spec <;> rfl
  | _ => rfl

theorem state_of_failed {step : AggregationStep} {d : Document} {failure : Failure}
    (failed : (step.run d).result = .error failure) : (step.run d).state = d := by
  cases step with
  | add kind args =>
    simp only [run] at failed ⊢
    cases requested : kind.request args with
    | error _ => rfl
    | ok a =>
      rw [requested] at failed
      cases failed
  | append spec =>
    simp only [run] at failed ⊢
    cases read : Aggregation.ofJson spec with
    | error _ => rfl
    | ok a =>
      rw [read] at failed
      cases failed
  | _ => rfl

/-- The document after steps of which one fails: the ones before it have added what they add, and
nothing else is changed. -/
def Stops (steps : List AggregationStep) (d after : Document) : Prop :=
  ∃ done failing rest failure, steps = done ++ failing :: rest ∧
    (runAll done d).result = .ok () ∧ (failing.run after).result = .error failure ∧
    after = d.aggregateAll (done.flatMap added)

theorem stops_of_failed {steps : List AggregationStep} {d : Document} {failure : Failure}
    (failed : (runAll steps d).result = .error failure) : Stops steps d (runAll steps d).state := by
  induction steps generalizing d with
  | nil => cases failed
  | cons step rest ih =>
    rw [runAll] at failed ⊢
    cases first : (step.run d).result with
    -- The first step is the one that fails, so none is done before it.
    | error refused =>
      rw [Outcome.andThen_of_error first, state_of_failed first]
      exact ⟨[], step, rest, refused, rfl, rfl, first, rfl⟩
    | ok answer =>
      rw [Outcome.andThen_of_ok first] at failed ⊢
      obtain ⟨done, failing, left, refused, rfl, succeeded, stopped, after⟩ := ih failed
      refine ⟨step :: done, failing, left, refused, rfl, ?_, stopped, ?_⟩
      · rw [runAll, Outcome.andThen_of_ok first]
        exact succeeded
      · rw [after, state_run, List.flatMap_cons, Document.aggregateAll, Document.aggregateAll,
          Document.aggregateAll, List.foldl_append]

end AggregationStep

namespace SearchStep

/-- What may be left of a search by a step on it that fails. -/
def Leaves (w : World) (s after : Search) : SearchStep → Prop
  | .aggregate args (some steps) =>
      (∀ a, Search.aggregateSignature.bind args = .ok a →
        ∃ d, AggregationStep.Stops steps s.document d ∧ after = s.withDocument d) ∧
      (¬ Succeeds (Search.aggregateSignature.bind args) → after = s)
  | .paginate args =>
      (∀ a page, Search.paginateSignature.bind args = .ok a →
        w.Means (a.field "limit") (a.field "page") page →
        after = s.withDocument { s.document with
          offset := some (page.size * (page.number - 1)), size := some page.size }) ∧
      ((∀ a page, Search.paginateSignature.bind args = .ok a →
        ¬ w.Means (a.field "limit") (a.field "page") page) → after = s)
  | _ => after = s

theorem leaves_paginate (args : Object) (w : World) (s : Search) :
    (paginate args).Leaves w s (paginated args w s).state.2 := by
  rw [search_paginated]
  constructor
  · intro a page bound meant
    simp only [pageChanges, bound, World.page_eq_ok.mpr meant]
    rfl
  · intro refused
    unfold pageChanges
    cases bound : Search.paginateSignature.bind args with
    | error _ => rfl
    | ok a =>
      cases resolved : (w.page (a.field "limit") (a.field "page")).1 with
      | error _ => simp only [resolved, Search.applyAll_nil]
      | ok page => exact absurd (World.page_eq_ok.mp resolved) (refused a page bound)

theorem leaves_aggregate {args : Object} {steps : List AggregationStep} {w : World} {s : Search}
    {failure : Failure} (failed : (aggregated args (some steps) w s).result = .error failure) :
    (aggregate args (some steps)).Leaves w s (aggregated args (some steps) w s).state.2 := by
  rw [search_aggregated]
  unfold aggregated at failed
  constructor
  · intro a bound
    simp only [withAggregations, bound] at failed ⊢
    refine ⟨_, ?_, rfl⟩
    cases result : (AggregationStep.runAll steps s.document).result with
    | error stopped => exact AggregationStep.stops_of_failed result
    | ok done => simp [Outcome.andThen, Outcome.within, result, Outcome.succeed] at failed
  · intro refused
    cases bound : Search.aggregateSignature.bind args with
    | error _ => simp only [withAggregations, bound]
    | ok a => exact absurd ⟨a, bound⟩ refused

theorem leaves_of_failed {step : SearchStep} {w : World} {s : Search} {failure : Failure}
    (failed : (step.run w s).result = .error failure) : step.Leaves w s (step.run w s).state.2 := by
  have unchanged (unpaged : ∀ args, step ≠ .paginate args)
      (alone : step.withAggregations s = s) : (step.run w s).state.2 = s := by
    rw [search_run, changes_of_failed failed unpaged, alone, Search.applyAll_nil]
  cases step with
  | aggregate args build =>
    cases build with
    | none => exact unchanged nofun rfl
    | some steps => exact leaves_aggregate failed
  | paginate args => exact leaves_paginate args w s
  | _ => exact unchanged nofun rfl

end SearchStep

namespace ScoreStep

theorem scoring_of_failed {step : ScoreStep} {w : World} {s : Scoring} {failure : Failure}
    (failed : (step.run w s).result = .error failure) : (step.run w s).state.2 = s := by
  cases step with
  | add kind args filter =>
    cases drafted : ScoreDraft.of kind args with
    | error _ => cases filter <;> simp only [run, drafted, Outcome.fail]
    | ok draft =>
      -- A function is added last, after its filter is built, so whatever fails comes before it.
      cases filter with
      | none =>
        simp only [run, drafted] at failed ⊢
        split at failed
        · cases failed
        · rename_i needed
          rw [if_neg needed]
          rfl
      | some steps =>
        simp only [run, drafted] at failed ⊢
        cases built : (SearchStep.runAll steps w .fresh).result with
        | error refused =>
          rw [Outcome.andThen_of_error (Outcome.result_handedTo_of_error built s)]
          rfl
        | ok done =>
          rw [Outcome.andThen_of_ok (Outcome.result_handedTo_of_ok built s)] at failed
          cases failed
  | query args =>
    simp only [run]
    cases noArguments.bind args <;> rfl
  | _ => rfl

end ScoreStep

/-- A step that fails leaves a search, a document under aggregation or a scoring as it was, but for
the aggregations before the failing one and for the window of an accepted page. -/
theorem unchanged_of_failed :
    (∀ (step : SearchStep) (w : World) (s : Search) (failure : Failure),
      (step.run w s).result = .error failure → step.Leaves w s (step.run w s).state.2) ∧
    (∀ (step : AggregationStep) (d : Document) (failure : Failure),
      (step.run d).result = .error failure → (step.run d).state = d) ∧
    ∀ (step : ScoreStep) (w : World) (s : Scoring) (failure : Failure),
      (step.run w s).result = .error failure → (step.run w s).state.2 = s :=
  ⟨fun _ _ _ _ => SearchStep.leaves_of_failed, fun _ _ _ => AggregationStep.state_of_failed,
    fun _ _ _ _ => ScoreStep.scoring_of_failed⟩

def thirdPage : SearchStep := .paginate [("limit", .int 10), ("page", .int 3)]

def halfAggregated : SearchStep :=
  .aggregate [("callback", .null)]
    (some [.add (.metric .avg) [("alias", .str "price"), ("field", .str "price")], .unknown])

def unweighted : ScoreStep := .add .weight [("weight", .null)] none

theorem unchanged_of_failed_pages :
    thirdPage.Leaves .isolated .fresh (.withDocument .fresh
      { Document.empty with offset := some 20, size := some 10 }) ∧
    halfAggregated.Leaves .isolated .fresh (halfAggregated.run .isolated .fresh).state.2 ∧
    (AggregationStep.unknown.run .empty).state = .empty ∧
    (unweighted.run .isolated ⟨.empty, [], []⟩).state.2 = ⟨.empty, [], []⟩ :=
  ⟨unchanged_of_failed.1 thirdPage .isolated .fresh .disconnected rfl,
    unchanged_of_failed.1 halfAggregated .isolated .fresh .noOperation rfl,
    unchanged_of_failed.2.1 .unknown .empty .noOperation rfl,
    unchanged_of_failed.2.2 unweighted .isolated _ (.argument .weight) rfl⟩

end SearchRequest
