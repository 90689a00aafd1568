import SearchRequest.Proofs.Aggregation.Writable
import SearchRequest.Proofs.Search.History
import SearchRequest.Proofs.Search.Nesting

/-!
Searches whose body can be written. The steps that are a search's own take their arguments apart
before they change anything, so every clause that they add can be written, at every depth; of the
aggregations that they add only a histogram ordered by a list or an object cannot.
-/

namespace SearchRequest

section Own

def AggregationStep.isOwn : AggregationStep → Bool
  | .append _ => false
  | _ => true

mutual

/-- A step that takes no clause and no aggregation that was built elsewhere, at any depth. -/
def SearchStep.isOwn : SearchStep → Bool
  | .append _ => false
  | .nested _ build => SearchStep.isOwnGiven build
  | .functions _ build score => SearchStep.isOwnGiven build && ScoreStep.isOwnGiven score
  | .aggregate _ (some steps) => steps.all AggregationStep.isOwn
  | _ => true

def SearchStep.isOwnGiven : Option (List SearchStep) → Bool
  | some steps => SearchStep.isOwnAll steps
  | none => true

def SearchStep.isOwnAll : List SearchStep → Bool
  | [] => true
  | step :: rest => SearchStep.isOwn step && SearchStep.isOwnAll rest

def ScoreStep.isOwn : ScoreStep → Bool
  | .add _ _ filter => SearchStep.isOwnGiven filter
  | _ => true

def ScoreStep.isOwnGiven : Option (List ScoreStep) → Bool
  | some steps => ScoreStep.isOwnAll steps
  | none => true

def ScoreStep.isOwnAll : List ScoreStep → Bool
  | [] => true
  | step :: rest => ScoreStep.isOwn step && ScoreStep.isOwnAll rest

end

end Own

namespace AggregationTable

theorem mem_insert {t : AggregationTable} {a entry : Aggregation}
    (listed : entry ∈ (t.insert a).entries) : entry = a ∨ entry ∈ t.entries := by
  unfold insert at listed
  split at listed
  · obtain ⟨old, listed, same⟩ := List.mem_map.mp listed
    split at same
    · exact .inl same.symm
    · exact .inr (same ▸ listed)
  · rcases List.mem_append.mp listed with old | new
    · exact .inr old
    · exact .inl (List.mem_singleton.mp new)

theorem succeeds_toJsonList {entries : List Aggregation} :
    Succeeds (toJsonList entries) ↔ ∀ a ∈ entries, Succeeds a.toJson := by
  induction entries with
  | nil => exact iff_of_true (succeeds_ok _) nofun
  | cons a rest ih =>
    rw [List.forall_mem_cons, ← ih, toJsonList, succeeds_bind]
    constructor
    · rintro ⟨body, written, others⟩
      obtain ⟨jsons, listed, _⟩ := succeeds_bind.mp others
      exact ⟨⟨body, written⟩, jsons, listed⟩
    · rintro ⟨⟨body, written⟩, jsons, listed⟩
      exact ⟨body, written, succeeds_bind.mpr ⟨jsons, listed, succeeds_ok _⟩⟩

end AggregationTable

def Aggregation.Requested (a : Aggregation) : Prop :=
  Succeeds a.toJson ↔ a.computation.ordersByContainer = false

namespace AggregationStep

theorem forall_runAll {P : Aggregation → Prop} {steps : List AggregationStep}
    (adds : ∀ step ∈ steps, ∀ kind args a, step = .add kind args → kind.request args = .ok a → P a)
    (own : steps.all isOwn = true) {d : Document} (before : ∀ a ∈ d.aggregations.entries, P a) :
    ∀ a ∈ (runAll steps d).state.aggregations.entries, P a := by
  induction steps generalizing d with
  | nil => exact before
  | cons step rest ih =>
    obtain ⟨ownFirst, ownRest⟩ := Bool.and_eq_true_iff.mp own
    have after : ∀ a ∈ (step.run d).state.aggregations.entries, P a := by
      cases step with
      | add kind args =>
        simp only [run]
        cases requested : kind.request args with
        | error failure => exact before
        | ok added =>
          intro a listed
          rcases AggregationTable.mem_insert listed with rfl | old
          · exact adds _ List.mem_cons_self kind args a rfl requested
          · exact before a old
      | append spec => cases ownFirst
      | _ => exact before
    have addsRest := fun other listed => adds other (List.mem_cons_of_mem step listed)
    rw [runAll]
    exact Outcome.andThen_invariant
      (P := fun d : Document => ∀ a ∈ d.aggregations.entries, P a) after
      fun _ => ih addsRest ownRest after

end AggregationStep

def Change.Writable : Change → Prop
  | .clauses added => ∀ clause ∈ added, Succeeds clause.toJson
  | _ => True

/-- The query of the search can be written, and its aggregations were added by operations. -/
structure Search.Writable (s : Search) : Prop where
  query : s.document.query.Writable
  aggregations : ∀ a ∈ s.document.aggregations.entries, a.Requested

namespace Search

theorem writable_fresh : fresh.Writable := ⟨BoolQuery.writable_empty, nofun⟩

theorem writable_addAll {s : Search} (writable : s.Writable) {added : List Clause}
    (each : ∀ clause ∈ added, Succeeds clause.toJson) : (s.addAll added).Writable := by
  have settings := settings_addAll s added
  simp only [BoolQuery.settings, Prod.mk.injEq] at settings
  refine ⟨⟨settings.2.2.trans writable.query.plain, ?_⟩, ?_⟩
  · intro role clause listed
    rw [clauses_addAll] at listed
    rcases List.mem_append.mp listed with old | new
    · exact writable.query.clauses role clause old
    · split at new
      · exact each clause new
      · cases new
  · rw [aggregations_addAll]
    exact writable.aggregations

theorem writable_apply {s : Search} (writable : s.Writable) {change : Change}
    (changed : change.Writable) : (s.apply change).Writable := by
  have query := writable.query
  cases change with
  | clauses added => exact writable_addAll writable changed
  | minimumShouldMatch value =>
    refine ⟨⟨query.plain, fun role clause listed => query.clauses role clause ?_⟩,
      writable.aggregations⟩
    cases role <;> exact listed
  | boost value =>
    refine ⟨⟨query.plain, fun role clause listed => query.clauses role clause ?_⟩,
      writable.aggregations⟩
    cases role <;> exact listed
  | _ => exact ⟨query, writable.aggregations⟩

theorem writable_applyAll {s : Search} (writable : s.Writable) {changes : List Change}
    (each : ∀ change ∈ changes, change.Writable) : (s.applyAll changes).Writable := by
  induction changes generalizing s with
  | nil => exact writable
  | cons change rest ih =>
    obtain ⟨first, others⟩ := List.forall_mem_cons.mp each
    exact ih (writable_apply writable first) others

end Search

structure Scoring.Writable (s : Scoring) : Prop where
  query : s.query.Writable
  functions : ∀ function ∈ s.functions, Succeeds function.toJson

namespace Scoring

theorem writable_start {query : BoolQuery} {parameters : Json} {s : Scoring}
    (writable : query.Writable) (started : start query parameters = .ok s) : s.Writable := by
  obtain ⟨entries, _, same⟩ := bind_eq_ok.mp started
  cases same
  exact ⟨writable, nofun⟩

theorem writable_add {s : Scoring} (writable : s.Writable) {function : ScoreFunction}
    (written : Succeeds function.toJson) : (s.add function).Writable := by
  refine ⟨writable.query, fun other listed => ?_⟩
  rcases List.mem_append.mp listed with old | new
  · exact writable.functions other old
  · rw [List.mem_singleton.mp new]
    exact written

end Scoring

namespace SearchStep

theorem writable_withAggregations {step : SearchStep} (own : step.isOwn = true) {s : Search}
    (writable : s.Writable) : (step.withAggregations s).Writable := by
  unfold withAggregations
  split
  · rename_i args steps
    split
    · exact writable
    · refine ⟨?_, ?_⟩
      · simp only [Search.withDocument, AggregationStep.query_runAll]
        exact writable.query
      · rw [isOwn] at own
        exact AggregationStep.forall_runAll
          (fun _ _ _ _ _ _ requested => AggregationKind.succeeds_of_request requested) own
          writable.aggregations
  · exact writable

def AddsWritable (step : SearchStep) : Prop :=
  step.isOwn = true → ∀ w, ∀ change ∈ step.changes w, change.Writable

theorem writable_run {step : SearchStep} (adds : step.AddsWritable) (own : step.isOwn = true)
    (w : World) {s : Search} (writable : s.Writable) : (step.run w s).state.2.Writable := by
  rw [search_run]
  exact Search.writable_applyAll (writable_withAggregations own writable) (adds own w)

theorem writable_runAll {steps : List SearchStep} (adds : ∀ step ∈ steps, step.AddsWritable)
    (own : isOwnAll steps = true) (w : World) {s : Search} (writable : s.Writable) :
    (runAll steps w s).state.2.Writable := by
  induction steps generalizing w s with
  | nil => exact writable
  | cons step rest ih =>
    obtain ⟨ownFirst, ownRest⟩ := Bool.and_eq_true_iff.mp own
    obtain ⟨addsFirst, addsRest⟩ := List.forall_mem_cons.mp adds
    have after := writable_run addsFirst ownFirst w writable
    rw [runAll]
    exact Outcome.andThen_invariant (P := fun state : World × Search => state.2.Writable) after
      fun _ => ih addsRest ownRest _ after

end SearchStep

namespace ScoreStep

def KeepsWritable (step : ScoreStep) : Prop :=
  step.isOwn = true → ∀ w s, s.Writable → (step.run w s).state.2.Writable

theorem keepsWritable_of_filtering {step : ScoreStep}
    (filtering : ∀ inner ∈ step.filtering, inner.AddsWritable) : step.KeepsWritable := by
  intro own w s writable
  cases step with
  | add kind args filter =>
    cases filter with
    | none =>
      simp only [run]
      split
      · exact writable
      · rename_i draft _
        split
        · exact Scoring.writable_add writable (draft.succeeds_filteredBy nofun)
        · exact writable
    | some steps =>
      simp only [run]
      split
      · exact writable
      · rename_i draft _
        have built := SearchStep.writable_runAll filtering own w Search.writable_fresh
        cases ran : (SearchStep.runAll steps w .fresh).result with
        | error failure =>
          rw [Outcome.andThen_of_error (Outcome.result_handedTo_of_error ran s)]
          exact writable
        | ok _ =>
          rw [Outcome.andThen_of_ok (Outcome.result_handedTo_of_ok ran s)]
          refine Scoring.writable_add writable (draft.succeeds_filteredBy fun query given => ?_)
          cases given
          exact built.query
  | query args =>
    simp only [run]
    split <;> exact writable
  | _ => exact writable

theorem writable_runAll {steps : List ScoreStep} (keeps : ∀ step ∈ steps, step.KeepsWritable)
    (own : isOwnAll steps = true) (w : World) {s : Scoring} (writable : s.Writable) :
    (runAll steps w s).state.2.Writable := by
  induction steps generalizing w s with
  | nil => exact writable
  | cons step rest ih =>
    obtain ⟨ownFirst, ownRest⟩ := Bool.and_eq_true_iff.mp own
    obtain ⟨keepsFirst, keepsRest⟩ := List.forall_mem_cons.mp keeps
    have after := keepsFirst ownFirst w s writable
    rw [runAll]
    exact Outcome.andThen_invariant (P := fun state : World × Scoring => state.2.Writable) after
      fun _ => ih keepsRest ownRest _ after

end ScoreStep

theorem Composite.succeeds_of_clause {c : Composite} (own : c.step.isOwn = true)
    (building : ∀ step ∈ c.step.building, step.AddsWritable)
    (scoring : ∀ step ∈ c.step.scoring, step.KeepsWritable) {w : World} {clause : Clause}
    (made : c.clause w = .ok clause) : Succeeds clause.toJson := by
  cases c with
  | nested args build =>
    obtain ⟨a, _, taken⟩ := bind_eq_ok.mp made
    obtain ⟨steps, given, entered⟩ := bind_eq_ok.mp taken
    obtain ⟨_, _, accepted⟩ := bind_eq_ok.mp entered
    cases build with
    | none => cases given
    | some inner =>
      cases given
      have built := SearchStep.writable_runAll building own w Search.writable_fresh
      exact Clause.succeeds_of_nested? built.query accepted
  | functions args build score =>
    obtain ⟨a, _, taken⟩ := bind_eq_ok.mp made
    obtain ⟨steps, given, entered⟩ := bind_eq_ok.mp taken
    obtain ⟨scores, givenScores, scorable⟩ := bind_eq_ok.mp entered
    obtain ⟨_, _, ran⟩ := bind_eq_ok.mp scorable
    obtain ⟨start, started, rated⟩ := bind_eq_ok.mp ran
    obtain ⟨_, _, same⟩ := bind_eq_ok.mp rated
    cases build with
    | none => cases given
    | some inner =>
      cases score with
      | none => cases givenScores
      | some innerScores =>
        cases given
        cases givenScores
        cases same
        obtain ⟨ownSteps, ownScores⟩ := Bool.and_eq_true_iff.mp own
        have built := SearchStep.writable_runAll building ownSteps w Search.writable_fresh
        have scored := ScoreStep.writable_runAll scoring ownScores
          (SearchStep.runAll steps w .fresh).state.1 (Scoring.writable_start built.query started)
        exact Clause.succeeds_functionScore scored.query scored.functions

theorem steps_addWritable :
    (∀ step : SearchStep, step.AddsWritable) ∧ (∀ step : ScoreStep, step.KeepsWritable) := by
  refine steps_induction ?_ fun step => ScoreStep.keepsWritable_of_filtering
  intro step building scoring own w change listed
  cases SearchStep.makes_of_mem listed with
  | @edit e args change accepted =>
    obtain ⟨a, _, made⟩ := bind_eq_ok.mp accepted
    cases e with
    | role | minimumShouldMatch =>
      cases made
      trivial
    | _ =>
      obtain ⟨value, _, same⟩ := bind_eq_ok.mp made
      cases same
      trivial
  | leaf requested =>
    intro clause added
    obtain ⟨leaf, asked, rfl⟩ := List.mem_map.mp added
    rw [Clause.toJson]
    exact LeafKind.succeeds_of_request requested asked
  -- A clause that is spelled out is not of the step's own making, which the hypothesis excludes.
  | append => cases own
  | built made =>
    exact List.forall_mem_singleton.mpr (Composite.succeeds_of_clause own building scoring made)
  | offset page | size page => trivial

namespace SearchStep

theorem writable_final {steps : List SearchStep} (own : ∀ step ∈ steps, step.isOwn = true)
    (w : World) {s : Search} (writable : s.Writable) : (final steps (w, s)).2.Writable := by
  have keeps (step : SearchStep) (listed : step ∈ steps) (state : World × Search)
      (before : state.2.Writable) : (step.run state.1 state.2).state.2.Writable :=
    writable_run (steps_addWritable.1 step) (own step listed) state.1 before
  exact final_invariant (P := fun state => state.2.Writable) keeps writable

end SearchStep

theorem Search.Writable.succeeds_body {s : Search} (writable : s.Writable) :
    Succeeds s.document.body ↔
      ∀ a ∈ s.document.aggregations.entries, a.computation.ordersByContainer = false := by
  obtain ⟨query, queried⟩ : Succeeds s.document.queryEntry := by
    unfold Document.queryEntry
    split
    · exact succeeds_ok _
    · exact succeeds_bind.mpr
        (writable.query.succeeds_toJson.imp fun _ json => ⟨json, succeeds_ok _⟩)
  have aggregated : Succeeds s.document.aggregationsEntry ↔
      ∀ a ∈ s.document.aggregations.entries, Succeeds a.toJson := by
    unfold Document.aggregationsEntry
    split
    · rename_i none
      rw [List.isEmpty_iff.mp none]
      exact iff_of_true (succeeds_ok _) nofun
    · rw [← AggregationTable.succeeds_toJsonList, succeeds_bind]
      exact ⟨fun ⟨jsons, listed, _⟩ => ⟨jsons, listed⟩,
        fun ⟨jsons, listed⟩ => ⟨jsons, listed, succeeds_ok _⟩⟩
  have requested : (∀ a ∈ s.document.aggregations.entries, Succeeds a.toJson) ↔
      ∀ a ∈ s.document.aggregations.entries, a.computation.ordersByContainer = false :=
    forall₂_congr fun a listed => writable.aggregations a listed
  rw [← requested, ← aggregated, Document.body, queried, bind_ok, succeeds_bind]
  exact ⟨fun ⟨entry, written, _⟩ => ⟨entry, written⟩,
    fun ⟨entry, written⟩ => ⟨entry, written, succeeds_ok _⟩⟩

end SearchRequest
