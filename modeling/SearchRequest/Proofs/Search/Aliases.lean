import SearchRequest.Proofs.Aggregation.Aliases
import SearchRequest.Proofs.Search.Failing
import SearchRequest.Proofs.Search.Logging
import SearchRequest.Proofs.Search.Query
import SearchRequest.Proofs.Search.Writable

/-!
Aggregations over a whole run. Whether steps add them to a document of its own or in any number of
groups to that of a search, what the document has and what the log tells follows from the list of
those that were added: the last one under an alias stands, at the place of the first.
-/

namespace SearchRequest

open Aggregation

/-- The document and the log are what aggregations leave that were added one after the other. -/
structure Document.Holds (d : Document) (added : List Aggregation) (log : List Event) : Prop where
  aliases : d.aggregations.aliases = aliasesOf added
  latest : ∀ name, d.aggregations.get? name = latest? added name
  among : ∀ a ∈ d.aggregations.entries, a ∈ added
  logged : log = replacements added

/-- The body has an entry for aggregations if there are any, with what is written for the last one
under each alias. -/
structure Aggregation.WrittenIn (body : Object) (added : List Aggregation) : Prop where
  absent : body.get? "aggs" = none ↔ added = []
  listed : added ≠ [] → ∃ entries : Object, body.get? "aggs" = some (.obj entries) ∧
    entries.keys = aliasesOf added ∧
    ∀ name ∈ aliasesOf added, ∃ a json, latest? added name = some a ∧ a.toJson = .ok json ∧
      entries.get? name = some json

namespace Document

variable {d : Document} {added : List Aggregation} {log : List Event}

theorem holds_nothing (none : d.aggregations = .empty) : d.Holds [] [] := by
  refine ⟨?_, fun name => ?_, ?_, rfl⟩
  · rw [none]
    rfl
  · rw [none]
    rfl
  · rw [none]
    exact nofun

theorem Holds.of_same {other : Document} (holds : d.Holds added log)
    (same : other.aggregations = d.aggregations) : other.Holds added log :=
  ⟨same ▸ holds.aliases, same ▸ holds.latest, same ▸ holds.among, holds.logged⟩

theorem Holds.inserted (holds : d.Holds added log) (attempt : Except Failure Aggregation) :
    (AggregationStep.inserted d attempt).state.Holds (added ++ attempt.toOption.toList)
      (log ++ (AggregationStep.inserted d attempt).report.events) := by
  cases attempt with
  | error failure =>
    change d.Holds (added ++ []) (log ++ [])
    rwa [List.append_nil, List.append_nil]
  | ok a =>
    refine ⟨?_, fun name => ?_, fun entry listed => ?_, ?_⟩
    · change (d.aggregations.insert a).aliases = aliasesOf (added ++ [a])
      rw [AggregationTable.aliases_insert, aliasesOf_concat, holds.aliases]
    · change (d.aggregations.insert a).get? name = latest? (added ++ [a]) name
      rw [AggregationTable.get?_insert, latest?_concat, holds.latest]
    · rcases AggregationTable.mem_insert listed with rfl | old
      · exact List.mem_append_right added (List.mem_singleton_self _)
      · exact List.mem_append_left _ (holds.among entry old)
    · change log ++ (d.overriding a).events = replacements (added ++ [a])
      rw [replacements_concat, holds.logged]
      simp only [overriding, replacing, holds.latest]
      cases latest? added a.name <;> rfl

theorem Holds.isEmpty_iff (holds : d.Holds added log) :
    d.aggregations.entries.isEmpty = true ↔ added = [] := by
  have none : aliasesOf added = [] ↔ added = [] := aliasesOf_eq_nil
  rw [List.isEmpty_iff, ← none, ← holds.aliases, AggregationTable.aliases, List.map_eq_nil_iff]

theorem Holds.succeeds_aggregationsEntry (holds : d.Holds added log)
    (each : ∀ a ∈ added, Succeeds a.toJson) : Succeeds d.aggregationsEntry := by
  unfold aggregationsEntry
  split
  · exact succeeds_ok _
  · obtain ⟨jsons, listed⟩ := AggregationTable.succeeds_toJsonList.mpr
      fun a member => each a (holds.among a member)
    rw [listed]
    exact succeeds_ok _

theorem aggs_of_body {body aggregations : Object}
    (aggregated : d.aggregationsEntry = .ok aggregations) (compiled : d.body = .ok body) :
    body.get? "aggs" = aggregations.get? "aggs" := by
  obtain ⟨query, entry, queried, same, rfl⟩ := body_eq_ok.mp compiled
  rw [aggregated] at same
  cases same
  have absent {part : Object} (other : "aggs" ∉ part.keys) : part.get? "aggs" = none :=
    Object.get?_eq_none.mpr other
  have query := absent fun listed => absurd (mem_keys_queryEntry queried listed) (by decide)
  have sort := absent fun listed => absurd (mem_keys_sortEntry (d := d) listed) (by decide)
  have highlight := absent fun listed =>
    absurd (mem_keys_highlightEntry (d := d) listed) (by decide)
  have window : d.windowEntries.get? "aggs" = none := absent fun listed => by
    have named := Object.mem_keys_given listed
    simp [Object.keys] at named
  simp only [furtherEntries, Object.get?_append, query, sort, highlight, window, Option.none_or,
    Option.or_none]

theorem Holds.writtenIn (holds : d.Holds added log) {body : Object} (compiled : d.body = .ok body) :
    Aggregation.WrittenIn body added := by
  obtain ⟨query, aggregations, queried, aggregated, _⟩ := body_eq_ok.mp compiled
  have entry := aggs_of_body aggregated compiled
  unfold aggregationsEntry at aggregated
  split at aggregated
  · rename_i empty
    have nothing := holds.isEmpty_iff.mp empty
    cases aggregated
    exact ⟨iff_of_true entry nothing, fun filled => absurd nothing filled⟩
  · rename_i filled
    obtain ⟨jsons, listed, same⟩ := bind_eq_ok.mp aggregated
    cases same
    have something : added ≠ [] := fun nothing => filled (holds.isEmpty_iff.mpr nothing)
    refine ⟨iff_of_false (fun absent => ?_) something, fun _ => ⟨jsons, entry, ?_, ?_⟩⟩
    · cases entry.symm.trans absent
    · rw [AggregationTable.keys_toJsonList listed]
      exact holds.aliases
    · intro name among
      obtain ⟨a, latest⟩ := exists_latest? among
      obtain ⟨json, written, at_⟩ :=
        AggregationTable.get?_toJsonList listed ((holds.latest name).trans latest)
      exact ⟨a, json, latest, written, at_⟩

end Document

namespace AggregationStep

def contribution (step : AggregationStep) (d : Document) : List Aggregation :=
  match (step.run d).result with
  | .ok _ => step.added
  | .error _ => []

def history : List AggregationStep → Document → List Aggregation
  | [], _ => []
  | step :: rest, d => step.contribution d ++ history rest (step.run d).state

def contributionAll : List AggregationStep → Document → List Aggregation
  | [], _ => []
  | step :: rest, d => match (step.run d).result with
      | .ok _ => step.contribution d ++ contributionAll rest (step.run d).state
      | .error _ => []

variable {d : Document} {before : List Aggregation} {log : List Event}

theorem contribution_eq_added (step : AggregationStep) (d : Document) :
    step.contribution d = step.added := by
  cases step with
  | add kind args => simp only [contribution, run, added]; cases kind.request args <;> rfl
  | append spec => simp only [contribution, run, added]; cases Aggregation.ofJson spec <;> rfl
  | _ => simp only [contribution, added]; split <;> rfl

theorem holds_run (holds : d.Holds before log) (step : AggregationStep) :
    (step.run d).state.Holds (before ++ step.contribution d)
      (log ++ (step.run d).report.events) := by
  rw [contribution_eq_added]
  cases step with
  | add kind args => exact holds.inserted (kind.request args)
  | append spec => exact holds.inserted (Aggregation.ofJson spec)
  | _ =>
    change d.Holds (before ++ []) (log ++ [])
    rwa [List.append_nil, List.append_nil]

theorem holds_runAll (holds : d.Holds before log) (steps : List AggregationStep) :
    (runAll steps d).state.Holds (before ++ contributionAll steps d)
      (log ++ (runAll steps d).report.events) := by
  induction steps generalizing d before log with
  | nil =>
    change d.Holds (before ++ []) (log ++ [])
    rwa [List.append_nil, List.append_nil]
  | cons step rest ih =>
    have first := holds_run holds step
    rw [runAll, contributionAll]
    cases result : (step.run d).result with
    | error failure =>
      have none : step.contribution d = [] := by simp only [contribution, result]
      rw [none] at first
      rw [Outcome.andThen_of_error result]
      exact first
    | ok answer =>
      have others := ih first
      rw [List.append_assoc, List.append_assoc] at others
      rw [Outcome.andThen_of_ok result]
      exact others

theorem holds_each (holds : d.Holds before log) (steps : List AggregationStep) :
    (Outcome.last (Outcome.each run steps d) d).Holds (before ++ history steps d)
      (log ++ (Outcome.each run steps d).flatMap (·.report.events)) := by
  induction steps generalizing d before log with
  | nil =>
    change d.Holds (before ++ []) (log ++ [])
    rwa [List.append_nil, List.append_nil]
  | cons step rest ih =>
    have others := ih (holds_run holds step)
    rw [List.append_assoc, List.append_assoc] at others
    rw [Outcome.last_each_cons]
    exact others

theorem regroups_run (step : AggregationStep) (d : Document) :
    ∃ table, (step.run d).state = { d with aggregations := table } := by
  cases step with
  | add kind args => simp only [run]; cases kind.request args <;> exact ⟨_, rfl⟩
  | append spec => simp only [run]; cases Aggregation.ofJson spec <;> exact ⟨_, rfl⟩
  | _ => exact ⟨_, rfl⟩

theorem regroups_runAll (steps : List AggregationStep) (d : Document) :
    ∃ table, (runAll steps d).state = { d with aggregations := table } := by
  induction steps generalizing d with
  | nil => exact ⟨_, rfl⟩
  | cons step rest ih =>
    have first := step.regroups_run d
    rw [runAll]
    refine Outcome.andThen_invariant
      (P := fun after : Document => ∃ table, after = { d with aggregations := table }) first
      fun _ => ?_
    obtain ⟨table, after⟩ := first
    obtain ⟨last, reached⟩ := ih { d with aggregations := table }
    exact ⟨last, by rw [after, reached]⟩

theorem regroups_each (steps : List AggregationStep) (d : Document) :
    ∃ table, Outcome.last (Outcome.each run steps d) d = { d with aggregations := table } := by
  induction steps generalizing d with
  | nil => exact ⟨_, rfl⟩
  | cons step rest ih =>
    obtain ⟨table, after⟩ := step.regroups_run d
    obtain ⟨last, reached⟩ := ih { d with aggregations := table }
    exact ⟨last, by rw [Outcome.last_each_cons, after, reached]⟩

end AggregationStep

namespace SearchStep

/-- The aggregations that the step adds to the search's own document. -/
def grouped (s : Search) : SearchStep → List Aggregation
  | .aggregate args (some steps) => match Search.aggregateSignature.bind args with
      | .error _ => []
      | .ok _ => AggregationStep.contributionAll steps s.document
  | _ => []

def groupedAll : List SearchStep → World × Search → List Aggregation
  | [], _ => []
  | step :: rest, state =>
      step.grouped state.2 ++ groupedAll rest (step.run state.1 state.2).state

/-- The log of a run, without what is logged of searches that are built on the way. -/
def ownLog : List SearchStep → World × Search → List Event
  | [], _ => []
  | step :: rest, state =>
      (if step.isComposite then [] else (step.run state.1 state.2).report.events) ++
        ownLog rest (step.run state.1 state.2).state

theorem events_aggregated (steps : List AggregationStep) {args a : Object}
    (bound : Search.aggregateSignature.bind args = .ok a) (w : World) (s : Search) :
    (aggregated args (some steps) w s).report.events =
      (AggregationStep.runAll steps s.document).report.events := by
  simp only [aggregated, bound]
  cases result : (AggregationStep.runAll steps s.document).result with
  | error failure => simp only [Outcome.andThen, Outcome.within, result]
  | ok done =>
    simp only [Outcome.andThen, Outcome.within, result]
    exact List.append_nil _

theorem holds_aggregate {s : Search} {added : List Aggregation} {log : List Event}
    (holds : s.document.Holds added log) (args : Object) (build : Option (List AggregationStep))
    (w : World) :
    (aggregated args build w s).state.2.document.Holds
      (added ++ (aggregate args build).grouped s)
      (log ++ (aggregated args build w s).report.events) := by
  cases bound : Search.aggregateSignature.bind args with
  | error failure =>
    have nothing : (aggregate args build).grouped s = [] := by
      cases build <;> simp only [grouped, bound]
    rw [nothing]
    simp only [aggregated, bound]
    change s.document.Holds (added ++ []) (log ++ [])
    rwa [List.append_nil, List.append_nil]
  | ok a =>
    cases build with
    | none =>
      simp only [aggregated, bound]
      change s.document.Holds (added ++ []) (log ++ [])
      rwa [List.append_nil, List.append_nil]
    | some steps =>
      have run := AggregationStep.holds_runAll holds steps
      rw [search_aggregated, events_aggregated steps bound]
      simp only [withAggregations, grouped, bound]
      exact run

theorem own_replacements {step : SearchStep} (other : ∀ args build, step ≠ .aggregate args build)
    (w : World) (s : Search) :
    (if step.isComposite then [] else (step.run w s).report.events).filter Event.isReplacement =
      [] := by
  split
  · rfl
  · rename_i simple
    rw [List.filter_eq_nil_iff]
    intro e listed replaces
    have answering := logs_of_simple (Bool.eq_false_iff.mpr simple) other w s e listed
    cases e with
    | aggregationOverridden name previous current => cases answering
    | _ => cases replaces

theorem holds_run {s : Search} {added : List Aggregation} {log : List Event}
    (holds : s.document.Holds added log) (step : SearchStep) (w : World) :
    (step.run w s).state.2.document.Holds (added ++ step.grouped s)
      (log ++ (if step.isComposite then [] else (step.run w s).report.events).filter
        Event.isReplacement) := by
  by_cases group : ∃ args build, step = .aggregate args build
  · obtain ⟨args, build, rfl⟩ := group
    have after := holds_aggregate holds args build w
    have own : ∀ e ∈ (aggregated args build w s).report.events, e.isReplacement = true := by
      intro e listed
      have among := List.mem_append_right log listed
      rw [after.logged] at among
      exact isReplacement_of_mem among
    have all := List.filter_eq_self.mpr own
    exact (congrArg (fun events => Document.Holds _ _ (log ++ events)) all).mpr after
  · have other : ∀ args build, step ≠ .aggregate args build :=
      fun args build same => group ⟨args, build, same⟩
    have kept : (step.run w s).state.2.document.aggregations = s.document.aggregations := by
      rw [search_run, Search.aggregations_applyAll]
      cases step <;> first | rfl | exact absurd rfl (other _ _)
    have nothing : step.grouped s = [] := by
      cases step <;> first | rfl | exact absurd rfl (other _ _)
    rw [own_replacements other, nothing, List.append_nil, List.append_nil]
    exact holds.of_same kept

theorem holds_final {w : World} {s : Search} {added : List Aggregation} {log : List Event}
    (holds : s.document.Holds added log) (steps : List SearchStep) :
    (final steps (w, s)).2.document.Holds (added ++ groupedAll steps (w, s))
      (log ++ (ownLog steps (w, s)).filter Event.isReplacement) := by
  induction steps generalizing w s added log with
  | nil =>
    change s.document.Holds (added ++ []) (log ++ [])
    rwa [List.append_nil, List.append_nil]
  | cons step rest ih =>
    have others := ih (w := (step.run w s).state.1) (holds_run holds step w)
    rw [List.append_assoc, List.append_assoc, ← List.filter_append] at others
    rw [final, Outcome.last_each_cons]
    exact others

theorem regroups_aggregate (args : Object) (build : Option (List AggregationStep)) (w : World)
    (s : Search) :
    ∃ table, ((aggregate args build).run w s).state =
      (w, s.withDocument { s.document with aggregations := table }) := by
  simp only [run, aggregated]
  split
  · exact ⟨_, rfl⟩
  · exact ⟨_, rfl⟩
  · rename_i steps _
    obtain ⟨table, after⟩ := AggregationStep.regroups_runAll steps s.document
    rw [Outcome.andThen_state fun _ _ => rfl]
    exact ⟨table, congrArg (fun d => (w, s.withDocument d)) after⟩

end SearchStep

open SearchStep in
/-- Of the aggregations that were added under one alias the last one stands, where the alias first
appeared, and each that took the place of another was logged with the kinds of the two; nothing
else of the document is changed. It is the same whether the steps work on a document of its own or
in groups on that of a search, with any other steps between them and any of the steps failing. -/
theorem latest_aggregation_stands :
    (∀ steps : List AggregationStep,
      let outcomes := Outcome.each AggregationStep.run steps .empty
      let d := Outcome.last outcomes .empty
      let added := AggregationStep.history steps .empty
      d.aggregations.aliases = aliasesOf added ∧
        outcomes.flatMap (·.report.events) = replacements added ∧
        (∃ table, d = { Document.empty with aggregations := table }) ∧
        ((∀ a ∈ added, Succeeds a.toJson) → ∃ body, d.body = .ok body ∧ WrittenIn body added)) ∧
    (∀ (w : World) (steps : List SearchStep),
      let d := (final steps (w, .fresh)).2.document
      let added := groupedAll steps (w, .fresh)
      d.aggregations.aliases = aliasesOf added ∧
        (ownLog steps (w, .fresh)).filter Event.isReplacement = replacements added ∧
        ((∀ a ∈ added, Succeeds a.toJson) → (Succeeds d.body ↔ Succeeds d.queryEntry)) ∧
        ∀ body, d.body = .ok body → WrittenIn body added) ∧
    ∀ (args : Object) (build : Option (List AggregationStep)) (w : World) (s : Search),
      ∃ table, ((SearchStep.aggregate args build).run w s).state =
        (w, s.withDocument { s.document with aggregations := table }) := by
  refine ⟨fun steps => ?_, fun w steps => ?_, regroups_aggregate⟩
  · have holds := AggregationStep.holds_each (Document.holds_nothing (d := .empty) rfl) steps
    obtain ⟨table, regrouped⟩ := AggregationStep.regroups_each steps .empty
    refine ⟨holds.aliases, holds.logged, ⟨table, regrouped⟩, fun each => ?_⟩
    obtain ⟨entry, aggregated⟩ := holds.succeeds_aggregationsEntry each
    have queried :
        (Outcome.last (Outcome.each AggregationStep.run steps .empty) .empty).queryEntry =
          .ok [] := by
      rw [regrouped]
      rfl
    have compiled := Document.body_eq_ok.mpr ⟨[], entry, queried, aggregated, rfl⟩
    exact ⟨_, compiled, holds.writtenIn compiled⟩
  · have holds :=
      holds_final (w := w) (Document.holds_nothing (d := Search.fresh.document) rfl) steps
    refine ⟨holds.aliases, holds.logged, fun each => ?_, fun body => holds.writtenIn⟩
    -- With writable aggregations only the query can keep the body from being written.
    obtain ⟨entry, aggregated⟩ := holds.succeeds_aggregationsEntry each
    constructor
    · rintro ⟨body, compiled⟩
      obtain ⟨query, _, queried, _, _⟩ := Document.body_eq_ok.mp compiled
      exact ⟨query, queried⟩
    · rintro ⟨query, queried⟩
      exact ⟨_, Document.body_eq_ok.mpr ⟨query, entry, queried, aggregated, rfl⟩⟩

def AggregationStep.repriced : List AggregationStep :=
  [.add (.metric .avg) [("alias", .str "price"), ("field", .str "price")],
   .add .terms [("alias", .str "brands"), ("field", .str "brand")],
   .add .missing [("alias", .str "price")],
   .add (.metric .max) [("alias", .str "price"), ("field", .str "price")]]

theorem latest_aggregation_stands_repriced :
    let outcomes := Outcome.each AggregationStep.run AggregationStep.repriced .empty
    let added := AggregationStep.history AggregationStep.repriced .empty
    (∀ a ∈ added, Succeeds a.toJson) ∧ aliasesOf added = ["price", "brands"] ∧
      outcomes.flatMap (·.report.events) =
        [.aggregationOverridden "price" (.metric .avg) (.metric .max)] ∧
      ∃ body, (Outcome.last outcomes .empty).body = .ok body ∧ WrittenIn body added ∧
        body.get? "aggs" = some (.obj
          [("price", Object.only "max" (.obj [("field", .str "price")])),
           ("brands", Object.only "terms" (.obj [("field", .str "brand")]))]) := by
  have each : ∀ a ∈ AggregationStep.history AggregationStep.repriced .empty, Succeeds a.toJson :=
    List.forall_mem_cons.mpr ⟨⟨_, rfl⟩, List.forall_mem_cons.mpr ⟨⟨_, rfl⟩,
      List.forall_mem_cons.mpr ⟨⟨_, rfl⟩, List.forall_mem_nil _⟩⟩⟩
  obtain ⟨_, logged, _, compiles⟩ := latest_aggregation_stands.1 AggregationStep.repriced
  obtain ⟨body, compiled, writtenIn⟩ := compiles each
  refine ⟨each, by decide, logged.trans (by decide), body, compiled, writtenIn, ?_⟩
  cases compiled
  rfl

end SearchRequest
