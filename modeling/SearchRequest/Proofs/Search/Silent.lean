import SearchRequest.Proofs.Outcome
import SearchRequest.Search.Step

/-!
Outcomes that are reached without sending anything. A search that is sent and answered leaves a
request behind, so a step that asks for an answer is never done silently.
-/

namespace SearchRequest

/-- The outcome is a value and a state, and no request was sent on the way to them. -/
structure Outcome.Gives {σ α : Type} (o : Outcome σ α) (value : α) (state : σ) : Prop where
  result : o.result = .ok value
  state : o.state = state
  silent : o.report.requests = []

namespace Outcome

variable {σ τ α β : Type}

@[simp] theorem gives_succeed {start state : σ} {done value : α} :
    (succeed start done).Gives value state ↔ done = value ∧ start = state := by
  constructor
  · rintro ⟨result, reached, _⟩
    exact ⟨Except.ok.inj result, reached⟩
  · rintro ⟨rfl, rfl⟩
    exact ⟨rfl, rfl, rfl⟩

@[simp] theorem not_gives_fail {start state : σ} {failure : Failure} {value : α} :
    ¬ (fail start failure).Gives value state := by
  rintro ⟨result, _, _⟩
  cases result

theorem gives_andThen {o : Outcome σ α} {next : α → σ → Outcome σ β} {value : β} {state : σ} :
    (o.andThen next).Gives value state ↔
      ∃ first middle, o.Gives first middle ∧ (next first middle).Gives value state := by
  constructor
  · intro done
    cases first : o.result with
    | error failure =>
      rw [andThen_of_error first] at done
      cases done.result
    | ok value =>
      rw [andThen_of_ok first] at done
      obtain ⟨before, after⟩ := List.append_eq_nil_iff.mp done.silent
      exact ⟨value, o.state, ⟨first, rfl, before⟩, done.result, done.state, after⟩
  · rintro ⟨first, middle, ⟨result, rfl, before⟩, after⟩
    rw [andThen_of_ok result]
    exact ⟨after.result, after.state, List.append_eq_nil_iff.mpr ⟨before, after.silent⟩⟩

theorem gives_within {o : Outcome σ α} {embed : σ → τ} {value : α} {state : τ} :
    (o.within embed).Gives value state ↔ ∃ inner, o.Gives value inner ∧ embed inner = state := by
  constructor
  · rintro ⟨result, rfl, silent⟩
    exact ⟨o.state, ⟨result, rfl, silent⟩, rfl⟩
  · rintro ⟨inner, ⟨result, rfl, silent⟩, rfl⟩
    exact ⟨result, rfl, silent⟩

theorem gives_noting {o : Outcome σ α} {earlier : Report} {value : α} {state : σ} :
    (o.noting earlier).Gives value state ↔ earlier.requests = [] ∧ o.Gives value state := by
  constructor
  · rintro ⟨result, reached, silent⟩
    obtain ⟨before, after⟩ := List.append_eq_nil_iff.mp silent
    exact ⟨before, result, reached, after⟩
  · rintro ⟨before, result, reached, after⟩
    exact ⟨result, reached, List.append_eq_nil_iff.mpr ⟨before, after⟩⟩

theorem gives_handedTo {o : Outcome (World × τ) Unit} {owner : σ} {built : τ}
    {state : World × σ} :
    (o.handedTo owner).Gives built state ↔
      ∃ w, o.Gives () (w, built) ∧ state = (w, owner) := by
  constructor
  · rintro ⟨result, reached, silent⟩
    cases done : o.result with
    | error failure => simp [handedTo, done] at result
    | ok _ =>
      have same : o.state.2 = built := by simpa [handedTo, done] using result
      exact ⟨o.state.1, ⟨done, Prod.ext rfl same, silent⟩, reached.symm⟩
  · rintro ⟨w, ⟨result, reached, silent⟩, rfl⟩
    refine ⟨?_, ?_, silent⟩
    · simp only [handedTo, result, reached, map_ok]
    · simp only [handedTo, reached]

end Outcome

theorem Connection.not_gives_search {c after : Connection} {index docType body answer : Json} :
    ¬ (c.search index docType body).Gives answer after := by
  intro given
  unfold search at given
  split at given
  · exact Outcome.not_gives_fail given
  · split at given
    · unfold post at given
      split at given
      · exact Outcome.not_gives_fail given
      · obtain ⟨server, open_, _, given⟩ := Outcome.gives_andThen.mp given
        split at given
        · exact Outcome.not_gives_fail given
        · exact absurd (Outcome.gives_noting.mp given).1 (List.cons_ne_nil _ _)
    · unfold query at given
      split at given
      · obtain ⟨server, open_, _, given⟩ := Outcome.gives_andThen.mp given
        split at given
        · exact Outcome.not_gives_fail given
        · exact absurd (Outcome.gives_noting.mp given).1 (List.cons_ne_nil _ _)
      · exact Outcome.not_gives_fail given

theorem Link.not_gives_search {l after : Link} {index docType : Option String} {body : Object}
    {payload : Payload} : ¬ (l.search index docType body).Gives payload after := by
  intro given
  cases l with
  | absent => exact Outcome.not_gives_fail given
  | direct server closable => exact absurd given.silent (List.cons_ne_nil _ _)
  | managed connection =>
    cases answered : (connection.search (.ofText? index) (.ofText? docType) (.obj body)).result with
    | error failure => simpa [search, answered] using given.result
    | ok answer => exact Connection.not_gives_search ⟨answered, rfl, given.silent⟩

namespace Search

theorem not_gives_send {s : Search} {w after : World} {payload : Payload} :
    ¬ (s.send w).Gives payload after := by
  intro given
  unfold send at given
  split at given
  · exact Outcome.not_gives_fail given
  · split at given
    · exact Outcome.not_gives_fail given
    · obtain ⟨link, sent, _⟩ := Outcome.gives_within.mp given
      exact Link.not_gives_search sent

theorem not_gives_execute {s : Search} {w after : World} {result : Result} :
    ¬ (s.execute w).Gives result after := by
  intro given
  obtain ⟨payload, w', sent, _⟩ := Outcome.gives_andThen.mp given
  exact not_gives_send sent

theorem not_gives_paginate {s : Search} {w : World} {limit number : Json} {paginator : Paginator}
    {after : World × Search} : ¬ (s.paginate w limit number).Gives paginator after := by
  intro given
  unfold paginate at given
  split at given
  · exact Outcome.not_gives_fail given
  · obtain ⟨result, state, executed, _⟩ := Outcome.gives_andThen.mp given
    obtain ⟨w', answered, _⟩ := Outcome.gives_within.mp executed
    exact not_gives_execute answered

end Search

namespace SearchStep

def asks : SearchStep → Bool
  | .fetch _ | .execute _ | .paginate _ => true
  | _ => false

theorem not_gives_of_asks {step : SearchStep} (asks : step.asks = true) {w : World} {s : Search}
    {answer : Answer} {after : World × Search} : ¬ (step.run w s).Gives answer after := by
  intro given
  cases step with
  | fetch args =>
    simp only [run, fetched] at given
    split at given
    · exact Outcome.not_gives_fail given
    · obtain ⟨payload, state, given, _⟩ := Outcome.gives_andThen.mp given
      obtain ⟨w', sent, _⟩ := Outcome.gives_within.mp given
      exact Search.not_gives_send sent
  | execute args =>
    simp only [run, executed] at given
    split at given
    · exact Outcome.not_gives_fail given
    · obtain ⟨result, state, given, _⟩ := Outcome.gives_andThen.mp given
      obtain ⟨w', answered, _⟩ := Outcome.gives_within.mp given
      exact Search.not_gives_execute answered
  | paginate args =>
    simp only [run, paginated] at given
    split at given
    · exact Outcome.not_gives_fail given
    · obtain ⟨paginator, state, given, _⟩ := Outcome.gives_andThen.mp given
      exact Search.not_gives_paginate given
  | _ => cases asks

theorem gives_changed {w : World} {s : Search} {attempt : Except Failure Change} {answer : Answer}
    {after : World × Search} :
    (changed w s attempt).Gives answer after ↔
      ∃ change, attempt = .ok change ∧ answer = .nothing ∧ after = (w, s.apply change) := by
  cases attempt with
  | error failure => simp [changed]
  | ok change => simp [changed, eq_comm]

theorem gives_runAll_cons {step : SearchStep} {rest : List SearchStep} {w : World} {s : Search}
    {after : World × Search} :
    (runAll (step :: rest) w s).Gives () after ↔
      ∃ answer middle, (step.run w s).Gives answer middle ∧
        (runAll rest middle.1 middle.2).Gives () after := by
  rw [runAll, Outcome.gives_andThen]

end SearchStep

theorem ScoreStep.gives_runAll_cons {step : ScoreStep} {rest : List ScoreStep} {w : World}
    {s : Scoring} {after : World × Scoring} :
    (runAll (step :: rest) w s).Gives () after ↔
      ∃ answer middle, (step.run w s).Gives answer middle ∧
        (runAll rest middle.1 middle.2).Gives () after := by
  rw [runAll, Outcome.gives_andThen]

end SearchRequest
