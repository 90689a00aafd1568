import SearchRequest.Search.Step

/-!
The steps directly inside a step, and the induction over steps that they give: what holds of a
step whenever it holds of the steps inside it holds of every step.
-/

namespace SearchRequest

namespace SearchStep

def building : SearchStep → List SearchStep
  | .nested _ (some steps) => steps
  | .functions _ (some steps) _ => steps
  | _ => []

def scoring : SearchStep → List ScoreStep
  | .functions _ _ (some steps) => steps
  | _ => []

end SearchStep

def ScoreStep.filtering : ScoreStep → List SearchStep
  | .add _ _ (some steps) => steps
  | _ => []

section Induction

variable {P : SearchStep → Prop} {Q : ScoreStep → Prop}

mutual

private theorem SearchStep.holds
    (search : ∀ step : SearchStep,
      (∀ inner ∈ step.building, P inner) → (∀ inner ∈ step.scoring, Q inner) → P step)
    (score : ∀ step : ScoreStep, (∀ inner ∈ step.filtering, P inner) → Q step) :
    ∀ step : SearchStep, P step
  | .nested _ (some steps) => search _ (SearchStep.holdsAll search score steps) nofun
  | .functions _ (some steps) (some scoring) =>
      search _ (SearchStep.holdsAll search score steps) (ScoreStep.holdsAll search score scoring)
  | .functions _ (some steps) none => search _ (SearchStep.holdsAll search score steps) nofun
  | .functions _ none (some scoring) => search _ nofun (ScoreStep.holdsAll search score scoring)
  | .functions _ none none | .nested _ none | .edit .. | .leaf .. | .append _ | .aggregate ..
  | .view .. | .fetch _ | .execute _ | .paginate _ | .observe | .part | .unknown =>
      search _ nofun nofun

private theorem SearchStep.holdsAll
    (search : ∀ step : SearchStep,
      (∀ inner ∈ step.building, P inner) → (∀ inner ∈ step.scoring, Q inner) → P step)
    (score : ∀ step : ScoreStep, (∀ inner ∈ step.filtering, P inner) → Q step) :
    ∀ steps : List SearchStep, ∀ step ∈ steps, P step
  | [] => nofun
  | first :: rest => List.forall_mem_cons.mpr
      ⟨SearchStep.holds search score first, SearchStep.holdsAll search score rest⟩

private theorem ScoreStep.holds
    (search : ∀ step : SearchStep,
      (∀ inner ∈ step.building, P inner) → (∀ inner ∈ step.scoring, Q inner) → P step)
    (score : ∀ step : ScoreStep, (∀ inner ∈ step.filtering, P inner) → Q step) :
    ∀ step : ScoreStep, Q step
  | .add _ _ (some steps) => score _ (SearchStep.holdsAll search score steps)
  | .add _ _ none | .query _ | .observe | .part | .unknown => score _ nofun

private theorem ScoreStep.holdsAll
    (search : ∀ step : SearchStep,
      (∀ inner ∈ step.building, P inner) → (∀ inner ∈ step.scoring, Q inner) → P step)
    (score : ∀ step : ScoreStep, (∀ inner ∈ step.filtering, P inner) → Q step) :
    ∀ steps : List ScoreStep, ∀ step ∈ steps, Q step
  | [] => nofun
  | first :: rest => List.forall_mem_cons.mpr
      ⟨ScoreStep.holds search score first, ScoreStep.holdsAll search score rest⟩

end

/-- Induction over steps on a search and steps on a scoring at once. -/
theorem steps_induction
    (search : ∀ step : SearchStep,
      (∀ inner ∈ step.building, P inner) → (∀ inner ∈ step.scoring, Q inner) → P step)
    (score : ∀ step : ScoreStep, (∀ inner ∈ step.filtering, P inner) → Q step) :
    (∀ step, P step) ∧ (∀ step, Q step) :=
  ⟨SearchStep.holds search score, ScoreStep.holds search score⟩

end Induction

end SearchRequest
