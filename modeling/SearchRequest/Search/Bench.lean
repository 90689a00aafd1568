import SearchRequest.Search.Reader

/-!
A scoring beside the search that its query was taken from. Work may go on on either of them; the
query of the scoring stays what it was when it was taken.
-/

namespace SearchRequest

structure ScoreBench where
  world : World
  inner : Search
  scoring : Scoring

inductive BenchStep
  | score (step : ScoreStep)
  | inner (steps : List SearchStep)

namespace ScoreBench

def start (w : World) (inner : Search) (parameters : Json) : Except Failure ScoreBench := do
  let scoring ← Scoring.start inner.document.query parameters
  .ok ⟨w, inner, scoring⟩

end ScoreBench

namespace BenchStep

def run (step : BenchStep) (b : ScoreBench) : Outcome ScoreBench Answer :=
  match step with
  | .score step =>
      (step.run b.world b.scoring).within fun state =>
        { b with world := state.1, scoring := state.2 }
  | .inner steps =>
      let o := (SearchStep.runAll steps b.world b.inner).within fun state =>
        { b with world := state.1, inner := state.2 }
      o.andThen fun _ b => .succeed b .nothing

def ofJson (step : Json) : BenchStep :=
  match (Call.entriesOf step).get? "inner" with
  | some steps => .inner ((SearchStep.list? steps).getD [])
  | none => .score (ScoreStep.ofJson step)

end BenchStep

end SearchRequest
