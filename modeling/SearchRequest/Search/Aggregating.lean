import SearchRequest.Aggregation.Signature
import SearchRequest.Search.World

/-!
Adding aggregations to a document. Of two with one alias the later one stands, which is noted.
-/

namespace SearchRequest

inductive AggregationStep
  | add (kind : AggregationKind) (args : Object)
  | append (spec : Json)
  | compile (args : Object)
  | observe
  | part
  | unknown
deriving DecidableEq, Repr

namespace Document

def aggregate (d : Document) (a : Aggregation) : Document :=
  { d with aggregations := d.aggregations.insert a }

def overriding (d : Document) (a : Aggregation) : Report :=
  match d.aggregations.get? a.name with
  | none => .empty
  | some previous => .ofEvent (.aggregationOverridden a.name previous.kind a.kind)

def aggregationSnapshot (d : Document) : Snapshot := .aggregations d.aggregations.aliases d.body

end Document

namespace AggregationStep

def inserted (d : Document) : Except Failure Aggregation → Outcome Document Answer
  | .error failure => .fail d failure
  | .ok a => ⟨.ok .nothing, d.aggregate a, d.overriding a⟩

def run (step : AggregationStep) (d : Document) : Outcome Document Answer :=
  match step with
  | .add kind args => inserted d (kind.request args)
  | .append spec => inserted d (Aggregation.ofJson spec)
  | .compile args => .ofExcept d do
      let _ ← noArguments.bind args
      let body ← d.body
      .ok (.value (.obj body))
  | .observe => ⟨.ok .nothing, d, .ofSnapshot d.aggregationSnapshot⟩
  | .part => .fail d .wrongKind
  | .unknown => .fail d .noOperation

/-- Runs steps until one fails; what the ones before have added stays. -/
def runAll : List AggregationStep → Document → Outcome Document Unit
  | [], d => .succeed d ()
  | step :: rest, d => (step.run d).andThen fun _ d => runAll rest d

end AggregationStep

end SearchRequest
