import SearchRequest.Clause.Reader
import SearchRequest.Search.Aggregating
import SearchRequest.Search.Edit
import SearchRequest.Search.Scoring

/-!
Steps on a search and on its scoring. Steps nest: a nested clause, a scored clause, a group of
aggregations and the filter of a scoring function are each built by steps of their own, on a
search that shares nothing with the outer one but the world it is sent from.
-/

namespace SearchRequest

inductive View
  | body
  | index
  | docType
deriving DecidableEq, Repr

mutual

/-- A step that takes steps has none of them when the argument for them is no list of steps. -/
inductive SearchStep
  | edit (edit : Edit) (args : Object)
  | leaf (kind : LeafKind) (args : Object)
  | append (spec : Json)
  | nested (args : Object) (build : Option (List SearchStep))
  | functions (args : Object) (build : Option (List SearchStep))
      (score : Option (List ScoreStep))
  | aggregate (args : Object) (build : Option (List AggregationStep))
  | view (view : View) (args : Object)
  | fetch (args : Object)
  | execute (args : Object)
  | paginate (args : Object)
  | observe
  /-- Names a part of the search, which cannot be run. -/
  | part
  | unknown

inductive ScoreStep
  | add (kind : ScoreKind) (args : Object) (filter : Option (List SearchStep))
  | query (args : Object)
  | observe
  | part
  | unknown

end

namespace View

def name : View → String
  | .body => "compile"
  | .index => "get_index"
  | .docType => "get_type"

def all : List View := [.body, .index, .docType]

def named? (text : String) : Option View := all.find? (·.name == text)

def of (v : View) (s : Search) : Except Failure Json :=
  match v with
  | .body => s.document.toJson
  | .index => .ok (.ofText? s.index)
  | .docType => .ok (.ofText? s.docType)

end View

namespace Search

def nestedSignature : Signature :=
  .closed [.required "field", .required "callback",
    .defaulted "score_mode" (.str NestedScore.avg.name)]

def functionsSignature : Signature :=
  .closed [.required "query_callback", .required "score_callback", .optional "parameters"]

def aggregateSignature : Signature := .closed [.required "callback"]

def paginateSignature : Signature := .closed [.optional "limit", .optional "page"]

end Search

/-- The sub-builder that steps have built, handed to its owner, which they leave as it was. -/
def Outcome.handedTo {σ τ : Type} (o : Outcome (World × τ) Unit) (owner : σ) :
    Outcome (World × σ) τ :=
  ⟨o.result.map fun _ => o.state.2, (o.state.1, owner), o.report⟩

namespace SearchStep

def changed (w : World) (s : Search) : Except Failure Change →
    Outcome (World × Search) Answer
  | .error failure => .fail (w, s) failure
  | .ok change => .succeed (w, s.apply change) .nothing

def notCallable {α : Type} (w : World) (s : Search) (name : String) :
    Outcome (World × Search) α :=
  .fail (w, s) (.argument (.notCallable name))

def appended (spec : Json) : Except Failure Change := do
  let clause ← Clause.ofJson spec
  .ok (.clauses [clause])

def nest (a : Object) (built : Search) (state : World × Search) :
    Outcome (World × Search) Answer :=
  let clause :=
    Clause.nested? (a.field "field") built.document.query (a.field "score_mode") (.obj [])
  changed state.1 state.2 (clause.map fun c => .clauses [c])

def addScored (scoring : Scoring) (state : World × Search) : Outcome (World × Search) Answer :=
  (changed state.1 state.2 (.ok (.clauses [scoring.clause]))).noting scoring.notes

def fetched (args : Object) (w : World) (s : Search) : Outcome (World × Search) Answer :=
  match noArguments.bind args with
  | .error failure => .fail (w, s) failure
  | .ok _ => ((s.send w).within fun w => (w, s)).andThen fun payload state =>
      .succeed state (.payload payload)

def executed (args : Object) (w : World) (s : Search) : Outcome (World × Search) Answer :=
  match noArguments.bind args with
  | .error failure => .fail (w, s) failure
  | .ok _ => ((s.execute w).within fun w => (w, s)).andThen fun result state =>
      .succeed state (.result result)

def paginated (args : Object) (w : World) (s : Search) : Outcome (World × Search) Answer :=
  match Search.paginateSignature.bind args with
  | .error failure => .fail (w, s) failure
  | .ok a => (s.paginate w (a.field "limit") (a.field "page")).andThen fun paginator state =>
      .succeed state (.paginator paginator)

def viewed (v : View) (args : Object) (w : World) (s : Search) :
    Outcome (World × Search) Answer :=
  .ofExcept (w, s) do
    let _ ← noArguments.bind args
    let value ← v.of s
    .ok (.value value)

/-- Adds aggregations to the document itself, also those before a step that fails. -/
def aggregated (args : Object) (build : Option (List AggregationStep)) (w : World)
    (s : Search) : Outcome (World × Search) Answer :=
  match Search.aggregateSignature.bind args, build with
  | .error failure, _ => .fail (w, s) failure
  | .ok _, none => notCallable w s "callback"
  | .ok _, some steps =>
      ((AggregationStep.runAll steps s.document).within fun d => (w, s.withDocument d)).andThen
        fun _ state => .succeed state .nothing

end SearchStep

mutual

def SearchStep.run : SearchStep → World → Search → Outcome (World × Search) Answer
  | .edit edit args, w, s => SearchStep.changed w s (edit.change args)
  | .leaf kind args, w, s => SearchStep.changed w s (kind.change args)
  | .append spec, w, s => SearchStep.changed w s (SearchStep.appended spec)
  | .nested args none, w, s =>
      match Search.nestedSignature.bind args with
      | .error failure => .fail (w, s) failure
      | .ok _ => SearchStep.notCallable w s "callback"
  | .nested args (some steps), w, s =>
      match Search.nestedSignature.bind args with
      | .error failure => .fail (w, s) failure
      | .ok a => ((SearchStep.runAll steps w .fresh).handedTo s).andThen (SearchStep.nest a)
  | .functions args none _, w, s =>
      match Search.functionsSignature.bind args with
      | .error failure => .fail (w, s) failure
      | .ok _ => SearchStep.notCallable w s "query_callback"
  | .functions args (some _) none, w, s =>
      match Search.functionsSignature.bind args with
      | .error failure => .fail (w, s) failure
      | .ok _ => SearchStep.notCallable w s "score_callback"
  | .functions args (some steps) (some scoring), w, s =>
      match Search.functionsSignature.bind args with
      | .error failure => .fail (w, s) failure
      | .ok a =>
          ((SearchStep.runAll steps w .fresh).handedTo s).andThen fun built state =>
            match Scoring.start built.document.query (a.field "parameters") with
            | .error failure => .fail state failure
            | .ok start =>
                ((ScoreStep.runAll scoring state.1 start).handedTo state.2).andThen
                  SearchStep.addScored
  | .aggregate args build, w, s => SearchStep.aggregated args build w s
  | .view view args, w, s => SearchStep.viewed view args w s
  | .fetch args, w, s => SearchStep.fetched args w s
  | .execute args, w, s => SearchStep.executed args w s
  | .paginate args, w, s => SearchStep.paginated args w s
  | .observe, w, s => ⟨.ok .nothing, (w, s), .ofSnapshot s.snapshot⟩
  | .part, w, s => .fail (w, s) .wrongKind
  | .unknown, w, s => .fail (w, s) .noOperation

def SearchStep.runAll : List SearchStep → World → Search → Outcome (World × Search) Unit
  | [], w, s => .succeed (w, s) ()
  | step :: rest, w, s =>
      (SearchStep.run step w s).andThen fun _ state => SearchStep.runAll rest state.1 state.2

def ScoreStep.run : ScoreStep → World → Scoring → Outcome (World × Scoring) Answer
  | .add kind args none, w, s =>
      match ScoreDraft.of kind args with
      | .error failure => .fail (w, s) failure
      | .ok draft =>
          if draft.filter.isNull then .succeed (w, s.add (draft.filteredBy none)) .nothing
          else .fail (w, s) .wrongKind
  | .add kind args (some steps), w, s =>
      match ScoreDraft.of kind args with
      | .error failure => .fail (w, s) failure
      | .ok draft =>
          ((SearchStep.runAll steps w .fresh).handedTo s).andThen fun built state =>
            let function := draft.filteredBy (some built.document.query)
            .succeed (state.1, state.2.add function) .nothing
  | .query args, w, s =>
      match noArguments.bind args with
      | .error failure => .fail (w, s) failure
      | .ok _ => ⟨.ok (.clause s.clause.toJson), (w, s), s.notes⟩
  | .observe, w, s => ⟨.ok .nothing, (w, s), .ofSnapshot s.snapshot⟩
  | .part, w, s => .fail (w, s) .wrongKind
  | .unknown, w, s => .fail (w, s) .noOperation

def ScoreStep.runAll : List ScoreStep → World → Scoring → Outcome (World × Scoring) Unit
  | [], w, s => .succeed (w, s) ()
  | step :: rest, w, s =>
      (ScoreStep.run step w s).andThen fun _ state => ScoreStep.runAll rest state.1 state.2

end

end SearchRequest
