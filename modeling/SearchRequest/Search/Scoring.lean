import SearchRequest.Arguments
import SearchRequest.Clause.Basic
import SearchRequest.Trace.Report

/-!
A scored query under construction: the query as it stood when scoring began, the parameters, and
the scoring functions in the order they were added.
-/

namespace SearchRequest

inductive ScoreKind
  | fieldValueFactor
  | decay
  | weight
  | randomScore
  | scriptScore
  | raw
deriving DecidableEq, Repr

namespace ScoreKind

def operation : ScoreKind → String
  | .fieldValueFactor => "field_value_factor"
  | .decay => "decay"
  | .weight => "weight"
  | .randomScore => "random_score"
  | .scriptScore => "script_score"
  | .raw => "add"

def all : List ScoreKind :=
  [.fieldValueFactor, .decay, .weight, .randomScore, .scriptScore, .raw]

def ofOperation? (name : String) : Option ScoreKind := all.find? (·.operation == name)

open Parameter

/-- The parameters of every function but a raw one, which has its weight among its entries. -/
private def weighted (rest : List Parameter) : List Parameter :=
  rest ++ [optional "weight", optional "filter_"]

def signature : ScoreKind → Signature
  | .fieldValueFactor => .closed <| weighted
      [required "field", defaulted "factor" (.float .one), defaulted "modifier" (.str "none"),
       optional "missing"]
  | .decay => .closed <| weighted
      [required "type_", required "field", required "function", optional "options"]
  | .weight => .closed [required "weight", optional "filter_"]
  | .randomScore => .closed <| weighted [optional "seed", optional "field"]
  | .scriptScore => .closed <| weighted
      [required "source", optional "params", defaulted "lang" (.str "painless"),
       optional "options"]
  | .raw => .closed [required "function", optional "filter_"]

def modifiers : List String :=
  ["ln", "ln1p", "ln2p", "log", "log1p", "log2p", "none", "reciprocal", "sqrt", "square"]

def decays : List String := ["exp", "gauss", "linear"]

def refuse {α : Type} (fault : ArgumentFault) : Except Failure α := .error (.argument fault)

def textIn (fault : ArgumentFault) : Json → Except Failure String
  | .str text => if text.isEmpty then refuse fault else .ok text
  | _ => refuse fault

def factorSpec (a : Object) : Except Failure Object := do
  let field ← textIn .factorField (a.field "field")
  let known ← (a.field "modifier").isAmong modifiers
  if known then
    let missing := Object.given [("missing", a.field "missing")]
    let entries :=
      [("field", .str field), ("factor", a.field "factor"), ("modifier", a.field "modifier")]
    .ok [("field_value_factor", .obj (entries ++ missing))]
  else refuse (.choice "modifier" modifiers)

/-- Whether a value has the text in it: as a key, as an element, or as a part of a text. -/
def mentions (text : String) : Json → Except Failure Bool
  | .obj entries => .ok (Object.has entries text)
  | .arr items => .ok (items.contains (.str text))
  | .str value => .ok (contains text.toList value.toList)
  | _ => .error .wrongKind
where
  contains (part : List Char) : List Char → Bool
    | [] => part.isEmpty
    | c :: rest => part.isPrefixOf (c :: rest) || contains part rest

def decaySpec (a : Object) : Except Failure Object := do
  let kind := a.field "type_"
  let known ← kind.isAmong decays
  if !known then refuse (.decayKind decays)
  else
    let field ← textIn .decayField (a.field "field")
    let scaled ← mentions "scale" (a.field "function")
    if !scaled then refuse .decayScale
    else
      let function ← (a.field "function").asEntries
      let options ← (a.field "options").orEmpty.asObject
      -- The options stand beside the field, and one of its name takes its place.
      .ok [(kind.keyText, .obj (Object.merge [(field, .obj function)] options))]

def randomSpec (a : Object) : Except Failure Object :=
  if !(a.field "seed").isNull && (a.field "field").isNull then refuse .seedAlone
  else
    let entries := Object.given [("seed", a.field "seed"), ("field", a.field "field")]
    .ok [("random_score", .obj entries)]

def scriptSpec (a : Object) : Except Failure Object := do
  let source ← textIn .noScript (a.field "source")
  let params := a.field "params"
  let given ← if params.truthy then params.asEntries.map fun p => [("params", Json.obj p)]
    else .ok []
  let options ← (a.field "options").orEmpty.asEntries
  let entries := [("lang", a.field "lang"), ("source", .str source)] ++ given
  let script := Object.merge entries options
  .ok [("script_score", Object.only "script" (.obj script))]

def spec (kind : ScoreKind) (a : Object) : Except Failure Object :=
  match kind with
  | .fieldValueFactor => factorSpec a
  | .decay => decaySpec a
  | .weight =>
      if (a.field "weight").isNumber then .ok [] else refuse .weight
  | .randomScore => randomSpec a
  | .scriptScore => scriptSpec a
  | .raw => (a.field "function").asEntries

end ScoreKind

structure ScoreDraft where
  spec : Object
  weight : Json
  filter : Json
deriving DecidableEq, Repr

namespace ScoreDraft

def of (kind : ScoreKind) (args : Object) : Except Failure ScoreDraft := do
  let a ← kind.signature.bind args
  let spec ← kind.spec a
  .ok ⟨spec, a.field "weight", a.field "filter_"⟩

def filteredBy (d : ScoreDraft) (filter : Option BoolQuery) : ScoreFunction :=
  ⟨.obj d.spec, d.weight, filter⟩

end ScoreDraft

structure Scoring where
  query : BoolQuery
  parameters : Object
  functions : List ScoreFunction

namespace Scoring

def scoreModes : List String := ["avg", "first", "max", "min", "multiply", "sum"]

def boostModes : List String := ["avg", "max", "min", "multiply", "replace", "sum"]

def checkMode (parameters : Object) (name : String) (modes : List String) :
    Except Failure Unit := do
  let mode := parameters.field name
  if mode.isNull then .ok ()
  else
    let known ← mode.isAmong modes
    if known then .ok () else .error (.argument (.choice name modes))

def parametersOf (parameters : Json) : Except Failure Object :=
  match parameters.orEmpty with
  | .obj entries => do
      checkMode entries "score_mode" scoreModes
      checkMode entries "boost_mode" boostModes
      .ok entries
  | _ => .error .noOperation

def start (query : BoolQuery) (parameters : Json) : Except Failure Scoring := do
  let entries ← parametersOf parameters
  .ok ⟨query, entries, []⟩

def add (s : Scoring) (function : ScoreFunction) : Scoring :=
  { s with functions := s.functions ++ [function] }

def clause (s : Scoring) : Clause := .functionScore s.query s.functions (.obj s.parameters)

def snapshot (s : Scoring) : Snapshot := .scoring (functionsToJson s.functions) s.clause.toJson

def notes (s : Scoring) : Report :=
  if s.functions.isEmpty then .ofEvent .functionScoreWithoutFunctions else .empty

end Scoring

end SearchRequest
