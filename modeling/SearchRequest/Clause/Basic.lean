import SearchRequest.Clause.Leaf

/-!
Clauses: leaves, boolean queries, and the two clauses that hold a boolean query. A boolean query
without clauses matches everything, and one with a single required clause and no parameter is
written as that clause alone.
-/

namespace SearchRequest

inductive NestedScore
  | avg
  | sum
  | min
  | max
  | none
deriving DecidableEq, Repr

namespace NestedScore

def name : NestedScore → String
  | .avg => "avg"
  | .sum => "sum"
  | .min => "min"
  | .max => "max"
  | .none => "none"

def all : List NestedScore := [.avg, .max, .min, .none, .sum]

def named? (text : String) : Option NestedScore := all.find? (·.name == text)

end NestedScore

mutual

inductive Clause
  | leaf (single : Leaf)
  | bool (query : BoolQuery)
  | nested (path : String) (query : BoolQuery) (score : NestedScore) (options : Json)
  | functionScore (query : BoolQuery) (functions : List ScoreFunction) (options : Json)

structure BoolQuery where
  must : List Clause
  should : List Clause
  mustNot : List Clause
  filter : List Clause
  minimumShouldMatch : Json
  boost : Json
  options : Json

structure ScoreFunction where
  spec : Json
  weight : Json
  filter : Option BoolQuery

end

namespace BoolQuery

def empty : BoolQuery := ⟨[], [], [], [], .null, .null, .obj []⟩

instance : Inhabited BoolQuery := ⟨empty⟩

def clauses (q : BoolQuery) : Role → List Clause
  | .must => q.must
  | .should => q.should
  | .mustNot => q.mustNot
  | .filter => q.filter

def add (q : BoolQuery) (role : Role) (clause : Clause) : BoolQuery :=
  match role with
  | .must => { q with must := q.must ++ [clause] }
  | .should => { q with should := q.should ++ [clause] }
  | .mustNot => { q with mustNot := q.mustNot ++ [clause] }
  | .filter => { q with filter := q.filter ++ [clause] }

def isEmpty (q : BoolQuery) : Bool :=
  q.must.isEmpty && q.should.isEmpty && q.mustNot.isEmpty && q.filter.isEmpty

def parameters (q : BoolQuery) : Except Failure Object :=
  withOptions [("minimum_should_match", q.minimumShouldMatch), ("boost", q.boost)] q.options

def everything : Json := Object.only "match_all" (.obj [])

def roleEntries (must should mustNot filter : List Json) : Object :=
  [("must", must), ("should", should), ("must_not", mustNot), ("filter", filter)].filterMap
    fun entry => if entry.2.isEmpty then none else some (entry.1, .arr entry.2)

end BoolQuery

namespace ScoreFunction

/-- The function's own entries with one more set; only an object has entries to set. -/
def setEntry (spec : Json) (key : String) (value : Json) : Except Failure Json :=
  match spec with
  | .obj entries => .ok (.obj (Object.set entries key value))
  | _ => .error .wrongKind

def weighted (spec weight : Json) : Except Failure Json :=
  if weight.isNull then .ok spec else setEntry spec "weight" weight

end ScoreFunction

mutual

def Clause.toJson : Clause → Except Failure Json
  | .leaf single => single.toJson
  | .bool query => query.toJson
  | .nested path query score options => do
      let inner ← query.toJson
      let body ← spreadOptions
        [("path", .str path), ("query", inner), ("score_mode", .str score.name)] options
      .ok (Object.only "nested" (.obj body))
  | .functionScore query functions options => do
      let inner ← query.toJson
      let scored ← functionsToJson functions
      let body ← spreadOptions [("query", inner), ("functions", .arr scored)] options
      .ok (Object.only "function_score" (.obj body))

def BoolQuery.toJson : BoolQuery → Except Failure Json
  | ⟨must, should, mustNot, filter, minimumShouldMatch, boost, options⟩ => do
      let query : BoolQuery :=
        ⟨must, should, mustNot, filter, minimumShouldMatch, boost, options⟩
      if query.isEmpty then .ok BoolQuery.everything
      else
        let params ← query.parameters
        let required ← clausesToJson must
        -- A parameter, too, keeps a single clause from being written alone.
        match required, should, mustNot, filter, params with
        | [only], [], [], [], [] => .ok only
        | _, _, _, _, _ =>
            let optional ← clausesToJson should
            let forbidden ← clausesToJson mustNot
            let filtering ← clausesToJson filter
            let roles := BoolQuery.roleEntries required optional forbidden filtering
            .ok (Object.only "bool" (.obj (roles.merge params)))

def ScoreFunction.toJson : ScoreFunction → Except Failure Json
  | ⟨spec, weight, filter⟩ => do
      let weighted ← ScoreFunction.weighted spec weight
      filterToJson weighted filter

def filterToJson (weighted : Json) : Option BoolQuery → Except Failure Json
  | none => .ok weighted
  | some query => do
      let inner ← query.toJson
      ScoreFunction.setEntry weighted "filter" inner

def clausesToJson : List Clause → Except Failure (List Json)
  | [] => .ok []
  | clause :: rest => do
      let first ← clause.toJson
      let others ← clausesToJson rest
      .ok (first :: others)

def functionsToJson : List ScoreFunction → Except Failure (List Json)
  | [] => .ok []
  | function :: rest => do
      let first ← function.toJson
      let others ← functionsToJson rest
      .ok (first :: others)

end

namespace Clause

def kind : Clause → ClauseKind
  | .leaf single => .leaf single.kind
  | .bool _ => .bool
  | .nested .. => .nested
  | .functionScore .. => .functionScore

def nested? (path : Json) (query : BoolQuery) (score options : Json) : Except Failure Clause :=
  match path with
  | .str text =>
      if Text.isBlank text then .error (.clause .nested (.blankText "path"))
      else do
        let modes := NestedScore.all.map NestedScore.name
        let known ← score.isAmong modes
        match known, score with
        | true, .str name =>
            .ok (.nested text query ((NestedScore.named? name).getD .avg) options)
        | _, _ => .error (.clause .nested (.scoreMode modes))
  | _ => .error (.clause .nested (.blankText "path"))

end Clause

end SearchRequest
