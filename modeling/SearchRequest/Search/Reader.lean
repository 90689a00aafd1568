import SearchRequest.Call
import SearchRequest.Search.Step

/-!
Steps spelled out as JSON: the name of an operation beside its arguments. An argument that takes
steps is spelled as the list of them; anything else in its place is an argument like any other.
-/

namespace SearchRequest

namespace AggregationStep

def ofCall (c : Call) : AggregationStep :=
  match c.name with
  | "append" => .append c.spec
  | "compile" => .compile c.args
  | "observe" => .observe
  | "document" => .part
  | name => match AggregationKind.ofOperation? name with
      | some kind => .add kind c.args
      | none => .unknown

def ofJson (step : Json) : AggregationStep := ofCall (Call.ofJson step)

def list? : Json → Option (List AggregationStep)
  | .arr items => some (items.map ofJson)
  | _ => none

end AggregationStep

namespace SearchStep

def plain (c : Call) : SearchStep :=
  match c.name with
  | "append" => .append c.spec
  | "aggregate" => .aggregate c.args (AggregationStep.list? (c.args.field "callback"))
  | "get_raw" => .fetch c.args
  | "execute" => .execute c.args
  | "paginate" => .paginate c.args
  | "observe" => .observe
  | "document" | "bool_state" => .part
  | name => match Edit.named? name, LeafKind.ofOperation? name, View.named? name with
      | some e, _, _ => .edit e c.args
      | none, some kind, _ => .leaf kind c.args
      | none, none, some v => .view v c.args
      | none, none, none => .unknown

end SearchStep

namespace ScoreStep

def named (c : Call) (filter : Option (List SearchStep)) : ScoreStep :=
  match c.name with
  | "get_query" => .query c.args
  | "observe" => .observe
  | "functions" => .part
  | name => match ScoreKind.ofOperation? name with
      | some kind => .add kind c.args filter
      | none => .unknown

end ScoreStep

mutual

def SearchStep.ofJson : Json → SearchStep
  | .obj entries =>
      let c := Call.ofEntries entries
      match c.name with
      | "nested" => .nested c.args (stepsWithin "callback" entries)
      | "functions" =>
          .functions c.args (stepsWithin "query_callback" entries)
            (scoringWithin "score_callback" entries)
      | _ => .plain c
  | _ => .unknown

def ScoreStep.ofJson : Json → ScoreStep
  | .obj entries => .named (Call.ofEntries entries) (stepsWithin "filter_" entries)
  | _ => .unknown

def stepsWithin (argument : String) : List (String × Json) → Option (List SearchStep)
  | [] => none
  | (key, value) :: rest =>
      if key = "args" then stepsUnder argument value else stepsWithin argument rest

def stepsUnder (argument : String) : Json → Option (List SearchStep)
  | .obj args => stepsAmong argument args
  | _ => none

def stepsAmong (argument : String) : List (String × Json) → Option (List SearchStep)
  | [] => none
  | (key, value) :: rest =>
      if key = argument then SearchStep.list? value else stepsAmong argument rest

def SearchStep.list? : Json → Option (List SearchStep)
  | .arr items => some (SearchStep.ofList items)
  | _ => none

def SearchStep.ofList : List Json → List SearchStep
  | [] => []
  | item :: rest => SearchStep.ofJson item :: SearchStep.ofList rest

def scoringWithin (argument : String) : List (String × Json) → Option (List ScoreStep)
  | [] => none
  | (key, value) :: rest =>
      if key = "args" then scoringUnder argument value else scoringWithin argument rest

def scoringUnder (argument : String) : Json → Option (List ScoreStep)
  | .obj args => scoringAmong argument args
  | _ => none

def scoringAmong (argument : String) : List (String × Json) → Option (List ScoreStep)
  | [] => none
  | (key, value) :: rest =>
      if key = argument then ScoreStep.list? value else scoringAmong argument rest

def ScoreStep.list? : Json → Option (List ScoreStep)
  | .arr items => some (ScoreStep.ofList items)
  | _ => none

def ScoreStep.ofList : List Json → List ScoreStep
  | [] => []
  | item :: rest => ScoreStep.ofJson item :: ScoreStep.ofList rest

end

end SearchRequest
