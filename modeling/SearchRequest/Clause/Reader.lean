import SearchRequest.Clause.Basic
import SearchRequest.Clause.Signature

/-!
Clauses spelled out as JSON objects: a kind beside the fields of the clause. Boolean queries list
their clauses by role, and the query inside a nested or scored clause is spelled without a kind.
-/

namespace SearchRequest

namespace BoolQuery

def signature : Signature :=
  .closed [.optional "minimum_should_match", .optional "boost", .defaulted "options" (.obj [])]

def ofGroups (groups : List (Role × List Clause)) (fields : Object) :
    Except Failure BoolQuery := do
  let a ← signature.bind fields
  let under (role : Role) : List Clause := (groups.lookup role).getD []
  .ok ⟨under .must, under .should, under .mustNot, under .filter,
    a.field "minimum_should_match", a.field "boost", a.field "options"⟩

end BoolQuery

namespace Clause

def nestedSignature : Signature :=
  .closed [.required "path", .defaulted "score_mode" (.str NestedScore.avg.name),
    .defaulted "options" (.obj [])]

def functionScoreSignature : Signature := .closed [.defaulted "options" (.obj [])]

def without (fields : Object) (names : List String) : Object :=
  fields.filter fun entry => !names.contains entry.1

def kindOf (fields : Object) : Except Failure ClauseKind :=
  match fields.field "kind" with
  | .str name => match ClauseKind.named? name with
      | some kind => .ok kind
      | none => .error .wrongContent
  | _ => .error .wrongContent

def needed {α : Type} : Option α → Except Failure α
  | some part => .ok part
  | none => .error .wrongKind

end Clause

namespace ScoreFunction

def signature : Signature := .closed [.defaulted "spec" (.obj []), .optional "weight"]

end ScoreFunction

mutual

def Clause.ofJson : Json → Except Failure Clause
  | .obj entries => do
      let kind ← Clause.kindOf entries
      let fields := Clause.without entries ["kind"]
      match kind with
      | .leaf leafKind =>
          let a ← leafKind.signature.bind fields
          let leaf ← Leaf.build leafKind a
          .ok (.leaf leaf)
      | .bool =>
          let groups ← groupsWithin entries
          let query ← BoolQuery.ofGroups groups (Clause.without fields ["clauses"])
          .ok (.bool query)
      | .nested =>
          let query ← queryWithin entries
          let a ← Clause.nestedSignature.bind (Clause.without fields ["query"])
          let inner ← Clause.needed query
          Clause.nested? (a.field "path") inner (a.field "score_mode") (a.field "options")
      | .functionScore =>
          let query ← queryWithin entries
          let functions ← functionsWithin entries
          let a ← Clause.functionScoreSignature.bind
            (Clause.without fields ["query", "functions"])
          let inner ← Clause.needed query
          .ok (.functionScore inner functions (a.field "options"))
  | _ => .error .wrongKind

def BoolQuery.ofJson : Json → Except Failure BoolQuery
  | .obj entries => do
      let groups ← groupsWithin entries
      BoolQuery.ofGroups groups (Clause.without entries ["clauses"])
  | _ => .error .wrongKind

def ScoreFunction.ofJson : Json → Except Failure ScoreFunction
  | .obj entries => do
      let filter ← filterWithin entries
      let a ← ScoreFunction.signature.bind (Clause.without entries ["filter"])
      .ok ⟨a.field "spec", a.field "weight", filter⟩
  | _ => .error .wrongKind

def groupsWithin : List (String × Json) → Except Failure (List (Role × List Clause))
  | [] => .ok []
  | (key, value) :: rest => if key = "clauses" then groups value else groupsWithin rest

def groups : Json → Except Failure (List (Role × List Clause))
  | .obj entries => groupList entries
  | _ => .error .noOperation

def groupList : List (String × Json) → Except Failure (List (Role × List Clause))
  | [] => .ok []
  | (key, value) :: rest => do
      match Role.named? key with
      | none => .error .wrongContent
      | some role =>
          let listed ← clausesOf value
          let others ← groupList rest
          .ok ((role, listed) :: others)

def clausesOf : Json → Except Failure (List Clause)
  | .arr items => clauseList items
  | _ => .error .wrongKind

def clauseList : List Json → Except Failure (List Clause)
  | [] => .ok []
  | item :: rest => do
      let clause ← Clause.ofJson item
      let others ← clauseList rest
      .ok (clause :: others)

def queryWithin : List (String × Json) → Except Failure (Option BoolQuery)
  | [] => .ok none
  | (key, value) :: rest =>
      if key = "query" then do
        let query ← BoolQuery.ofJson value
        .ok (some query)
      else queryWithin rest

def filterWithin : List (String × Json) → Except Failure (Option BoolQuery)
  | [] => .ok none
  | (key, value) :: rest => if key = "filter" then filterOf value else filterWithin rest

def filterOf : Json → Except Failure (Option BoolQuery)
  | .null => .ok none
  | .obj entries => do
      let groups ← groupsWithin entries
      let query ← BoolQuery.ofGroups groups (Clause.without entries ["clauses"])
      .ok (some query)
  | _ => .error .wrongKind

def functionsWithin : List (String × Json) → Except Failure (List ScoreFunction)
  | [] => .ok []
  | (key, value) :: rest =>
      if key = "functions" then functionsOf value else functionsWithin rest

def functionsOf : Json → Except Failure (List ScoreFunction)
  | .arr items => functionList items
  | _ => .error .wrongKind

def functionList : List Json → Except Failure (List ScoreFunction)
  | [] => .ok []
  | item :: rest => do
      let function ← ScoreFunction.ofJson item
      let others ← functionList rest
      .ok (function :: others)

end

end SearchRequest
