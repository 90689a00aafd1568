import SearchRequest.Aggregation.Basic
import SearchRequest.Clause.Basic
import SearchRequest.Document.FieldSort
import SearchRequest.Document.Highlight

/-!
The document of a search: everything that its request body is written from. Parts that are not
set are left out of the body, and so is a query without clauses.
-/

namespace SearchRequest

/-- Aggregations by alias, each at the place where its alias first appeared. -/
structure AggregationTable where
  entries : List Aggregation
deriving DecidableEq, Repr, Inhabited

namespace AggregationTable

def empty : AggregationTable := ⟨[]⟩

def aliases (t : AggregationTable) : List String := t.entries.map (·.name)

def get? (t : AggregationTable) (name : String) : Option Aggregation :=
  t.entries.find? (·.name == name)

def insert (t : AggregationTable) (a : Aggregation) : AggregationTable :=
  if (t.get? a.name).isSome then
    ⟨t.entries.map fun entry => if entry.name == a.name then a else entry⟩
  else ⟨t.entries ++ [a]⟩

def toJsonList : List Aggregation → Except Failure Object
  | [] => .ok []
  | a :: rest => do
      let body ← a.toJson
      let others ← toJsonList rest
      .ok ((a.name, body) :: others)

end AggregationTable

inductive SourceFilter
  | nothing
  | only (includes : List Json)
  | allBut (excludes : List Json)
  | both (includes excludes : List Json)
deriving DecidableEq, Repr

namespace SourceFilter

def toJson : SourceFilter → Json
  | .nothing => .bool false
  | .only includes => .arr includes
  | .allBut excludes => Object.only "excludes" (.arr excludes)
  | .both includes excludes => .obj [("includes", .arr includes), ("excludes", .arr excludes)]

end SourceFilter

structure Document where
  query : BoolQuery
  aggregations : AggregationTable
  sorts : List FieldSort
  highlight : Option Highlight
  offset : Option Nat
  size : Option Nat
  /-- A number; null when no score is asked for. -/
  minScore : Json
  source : Option SourceFilter

namespace Document

def empty : Document := ⟨.empty, .empty, [], none, none, none, .null, none⟩

instance : Inhabited Document := ⟨empty⟩

def queryEntry (d : Document) : Except Failure Object :=
  if d.query.isEmpty then .ok []
  else do
    let query ← d.query.toJson
    .ok [("query", query)]

def aggregationsEntry (d : Document) : Except Failure Object :=
  if d.aggregations.entries.isEmpty then .ok []
  else do
    let listed ← AggregationTable.toJsonList d.aggregations.entries
    .ok [("aggs", .obj listed)]

def sortEntry (d : Document) : Object :=
  if d.sorts.isEmpty then [] else [("sort", .arr (d.sorts.map FieldSort.toJson))]

def highlightEntry (d : Document) : Object :=
  match d.highlight with
  | none => []
  | some highlight => [("highlight", highlight.toJson)]

def windowEntries (d : Document) : Object :=
  Object.given
    [("from", .ofCount? d.offset), ("size", .ofCount? d.size), ("min_score", d.minScore),
     ("_source", Json.ofOption (d.source.map SourceFilter.toJson))]

def body (d : Document) : Except Failure Object := do
  let query ← d.queryEntry
  let aggregations ← d.aggregationsEntry
  .ok (query ++ aggregations ++ d.sortEntry ++ d.highlightEntry ++ d.windowEntries)

def toJson (d : Document) : Except Failure Json := do
  let entries ← d.body
  .ok (.obj entries)

end Document

end SearchRequest
