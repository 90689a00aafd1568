import SearchRequest.Clause.Leaf

/-!
The arguments of leaf clauses: those of a clause that is spelled out field by field, and those of
the search operation of the same kind, which takes every further argument as an option.
-/

namespace SearchRequest.LeafKind

open Parameter

private def fieldAnd (rest : List Parameter) : List Parameter := required "field" :: rest

private def scored (value : String) (rest : List Parameter) : List Parameter :=
  required "field" :: required value :: rest ++ [optional "boost"]

private def textQuery : List Parameter :=
  [required "query", optional "default_field", optional "default_operator", optional "fields",
   optional "boost"]

def fields : LeafKind → List Parameter
  | .term | .startsWith | .wildcard => scored "value" []
  | .terms => scored "values" []
  | .range => fieldAnd
      [optional "gt", optional "gte", optional "lt", optional "lte", optional "format",
       optional "time_zone", optional "boost"]
  | .regexp => scored "value" [optional "flags"]
  | .fuzzy => scored "value" [optional "fuzziness"]
  | .present => fieldAnd []
  | .ids => [required "values"]
  | .matching => scored "query"
      [optional "operator", optional "analyzer", optional "fuzziness",
       optional "minimum_should_match"]
  | .multiMatch =>
      [required "fields", required "query", optional "type", optional "operator",
       optional "boost"]
  | .common => scored "query" [optional "cutoff_frequency"]
  | .queryString | .simpleQueryString => textQuery
  | .matchAll => [optional "boost"]
  | .geoBoundingBox | .geoPolygon => fieldAnd [required "points"]
  | .geoDistance => fieldAnd [required "distance", required "location"]
  | .geoShape => fieldAnd
      [required "shape_type", required "coordinates", optional "relation"]

def signature : LeafKind → Signature
  | .present => .closed (fields .present)
  | kind => .closed (kind.fields ++ [defaulted "options" (.obj [])])

def operation : LeafKind → String
  | .common => "common_term"
  | kind => kind.name

def ofOperation? (name : String) : Option LeafKind := all.find? (·.operation == name)

/-- The arguments of the operation, each with the field that it sets. -/
def arguments : LeafKind → List Parameter
  | .ids => [(required "values").called "ids"]
  | .present => [(required "fields")]
  | .range => (fields .range).map fun p => if p.name = "format" then p.called "format_" else p
  | .multiMatch =>
      (fields .multiMatch).map fun p => if p.name = "type" then p.called "type_" else p
  | .wildcard => [required "field", required "value", defaulted "boost" (.float .one)]
  | .matchAll => [defaulted "boost" (.float .one)]
  | .simpleQueryString =>
      [required "query", optional "fields", optional "default_operator", optional "boost"]
  | kind => kind.fields

def operationSignature : LeafKind → Signature
  | .present => .closed (arguments .present)
  | kind => .withOptions kind.arguments

/-- One identifier stands for the list of it. Booleans count as whole numbers here. -/
def idList (value : Json) : Except Failure (List Json) :=
  match value with
  | .str _ | .int _ | .bool _ => .ok [value]
  | .arr items => .ok items
  | _ => .error (.argument (.notList "ids" value))

def nameList (value : Json) : Except Failure (List Json) :=
  match value with
  | .str _ => .ok [value]
  | .arr items => .ok items
  | _ => .error (.argument (.notList "fields" value))

def presenceOf : List Json → Except Failure (List Leaf)
  | [] => .ok []
  | name :: rest => do
      let leaf ← Leaf.build .present [("field", name)]
      let leaves ← presenceOf rest
      .ok (leaf :: leaves)

/-- The clauses that the operation adds: one, or one for each field whose presence is asked. -/
def request (kind : LeafKind) (args : Object) : Except Failure (List Leaf) := do
  let a ← kind.operationSignature.bind args
  match kind with
  | .present => do
      let names ← nameList (a.field "fields")
      if names.isEmpty then .error (kind.refuse .noFields) else presenceOf names
  | .ids => do
      let values ← idList (a.field "values")
      let leaf ← Leaf.build .ids (a.set "values" (.arr values))
      .ok [leaf]
  | kind => do
      let leaf ← Leaf.build kind a
      .ok [leaf]

end SearchRequest.LeafKind
