import SearchRequest.Aggregation.Basic

/-!
The arguments of aggregations: those of an aggregation that is spelled out field by field, and
those of the operation that adds one, which takes every further argument as an option and copies
the lists and orders that it is given.
-/

namespace SearchRequest

namespace MetricKind

def operation : MetricKind → String
  | .avg => "average"
  | kind => (AggregationKind.metric kind).name

end MetricKind

namespace AggregationKind

open Parameter

private def sourced (rest : List Parameter) : List Parameter :=
  required "alias" :: optional "field" :: optional "script" :: rest

private def fielded (rest : List Parameter) : List Parameter :=
  required "alias" :: required "field" :: rest

private def spelledSource (rest : List Parameter) : List Parameter :=
  sourced (optional "missing" :: rest)

private def spelledField (rest : List Parameter) : List Parameter :=
  required "alias" :: defaulted "field" (.str "") :: rest

def fields : AggregationKind → List Parameter
  | .metric _ => spelledSource []
  | .cardinality => spelledSource [optional "precision_threshold", optional "rehash"]
  | .percentiles => spelledSource [optional "percents", optional "compression"]
  | .percentileRanks => spelledSource [defaulted "values" (.arr []), optional "compression"]
  | .geoBounds => spelledField [defaulted "wrap_longitude" (.bool true)]
  | .terms => spelledSource [optional "size", optional "order", optional "min_doc_count"]
  | .missing => spelledField []
  | .histogram => spelledField
      [defaulted "interval" (.int 0), optional "min_doc_count", optional "order_mode",
       defaulted "order_direction" (.str Direction.ascending.name),
       optional "extended_bounds_min", optional "extended_bounds_max", optional "keyed"]
  | .range => spelledField [defaulted "ranges" (.arr []), defaulted "keyed" (.bool false)]
  | .dateRange => spelledField [defaulted "format" (.str ""), defaulted "ranges" (.arr [])]
  | .ipRange => spelledField [defaulted "ranges" (.arr [])]
  | .geoDistance => spelledField
      [optional "origin", defaulted "ranges" (.arr []), optional "unit",
       optional "distance_type"]
  | .geohashGrid => spelledField [optional "precision", optional "size", optional "shard_size"]

def signature (kind : AggregationKind) : Signature :=
  .closed (kind.fields ++ [defaulted "options" (.obj [])])

def operation : AggregationKind → String
  | .metric kind => kind.operation
  | .percentiles => "percentile"
  | .ipRange => "ipv4_range"
  | .geohashGrid => "geo_hash_grid"
  | kind => kind.name

def ofOperation? (name : String) : Option AggregationKind := all.find? (·.operation == name)

def arguments : AggregationKind → List Parameter
  | .metric _ => sourced []
  | .cardinality => sourced
      [(optional "precision_threshold").called "precision", optional "rehash"]
  | .percentiles => fielded [optional "percents", optional "script", optional "compression"]
  | .percentileRanks => fielded
      [required "values", optional "script", optional "compression"]
  | .geoBounds => fielded [defaulted "wrap_longitude" (.bool true)]
  | .terms => sourced [optional "size", optional "order", optional "min_doc_count"]
  | .missing => fielded []
  | .histogram => fielded
      [required "interval", optional "min_doc_count", optional "order_mode",
       defaulted "order_direction" (.str Direction.ascending.name),
       optional "extended_bounds_min", optional "extended_bounds_max", optional "keyed"]
  | .range => fielded [required "ranges", defaulted "keyed" (.bool false)]
  | .dateRange => fielded [(required "format").called "format_", required "ranges"]
  | .ipRange => fielded [required "ranges"]
  | .geoDistance => fielded
      [required "origin", required "ranges", optional "unit", optional "distance_type"]
  | .geohashGrid => fielded [optional "precision", optional "size", optional "shard_size"]

def operationSignature (kind : AggregationKind) : Signature := .withOptions kind.arguments

/-- Whatever has elements serves the operations as a list of ranges, percents or values. -/
def copied (kind : AggregationKind) (a : Object) : Except Failure Object :=
  match kind with
  | .percentiles => do
      let percents ← Computation.listedUnlessNull (a.field "percents")
      .ok (a.set "percents" percents)
  | .percentileRanks => do
      let values ← Computation.listed (a.field "values")
      .ok (a.set "values" values)
  | .terms => do
      let order ← Computation.ordered (a.field "order")
      .ok (a.set "order" order)
  | .range | .dateRange | .ipRange | .geoDistance => do
      let ranges ← Computation.listed (a.field "ranges")
      .ok (a.set "ranges" ranges)
  | _ => .ok a

def request (kind : AggregationKind) (args : Object) : Except Failure Aggregation := do
  let a ← kind.operationSignature.bind args
  let fields ← kind.copied a
  Aggregation.build kind fields

end AggregationKind

namespace Aggregation

def kindOf (fields : Object) : Except Failure AggregationKind :=
  match fields.field "kind" with
  | .str name => match AggregationKind.named? name with
      | some kind => .ok kind
      | none => .error .wrongContent
  | _ => .error .wrongContent

def ofJson (spec : Json) : Except Failure Aggregation := do
  let entries ← spec.asObject
  let kind ← kindOf entries
  let a ← kind.signature.bind (entries.filter fun entry => entry.1 != "kind")
  build kind a

end Aggregation

end SearchRequest
