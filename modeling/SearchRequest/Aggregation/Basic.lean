import SearchRequest.Aggregation.Bucket
import SearchRequest.Clause.Leaf

/-!
Aggregations: what is computed over the matching documents, under an alias of the caller's.
`Aggregation.build` makes one from loosely typed fields and refuses those that lack what the kind
requires; `Aggregation.toJson` is its part of a request body.
-/

namespace SearchRequest

inductive Direction
  | ascending
  | descending
deriving DecidableEq, Repr

namespace Direction

def name : Direction → String
  | .ascending => "asc"
  | .descending => "desc"

def ofJson? : Json → Option Direction
  | .str "asc" => some .ascending
  | .str "desc" => some .descending
  | _ => none

end Direction

structure ValueSource where
  field : Option String
  script : Json
  missing : Json
deriving DecidableEq, Repr

structure ExtendedBounds where
  lowest : Json
  highest : Json
deriving DecidableEq, Repr

inductive Computation
  | metric (kind : MetricKind) (source : ValueSource)
  | cardinality (source : ValueSource) (precisionThreshold rehash : Json)
  | percentiles (source : ValueSource) (percents compression : Json)
  | percentileRanks (source : ValueSource) (values compression : Json)
  | geoBounds (field : String) (wrapLongitude : Json)
  | terms (source : ValueSource) (size order minDocCount : Json)
  | missing (field : String)
  | histogram (field : String) (interval minDocCount orderMode : Json) (direction : Direction)
      (extended : ExtendedBounds) (keyed : Json)
  | range (field : String) (buckets : List Bucket) (keyed : Json)
  | dateRange (field format : String) (buckets : List Bucket)
  | ipRange (field : String) (buckets : List Bucket)
  | geoDistance (field : String) (origin : Json) (buckets : List Bucket)
      (unit distanceType : Json)
  | geohashGrid (field : String) (precision size shardSize : Json)
deriving DecidableEq, Repr

structure Aggregation where
  name : String
  computation : Computation
  options : Json
deriving DecidableEq, Repr

def Computation.kind : Computation → AggregationKind
  | .metric kind _ => .metric kind
  | .cardinality .. => .cardinality
  | .percentiles .. => .percentiles
  | .percentileRanks .. => .percentileRanks
  | .geoBounds .. => .geoBounds
  | .terms .. => .terms
  | .missing .. => .missing
  | .histogram .. => .histogram
  | .range .. => .range
  | .dateRange .. => .dateRange
  | .ipRange .. => .ipRange
  | .geoDistance .. => .geoDistance
  | .geohashGrid .. => .geohashGrid

namespace ValueSource

def ofFields (a : Object) : Except AggregationFault ValueSource :=
  let script := a.field "script"
  let missing := a.field "missing"
  match a.field "field" with
  | .null => if script.isNull then .error .noSource else .ok ⟨none, script, missing⟩
  | .str name =>
      if Text.isBlank name then .error .blankField else .ok ⟨some name, script, missing⟩
  | _ => .error .blankField

def entries (s : ValueSource) : Object :=
  [("field", Json.ofText? s.field), ("script", s.script), ("missing", s.missing)]

end ValueSource

namespace ExtendedBounds

def toJson (b : ExtendedBounds) : Json :=
  if b.lowest.isNull && b.highest.isNull then .null
  else .obj [("min", b.lowest), ("max", b.highest)]

end ExtendedBounds

namespace Computation

def fieldName : Json → Except AggregationFault String
  | .str name => if Text.isBlank name then .error .blankField else .ok name
  | _ => .error .blankField

/-- Numbers above zero; a boolean is no number. -/
def isPositive : Json → Bool
  | .int value => decide (0 < value)
  | .float value => !value.atMostZero
  | _ => false

def intervalOf (value : Json) : Except AggregationFault Json :=
  if isPositive value then .ok value else .error .interval

def directionOf (value : Json) : Except AggregationFault Direction :=
  match Direction.ofJson? value with
  | some direction => .ok direction
  | none => .error .direction

def formatOf : Json → Except AggregationFault String
  | .str text => if text.isEmpty then .error .noFormat else .ok text
  | _ => .error .noFormat

def originOf : Json → Except AggregationFault Json
  | .null => .error .noOrigin
  | .str text => if text.isEmpty then .error .noOrigin else .ok (.str text)
  | value => .ok value

def valuesOf (value : Json) : Except AggregationFault Json :=
  if value.truthy then .ok value else .error .noValues

def build (kind : AggregationKind) (a : Object) : Except AggregationFault Computation :=
  match kind with
  | .metric figure => do
      let source ← ValueSource.ofFields a
      .ok (.metric figure source)
  | .cardinality => do
      let source ← ValueSource.ofFields a
      .ok (.cardinality source (a.field "precision_threshold") (a.field "rehash"))
  | .percentiles => do
      let source ← ValueSource.ofFields a
      .ok (.percentiles source (a.field "percents") (a.field "compression"))
  | .percentileRanks => do
      let source ← ValueSource.ofFields a
      let values ← valuesOf (a.field "values")
      .ok (.percentileRanks source values (a.field "compression"))
  | .geoBounds => do
      let field ← fieldName (a.field "field")
      .ok (.geoBounds field (a.field "wrap_longitude"))
  | .terms => do
      let source ← ValueSource.ofFields a
      .ok (.terms source (a.field "size") (a.field "order") (a.field "min_doc_count"))
  | .missing => do
      let field ← fieldName (a.field "field")
      .ok (.missing field)
  | .histogram => do
      let field ← fieldName (a.field "field")
      let interval ← intervalOf (a.field "interval")
      let direction ← directionOf (a.field "order_direction")
      .ok (.histogram field interval (a.field "min_doc_count") (a.field "order_mode") direction
        ⟨a.field "extended_bounds_min", a.field "extended_bounds_max"⟩ (a.field "keyed"))
  | .range => do
      let field ← fieldName (a.field "field")
      let buckets ← Bucket.list false (a.field "ranges")
      .ok (.range field buckets (a.field "keyed"))
  | .dateRange => do
      let field ← fieldName (a.field "field")
      let format ← formatOf (a.field "format")
      let buckets ← Bucket.list false (a.field "ranges")
      .ok (.dateRange field format buckets)
  | .ipRange => do
      let field ← fieldName (a.field "field")
      let buckets ← Bucket.list true (a.field "ranges")
      .ok (.ipRange field buckets)
  | .geoDistance => do
      let field ← fieldName (a.field "field")
      let origin ← originOf (a.field "origin")
      let buckets ← Bucket.list false (a.field "ranges")
      .ok (.geoDistance field origin buckets (a.field "unit") (a.field "distance_type"))
  | .geohashGrid => do
      let field ← fieldName (a.field "field")
      .ok (.geohashGrid field (a.field "precision") (a.field "size") (a.field "shard_size"))

def listed (value : Json) : Except Failure Json := do
  let items ← value.asElements
  .ok (.arr items)

def listedUnlessNull (value : Json) : Except Failure Json :=
  if value.isNull then .ok .null else listed value

def ordered (value : Json) : Except Failure Json :=
  if value.truthy then do
    let entries ← value.asEntries
    .ok (.obj entries)
  else .ok .null

def orderedBy (mode : Json) (direction : Direction) : Except Failure Json :=
  if !mode.truthy then .ok .null
  else if mode.isScalar then .ok (Object.only mode.keyText (.str direction.name))
  else .error .wrongKind

def digest (compression : Json) : Json :=
  if compression.isNull then .null else Object.only "compression" compression

def bucketsJson (buckets : List Bucket) : Json := .arr (buckets.map Bucket.toJson)

def body (computation : Computation) (options : Json) : Except Failure Object :=
  match computation with
  | .metric _ source => withOptions source.entries options
  | .cardinality source precisionThreshold rehash =>
      withOptions
        (source.entries ++ [("precision_threshold", precisionThreshold), ("rehash", rehash)])
        options
  | .percentiles source percents compression => do
      let percents ← listedUnlessNull percents
      withOptions (source.entries ++ [("percents", percents), ("tdigest", digest compression)])
        options
  | .percentileRanks source values compression => do
      let values ← listed values
      withOptions (source.entries ++ [("values", values), ("tdigest", digest compression)])
        options
  | .geoBounds field wrapLongitude =>
      withOptions [("field", .str field), ("wrap_longitude", wrapLongitude)] options
  | .terms source size order minDocCount => do
      let order ← ordered order
      withOptions
        (source.entries ++ [("size", size), ("order", order), ("min_doc_count", minDocCount)])
        options
  | .missing field => spreadOptions [("field", .str field)] options
  | .histogram field interval minDocCount orderMode direction extended keyed => do
      -- The mode becomes a key, whatever was given for it; only here a list is found to be none.
      let order ← orderedBy orderMode direction
      withOptions
        [("field", .str field), ("interval", interval), ("min_doc_count", minDocCount),
         ("extended_bounds", extended.toJson), ("keyed", keyed), ("order", order)] options
  | .range field buckets keyed =>
      spreadOptions [("field", .str field), ("ranges", bucketsJson buckets), ("keyed", keyed)]
        options
  | .dateRange field format buckets =>
      spreadOptions
        [("field", .str field), ("format", .str format), ("ranges", bucketsJson buckets)] options
  | .ipRange field buckets =>
      spreadOptions [("field", .str field), ("ranges", bucketsJson buckets)] options
  | .geoDistance field origin buckets unit distanceType =>
      withOptions
        [("field", .str field), ("origin", origin), ("unit", unit),
         ("distance_type", distanceType), ("ranges", bucketsJson buckets)] options
  | .geohashGrid field precision size shardSize =>
      withOptions
        [("field", .str field), ("precision", precision), ("size", size),
         ("shard_size", shardSize)] options

end Computation

namespace Aggregation

def kind (a : Aggregation) : AggregationKind := a.computation.kind

def aliasOf : Json → Except Failure String
  | .str text =>
      if Text.isBlank text then .error (.argument .blankAlias) else .ok text
  | _ => .error (.argument .blankAlias)

/-- An aggregation of a kind from its fields; a fault is reported under kind and alias. -/
def build (kind : AggregationKind) (a : Object) : Except Failure Aggregation := do
  let name ← aliasOf (a.field "alias")
  let computation ← (Computation.build kind a).mapError fun fault =>
    Failure.argument (.aggregation kind name fault)
  .ok ⟨name, computation, a.field "options"⟩

def toJson (a : Aggregation) : Except Failure Json := do
  let body ← a.computation.body a.options
  .ok (Object.only a.kind.name (.obj body))

end Aggregation

end SearchRequest
