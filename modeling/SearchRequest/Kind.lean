/-!
The vocabulary of the query language: the roles of a clause in a boolean query, and the kinds
of clauses and aggregations, each with its name in a request body.
-/

namespace SearchRequest

inductive Role
  | must
  | should
  | mustNot
  | filter
deriving DecidableEq, Repr, Inhabited

namespace Role

def name : Role → String
  | .must => "must"
  | .should => "should"
  | .mustNot => "must_not"
  | .filter => "filter"

def all : List Role := [.must, .should, .mustNot, .filter]

def named? (text : String) : Option Role := all.find? (·.name == text)

end Role

inductive LeafKind
  | term
  | terms
  | range
  | startsWith
  | wildcard
  | regexp
  | fuzzy
  | present
  | ids
  | matching
  | multiMatch
  | common
  | queryString
  | simpleQueryString
  | matchAll
  | geoBoundingBox
  | geoDistance
  | geoPolygon
  | geoShape
deriving DecidableEq, Repr

namespace LeafKind

def name : LeafKind → String
  | .term => "term"
  | .terms => "terms"
  | .range => "range"
  | .startsWith => "prefix"
  | .wildcard => "wildcard"
  | .regexp => "regexp"
  | .fuzzy => "fuzzy"
  | .present => "exists"
  | .ids => "ids"
  | .matching => "match"
  | .multiMatch => "multi_match"
  | .common => "common"
  | .queryString => "query_string"
  | .simpleQueryString => "simple_query_string"
  | .matchAll => "match_all"
  | .geoBoundingBox => "geo_bounding_box"
  | .geoDistance => "geo_distance"
  | .geoPolygon => "geo_polygon"
  | .geoShape => "geo_shape"

def all : List LeafKind :=
  [.term, .terms, .range, .startsWith, .wildcard, .regexp, .fuzzy, .present, .ids, .matching,
   .multiMatch, .common, .queryString, .simpleQueryString, .matchAll, .geoBoundingBox,
   .geoDistance, .geoPolygon, .geoShape]

end LeafKind

inductive ClauseKind
  | leaf (kind : LeafKind)
  | nested
  | functionScore
  | bool
deriving DecidableEq, Repr

namespace ClauseKind

def name : ClauseKind → String
  | .leaf kind => kind.name
  | .nested => "nested"
  | .functionScore => "function_score"
  | .bool => "bool"

def all : List ClauseKind := LeafKind.all.map .leaf ++ [.nested, .functionScore, .bool]

def named? (text : String) : Option ClauseKind := all.find? (·.name == text)

end ClauseKind

inductive MetricKind
  | avg
  | sum
  | min
  | max
  | stats
  | valueCount
deriving DecidableEq, Repr

inductive AggregationKind
  | metric (kind : MetricKind)
  | cardinality
  | percentiles
  | percentileRanks
  | geoBounds
  | terms
  | missing
  | histogram
  | range
  | dateRange
  | ipRange
  | geoDistance
  | geohashGrid
deriving DecidableEq, Repr

namespace AggregationKind

def name : AggregationKind → String
  | .metric .avg => "avg"
  | .metric .sum => "sum"
  | .metric .min => "min"
  | .metric .max => "max"
  | .metric .stats => "stats"
  | .metric .valueCount => "value_count"
  | .cardinality => "cardinality"
  | .percentiles => "percentiles"
  | .percentileRanks => "percentile_ranks"
  | .geoBounds => "geo_bounds"
  | .terms => "terms"
  | .missing => "missing"
  | .histogram => "histogram"
  | .range => "range"
  | .dateRange => "date_range"
  | .ipRange => "ip_range"
  | .geoDistance => "geo_distance"
  | .geohashGrid => "geohash_grid"

def all : List AggregationKind :=
  [.metric .avg, .metric .sum, .metric .min, .metric .max, .metric .stats, .metric .valueCount,
   .cardinality, .percentiles, .percentileRanks, .geoBounds, .terms, .missing, .histogram,
   .range, .dateRange, .ipRange, .geoDistance, .geohashGrid]

def named? (text : String) : Option AggregationKind := all.find? (·.name == text)

end AggregationKind

end SearchRequest
