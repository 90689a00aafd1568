import SearchRequest.Arguments

/-!
Leaf clauses: the queries that hold no other query. `Leaf.build` makes a leaf from loosely typed
fields and refuses those that lack what the kind requires; `Leaf.toJson` is its part of a request
body. Typed parameters that are null are left out, and options are merged over the rest.
-/

namespace SearchRequest

inductive Bounds
  | corners (topLeft bottomRight : Json)
  | edges (top left bottom right : Json)
deriving DecidableEq, Repr

namespace Bounds

def cornerKeys : List String := ["top_left", "bottom_right"]

def edgeKeys : List String := ["top", "left", "bottom", "right"]

def sameKeys (o : Object) (keys : List String) : Bool :=
  o.length == keys.length && keys.all o.has

/-- Two points, four numbers, or an object with exactly the keys of one form. -/
def ofPoints? : Json → Option Bounds
  | .arr [a, b] => some (.corners a b)
  | .arr [top, left, bottom, right] => some (.edges top left bottom right)
  | .obj o =>
      if sameKeys o cornerKeys then
        some (.corners (Object.field o "top_left") (Object.field o "bottom_right"))
      else if sameKeys o edgeKeys then
        some (.edges (Object.field o "top") (Object.field o "left") (Object.field o "bottom")
          (Object.field o "right"))
      else none
  | _ => none

def toJson : Bounds → Json
  | .corners a b => .obj [("top_left", a), ("bottom_right", b)]
  | .edges top left bottom right =>
      .obj [("top", top), ("left", left), ("bottom", bottom), ("right", right)]

end Bounds

inductive Leaf
  | term (field : String) (value boost options : Json)
  | terms (field : String) (values : List Json) (boost options : Json)
  | range (field : String) (gt gte lt lte format timeZone boost options : Json)
  | startsWith (field : String) (value boost options : Json)
  | wildcard (field : String) (value boost options : Json)
  | regexp (field : String) (value flags boost options : Json)
  | fuzzy (field : String) (value fuzziness boost options : Json)
  | present (field : String)
  | ids (values : List Json) (options : Json)
  | matching (field : String)
      (query operator analyzer fuzziness minimumShouldMatch boost options : Json)
  | multiMatch (fields : List String) (query type operator boost options : Json)
  | common (field : String) (query cutoffFrequency boost options : Json)
  | queryString (query : String) (defaultField defaultOperator : Json)
      (fields : List Json) (boost options : Json)
  | simpleQueryString (query : String) (defaultField defaultOperator : Json)
      (fields : List Json) (boost options : Json)
  | matchAll (boost options : Json)
  | geoBoundingBox (field : String) (bounds : Bounds) (options : Json)
  | geoDistance (field distance : String) (location options : Json)
  | geoPolygon (field : String) (points : List Json) (options : Json)
  | geoShape (field shapeType : String) (coordinates : List Json) (relation options : Json)
deriving DecidableEq, Repr

namespace LeafKind

def refuse (kind : LeafKind) (fault : ClauseFault) : Failure := .clause (.leaf kind) fault

def nameIn (kind : LeafKind) : Json → Except Failure String
  | .str text =>
      if Text.isBlank text then .error (kind.refuse (.blankText "field")) else .ok text
  | _ => .error (kind.refuse (.blankText "field"))

def namesIn (kind : LeafKind) : List Json → Except Failure (List String)
  | [] => .ok []
  | item :: rest => do
      let name ← kind.nameIn item
      let names ← kind.namesIn rest
      .ok (name :: names)

def textIn (kind : LeafKind) (label : String) : Json → Except Failure String
  | .str text =>
      if text.isEmpty then .error (kind.refuse (.blankText label)) else .ok text
  | _ => .error (kind.refuse (.blankText label))

def valueIn (kind : LeafKind) (label : String) : Json → Except Failure Json
  | .null => .error (kind.refuse (.missingValue label))
  | value => .ok value

def listIn (kind : LeafKind) (label : String) : Json → Except Failure (List Json)
  | .arr items => .ok items
  | _ => .error (kind.refuse (.notList label))

def listOrNullIn (kind : LeafKind) (label : String) : Json → Except Failure (List Json)
  | .null => .ok []
  | value => kind.listIn label value

def isId : Json → Bool
  | .str text => !text.isEmpty
  | .int _ => true
  | _ => false

def idsIn (kind : LeafKind) (values : Json) : Except Failure (List Json) := do
  let items ← kind.listIn "values" values
  if items.isEmpty then .error (kind.refuse .noIds)
  else match items.find? (!isId ·) with
    | some value => .error (kind.refuse (.badId value))
    | none => .ok items

def boundsIn (kind : LeafKind) (points : Json) : Except Failure Bounds :=
  match Bounds.ofPoints? points with
  | some bounds => .ok bounds
  | none => .error (kind.refuse .corners)

def verticesIn (kind : LeafKind) (points : Json) : Except Failure (List Json) := do
  let items ← kind.listIn "points" points
  if items.length < 3 then .error (kind.refuse .fewVertices) else .ok items

end LeafKind

namespace Leaf

def build (kind : LeafKind) (a : Object) : Except Failure Leaf :=
  let options := a.field "options"
  let boost := a.field "boost"
  match kind with
  | .term => do
      let field ← kind.nameIn (a.field "field")
      let value ← kind.valueIn "value" (a.field "value")
      .ok (.term field value boost options)
  | .terms => do
      let field ← kind.nameIn (a.field "field")
      let values ← kind.listIn "values" (a.field "values")
      .ok (.terms field values boost options)
  | .range => do
      let field ← kind.nameIn (a.field "field")
      .ok (.range field (a.field "gt") (a.field "gte") (a.field "lt") (a.field "lte")
        (a.field "format") (a.field "time_zone") boost options)
  | .startsWith => do
      let field ← kind.nameIn (a.field "field")
      let value ← kind.valueIn "value" (a.field "value")
      .ok (.startsWith field value boost options)
  | .wildcard => do
      let field ← kind.nameIn (a.field "field")
      let value ← kind.valueIn "value" (a.field "value")
      .ok (.wildcard field value boost options)
  | .regexp => do
      let field ← kind.nameIn (a.field "field")
      let value ← kind.valueIn "value" (a.field "value")
      .ok (.regexp field value (a.field "flags") boost options)
  | .fuzzy => do
      let field ← kind.nameIn (a.field "field")
      let value ← kind.valueIn "value" (a.field "value")
      .ok (.fuzzy field value (a.field "fuzziness") boost options)
  | .present => do
      let field ← kind.nameIn (a.field "field")
      .ok (.present field)
  | .ids => do
      let values ← kind.idsIn (a.field "values")
      .ok (.ids values options)
  | .matching => do
      let field ← kind.nameIn (a.field "field")
      let query ← kind.valueIn "query" (a.field "query")
      .ok (.matching field query (a.field "operator") (a.field "analyzer") (a.field "fuzziness")
        (a.field "minimum_should_match") boost options)
  | .multiMatch => do
      let items ← kind.listIn "fields" (a.field "fields")
      let fields ← kind.namesIn items
      let query ← kind.valueIn "query" (a.field "query")
      .ok (.multiMatch fields query (a.field "type") (a.field "operator") boost options)
  | .common => do
      let field ← kind.nameIn (a.field "field")
      let query ← kind.valueIn "query" (a.field "query")
      .ok (.common field query (a.field "cutoff_frequency") boost options)
  | .queryString => do
      let query ← kind.textIn "query" (a.field "query")
      let fields ← kind.listOrNullIn "fields" (a.field "fields")
      .ok (.queryString query (a.field "default_field") (a.field "default_operator") fields
        boost options)
  | .simpleQueryString => do
      let query ← kind.textIn "query" (a.field "query")
      let fields ← kind.listOrNullIn "fields" (a.field "fields")
      .ok (.simpleQueryString query (a.field "default_field") (a.field "default_operator") fields
        boost options)
  | .matchAll => .ok (.matchAll boost options)
  | .geoBoundingBox => do
      let field ← kind.nameIn (a.field "field")
      let bounds ← kind.boundsIn (a.field "points")
      .ok (.geoBoundingBox field bounds options)
  | .geoDistance => do
      let field ← kind.nameIn (a.field "field")
      let distance ← kind.textIn "distance" (a.field "distance")
      let location ← kind.valueIn "location" (a.field "location")
      .ok (.geoDistance field distance location options)
  | .geoPolygon => do
      let field ← kind.nameIn (a.field "field")
      let points ← kind.verticesIn (a.field "points")
      .ok (.geoPolygon field points options)
  | .geoShape => do
      let field ← kind.nameIn (a.field "field")
      let shapeType ← kind.textIn "shape_type" (a.field "shape_type")
      let coordinates ← kind.listIn "coordinates" (a.field "coordinates")
      .ok (.geoShape field shapeType coordinates (a.field "relation") options)

def kind : Leaf → LeafKind
  | .term .. => .term
  | .terms .. => .terms
  | .range .. => .range
  | .startsWith .. => .startsWith
  | .wildcard .. => .wildcard
  | .regexp .. => .regexp
  | .fuzzy .. => .fuzzy
  | .present .. => .present
  | .ids .. => .ids
  | .matching .. => .matching
  | .multiMatch .. => .multiMatch
  | .common .. => .common
  | .queryString .. => .queryString
  | .simpleQueryString .. => .simpleQueryString
  | .matchAll .. => .matchAll
  | .geoBoundingBox .. => .geoBoundingBox
  | .geoDistance .. => .geoDistance
  | .geoPolygon .. => .geoPolygon
  | .geoShape .. => .geoShape

end Leaf

/-- Typed parameters without the null ones, and over them the entries that the options spell. -/
def withOptions (typed : Object) (options : Json) : Except Failure Object := do
  let extra ← options.asEntries
  .ok (typed.given.merge extra)

def mergedParameters (args : Object) : Except Failure Object := do
  let a ← (Signature.closed [.required "typed", .required "options"]).bind args
  match a.field "typed" with
  | .obj typed => withOptions typed (a.field "options")
  | _ => .error .noOperation

def spreadOptions (base : Object) (options : Json) : Except Failure Object := do
  let extra ← options.asObject
  .ok (base.merge extra)

def listOrNull (items : List Json) : Json := if items.isEmpty then .null else .arr items

namespace Leaf

def underField (field : String) (core params : Object) : Object :=
  [(field, .obj (core.merge params))]

def queryStringBody (query : String) (defaultField defaultOperator : Json) (fields : List Json)
    (boost options : Json) : Except Failure Object := do
  let params ← withOptions
    [("default_field", defaultField), ("default_operator", defaultOperator),
     ("fields", listOrNull fields), ("boost", boost)] options
  .ok (Object.merge [("query", .str query)] params)

def body : Leaf → Except Failure Object
  | .term field value boost options => do
      let params ← withOptions [("boost", boost)] options
      -- A term without parameters is written short.
      if params.isEmpty then .ok [(field, value)]
      else .ok (underField field [("value", value)] params)
  | .terms field values boost options => do
      let params ← withOptions [("boost", boost)] options
      -- The parameters stand beside the field, and one of its name takes its place.
      .ok (Object.merge [(field, .arr values)] params)
  | .range field gt gte lt lte format timeZone boost options => do
      let params ← withOptions
        [("gt", gt), ("gte", gte), ("lt", lt), ("lte", lte), ("format", format),
         ("time_zone", timeZone), ("boost", boost)] options
      .ok (underField field [] params)
  | .startsWith field value boost options => do
      let params ← withOptions [("boost", boost)] options
      .ok (underField field [("value", value)] params)
  | .wildcard field value boost options => do
      let params ← withOptions [("boost", boost)] options
      .ok (underField field [("value", value)] params)
  | .regexp field value flags boost options => do
      let params ← withOptions [("flags", flags), ("boost", boost)] options
      .ok (underField field [("value", value)] params)
  | .fuzzy field value fuzziness boost options => do
      let params ← withOptions [("fuzziness", fuzziness), ("boost", boost)] options
      .ok (underField field [("value", value)] params)
  | .present field => .ok [("field", .str field)]
  | .ids values options => spreadOptions [("values", .arr values)] options
  | .matching field query operator analyzer fuzziness minimumShouldMatch boost options => do
      let params ← withOptions
        [("operator", operator), ("analyzer", analyzer), ("fuzziness", fuzziness),
         ("minimum_should_match", minimumShouldMatch), ("boost", boost)] options
      .ok (underField field [("query", query)] params)
  | .multiMatch fields query type operator boost options => do
      let params ← withOptions [("type", type), ("operator", operator), ("boost", boost)] options
      let named : Object := if fields.isEmpty then [] else [("fields", .strings fields)]
      .ok (Object.merge (("query", query) :: named) params)
  | .common field query cutoffFrequency boost options => do
      let params ← withOptions [("cutoff_frequency", cutoffFrequency), ("boost", boost)] options
      .ok (underField field [("query", query)] params)
  | .queryString query defaultField defaultOperator fields boost options =>
      queryStringBody query defaultField defaultOperator fields boost options
  | .simpleQueryString query defaultField defaultOperator fields boost options =>
      queryStringBody query defaultField defaultOperator fields boost options
  | .matchAll boost options => withOptions [("boost", boost)] options
  | .geoBoundingBox field bounds options => spreadOptions [(field, bounds.toJson)] options
  | .geoDistance field distance location options =>
      -- A field by the name of the distance takes its place.
      spreadOptions (Object.set [("distance", .str distance)] field location) options
  | .geoPolygon field points options =>
      spreadOptions [(field, Object.only "points" (.arr points))] options
  | .geoShape field shapeType coordinates relation options => do
      let params ← withOptions [("relation", relation)] options
      let shape := Json.obj [("type", .str shapeType), ("coordinates", .arr coordinates)]
      .ok (underField field [("shape", shape)] params)

def toJson (leaf : Leaf) : Except Failure Json := do
  let body ← leaf.body
  .ok (Object.only leaf.kind.name (.obj body))

end Leaf

end SearchRequest
