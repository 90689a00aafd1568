import SearchRequest.Clause.Signature
import SearchRequest.Search.Basic

/-!
The operations on a search whose change follows from their arguments alone. `Edit.change` binds
and checks the arguments; nothing is changed before all of them are accepted.
-/

namespace SearchRequest

inductive Edit
  | role (role : Role)
  | index
  | docType
  | offset
  | size
  | minScore
  | minimumShouldMatch
  | boost
  | sortBy
  | highlight
  | source
deriving DecidableEq, Repr

namespace Edit

def name : Edit → String
  | .role r => r.name
  | .index => "index"
  | .docType => "type_"
  | .offset => "from_"
  | .size => "size"
  | .minScore => "min_score"
  | .minimumShouldMatch => "minimum_should_match"
  | .boost => "boost"
  | .sortBy => "sort_by"
  | .highlight => "highlight"
  | .source => "source"

def all : List Edit :=
  Role.all.map .role ++
    [.index, .docType, .offset, .size, .minScore, .minimumShouldMatch, .boost, .sortBy,
     .highlight, .source]

def named? (text : String) : Option Edit := all.find? (·.name == text)

def openingTag : String := "<mark>"

def closingTag : String := "</mark>"

def signature : Edit → Signature
  | .role _ => noArguments
  | .index => .closed [.required "index"]
  | .docType => .closed [.required "type_"]
  | .offset => .closed [.required "offset"]
  | .size => .closed [.required "limit"]
  | .minScore => .closed [.required "score"]
  | .minimumShouldMatch | .boost => .closed [.required "value"]
  | .sortBy => .closed [.required "fields", .optional "order", .optional "parameters"]
  | .highlight => .closed
      [.optional "fields", .optional "parameters", .defaulted "pre_tag" (.str openingTag),
       .defaulted "post_tag" (.str closingTag)]
  | .source => .closed [.optional "includes", .optional "excludes"]

def countIn (label : String) : Json → Except Failure Nat
  | .int (.ofNat n) => .ok n
  | other => .error (.argument (.notCount label other))

def nameIn (label : String) : Json → Except Failure String
  | .str text =>
      if Text.isBlank text then .error (.argument (.blankName label (.str text))) else .ok text
  | other => .error (.argument (.blankName label other))

def namesIn (label : String) : List Json → Except Failure (List String)
  | [] => .ok []
  | item :: rest => do
      let name ← nameIn label item
      let names ← namesIn label rest
      .ok (name :: names)

def numberIn (label : String) (value : Json) : Except Failure Json :=
  if value.isNumber then .ok value else .error (.argument (.notNumber label value))

def parametersIn : Json → Except Failure Object
  | .null => .ok []
  | .obj entries => .ok entries
  | other => .error (.argument (.notObject "parameters" other))

def orderIn (value : Json) : Except Failure Json :=
  match value with
  | .null => .ok .null
  | _ => match Direction.ofJson? value with
      | some direction => .ok (.str direction.name)
      | none => .error (.argument (.order value))

def sortsOf (a : Object) : Except Failure (List FieldSort) := do
  let order ← orderIn (a.field "order")
  let parameters ← parametersIn (a.field "parameters")
  let items ← LeafKind.nameList (a.field "fields")
  let names ← namesIn "sort field" items
  .ok (names.map fun name => ⟨name, order, parameters⟩)

def everyField : String := "*"

def fieldOptions (name : String) : Json → Except Failure Object
  | .null => .ok []
  | .obj entries => .ok entries
  | other => .error (.argument (.highlightOptions name other))

def fieldEntries : List (String × Json) → Except Failure (List (String × Object))
  | [] => .ok []
  | (key, value) :: rest => do
      let name ← nameIn "highlight field" (.str key)
      let options ← fieldOptions name value
      let others ← fieldEntries rest
      .ok ((name, options) :: others)

/-- Fields with their options, or a name or list of names without any. -/
def highlightedFields : Json → Except Failure (List (String × Object))
  | .null => .ok [(everyField, [])]
  | .obj entries => fieldEntries entries
  | value => do
      let items ← LeafKind.nameList value
      let names ← namesIn "highlight field" items
      -- The fields become keys of an object, so a name that is repeated counts once.
      .ok (names.eraseDups.map fun name => (name, []))

def highlightOf (a : Object) : Except Failure Highlight := do
  let fields ← highlightedFields (a.field "fields")
  let parameters ← parametersIn (a.field "parameters")
  .ok ⟨fields, [a.field "pre_tag"], [a.field "post_tag"], parameters⟩

def listIn (label : String) : Json → Except Failure (Option (List Json))
  | .null => .ok none
  | .arr items => .ok (some items)
  | other => .error (.argument (.notList label other))

/-- An empty list alone selects nothing, as no list at all does. -/
def filterOf : Option (List Json) → Option (List Json) → SourceFilter
  | some includes, some excludes => .both includes excludes
  | some (first :: rest), none => .only (first :: rest)
  | none, some (first :: rest) => .allBut (first :: rest)
  | _, _ => .nothing

def sourceOf (a : Object) : Except Failure SourceFilter := do
  let includes ← listIn "includes" (a.field "includes")
  let excludes ← listIn "excludes" (a.field "excludes")
  .ok (filterOf includes excludes)

def changeOf (e : Edit) (a : Object) : Except Failure Change :=
  match e with
  | .role r => .ok (.role r)
  | .index => do
      let name ← nameIn "index" (a.field "index")
      .ok (.index name)
  | .docType => do
      let name ← nameIn "type" (a.field "type_")
      .ok (.docType name)
  | .offset => do
      let count ← countIn "offset" (a.field "offset")
      .ok (.offset count)
  | .size => do
      let count ← countIn "limit" (a.field "limit")
      .ok (.size count)
  | .minScore => do
      let score ← numberIn "min_score" (a.field "score")
      .ok (.minScore score)
  | .minimumShouldMatch => .ok (.minimumShouldMatch (a.field "value"))
  | .boost => do
      let value ← numberIn "boost" (a.field "value")
      .ok (.boost value)
  | .sortBy => do
      let sorts ← sortsOf a
      .ok (.sorts sorts)
  | .highlight => do
      let highlight ← highlightOf a
      .ok (.highlight highlight)
  | .source => do
      let filter ← sourceOf a
      .ok (.source filter)

def change (e : Edit) (args : Object) : Except Failure Change := do
  let a ← e.signature.bind args
  e.changeOf a

end Edit

def LeafKind.change (kind : LeafKind) (args : Object) : Except Failure Change := do
  let leaves ← kind.request args
  .ok (.clauses (leaves.map .leaf))

end SearchRequest
