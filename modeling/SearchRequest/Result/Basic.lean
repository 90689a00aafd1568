import SearchRequest.Failure

/-!
The result of a search: the total, the hits in order, and what came with them. `Result.ofPayload`
reads an answer and refuses those without the shape of one.
-/

namespace SearchRequest

structure Hit where
  id : Json
  score : Json
  source : Json.Table
  highlight : Json
  index : Json
  sort : Json
deriving DecidableEq, Repr

namespace Hit

/-- A hit from its entry in the answer; a source that is empty counts as an empty object. -/
def ofJson : Json → Except Failure Hit
  | .obj entries => do
      let source ← (Object.field entries "_source").orEmpty.asTable
      let part := Object.field entries
      .ok ⟨part "_id", part "_score", source, part "highlight", part "_index", part "sort"⟩
  | other => .error (.response (.badHit other) (.plain other))

def ofList : List Json → Except Failure (List Hit)
  | [] => .ok []
  | entry :: rest => do
      let hit ← ofJson entry
      let hits ← ofList rest
      .ok (hit :: hits)

end Hit

inductive Item
  | hit (hit : Hit)
  | value (value : Json)
deriving DecidableEq, Repr

namespace Item

def source? : Item → Option Json.Table
  | .hit found => some found.source
  | .value _ => none

def value? : Item → Option Json
  | .hit _ => none
  | .value given => some given

/-- The sources of the hits in a list; the caller's own values have none. -/
def sources (items : List Item) : List Json.Table := items.filterMap source?

end Item

structure Summary where
  totalHits : Nat
  maxScore : Json
  took : Json
  aggregations : Json.Table
  /-- The answer as it came. -/
  raw : Object
deriving DecidableEq, Repr

structure Result where
  summary : Summary
  hits : List Item
deriving DecidableEq, Repr

namespace Result

/-- A total is a natural number, or an object with one as its value. -/
def totalOf (total : Json) : Except ResponseFault Nat :=
  match total with
  | .obj entries => match Object.get? entries "value" with
      | none => .error .noTotalValue
      | some value => natural value
  | value => natural value
where
  natural : Json → Except ResponseFault Nat
    | .int (.ofNat n) => .ok n
    | other => .error (.badTotal other)

def parts (answer : Json) : Except ResponseFault (Object × Object × List Json) :=
  match answer with
  | .obj raw => match Object.field raw "hits" with
      | .obj info =>
          if !Object.has info "total" then .error .noTotal
          else match Object.field info "hits" with
            | .arr listed => .ok (raw, info, listed)
            | _ => .error .noHitList
      | _ => .error .noHits
  | _ => .error .notObject

def ofPayload (answer : Payload) : Except Failure Result := do
  let refuse (fault : ResponseFault) : Failure := .response fault answer
  let (raw, info, listed) ← (parts answer.body).mapError refuse
  let total ← (totalOf (info.field "total")).mapError refuse
  let aggregations ← (raw.field "aggregations").orEmpty.asTable
  let hits ← Hit.ofList listed
  .ok ⟨⟨total, info.field "max_score", raw.field "took", aggregations, raw⟩, hits.map .hit⟩

def aggregation (s : Summary) (name : Json) : Except Failure Json :=
  if !name.isScalar then .error .wrongKind
  else match Json.lookup? s.aggregations name with
    | some value => .ok value
    | none => .error .unknownName

def label (s : Summary) (count : Nat) : String :=
  s!"Result(total_hits={s.totalHits}, hits={count})"

end Result

end SearchRequest
