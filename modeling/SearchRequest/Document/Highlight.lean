import SearchRequest.Arguments

/-!
Which fields are highlighted in the hits and how. The parameters stand beside the tags and the
fields and win over them.
-/

namespace SearchRequest

structure Highlight where
  fields : List (String × Object)
  preTags : List Json
  postTags : List Json
  parameters : Object
deriving DecidableEq, Repr

namespace Highlight

def signature : Signature :=
  .closed [.defaulted "fields" (.obj []), .defaulted "pre_tags" (.arr []),
    .defaulted "post_tags" (.arr []), .defaulted "parameters" (.obj [])]

def tagEntry (name : String) (tags : List Json) : Object :=
  if tags.isEmpty then [] else [(name, .arr tags)]

def body (h : Highlight) : Object :=
  let fields := h.fields.map fun entry => (entry.1, Json.obj entry.2)
  let tags := tagEntry "pre_tags" h.preTags ++ tagEntry "post_tags" h.postTags
  Object.merge (tags ++ [("fields", Json.obj fields)]) h.parameters

def toJson (h : Highlight) : Json := .obj h.body

def tagsOf (value : Json) : Except Failure (List Json) :=
  if value.truthy then value.asElements else .ok []

def fieldList : List (String × Json) → Except Failure (List (String × Object))
  | [] => .ok []
  | (name, parameters) :: rest => do
      let entries ← parameters.asEntries
      let others ← fieldList rest
      .ok ((name, entries) :: others)

def fieldsOf : Json → Except Failure (List (String × Object))
  | .obj entries => fieldList entries
  | _ => .error .noOperation

def ofArguments (args : Object) : Except Failure Highlight := do
  let a ← signature.bind args
  let preTags ← tagsOf (a.field "pre_tags")
  let postTags ← tagsOf (a.field "post_tags")
  let fields ← fieldsOf (a.field "fields")
  let parameters ← (a.field "parameters").asEntries
  .ok ⟨fields, preTags, postTags, parameters⟩

end Highlight

end SearchRequest
