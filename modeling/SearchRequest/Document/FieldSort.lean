import SearchRequest.Arguments

/-!
One entry of the sort list: a field, the parameters of its sorting, and over them the order.
-/

namespace SearchRequest

structure FieldSort where
  field : String
  /-- An empty value leaves the order to the engine. -/
  order : Json
  parameters : Object
deriving DecidableEq, Repr

namespace FieldSort

def signature : Signature :=
  .closed [.required "field", .optional "order", .defaulted "parameters" (.obj [])]

def body (s : FieldSort) : Object :=
  if s.order.truthy then s.parameters.set "order" s.order else s.parameters

def toJson (s : FieldSort) : Json := Object.only s.field (.obj s.body)

def ofArguments (args : Object) : Except Failure FieldSort := do
  let a ← signature.bind args
  let parameters ← (a.field "parameters").asEntries
  let field := a.field "field"
  if field.isScalar then .ok ⟨field.keyText, a.field "order", parameters⟩
  else .error .wrongKind

end FieldSort

end SearchRequest
