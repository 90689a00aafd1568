import SearchRequest.Json.Literal

/-!
Calls spelled out as JSON: the name of an operation beside its arguments.
-/

namespace SearchRequest

structure Call where
  name : String
  args : Object
  spec : Json

namespace Call

def textOf : Json → String
  | .str text => text
  | _ => ""

def messageOf (o : Object) : String :=
  match o.get? "message" with
  | some message => message.displayed
  | none => ""

def entriesOf : Json → Object
  | .obj entries => entries
  | _ => []

def ofEntries (o : Object) : Call :=
  ⟨textOf (o.field "call"), entriesOf (o.field "args"), o.field "spec"⟩

def ofJson (step : Json) : Call := ofEntries (entriesOf step)

end Call

end SearchRequest
