import SearchRequest.Failure

/-!
Named arguments. A signature lists the arguments that an operation knows, each with the field
that it sets, and says whether further arguments are taken as options. Arguments that do not fit
the signature are refused before the operation looks at any of them.
-/

namespace SearchRequest

structure Parameter where
  name : String
  field : String
  /-- The value when the argument is not given; without one the argument is required. -/
  fallback : Option Json

namespace Parameter

def required (name : String) : Parameter := ⟨name, name, none⟩

def optional (name : String) : Parameter := ⟨name, name, some .null⟩

def defaulted (name : String) (value : Json) : Parameter := ⟨name, name, some value⟩

def called (p : Parameter) (name : String) : Parameter := { p with name := name }

def value (p : Parameter) (args : Object) : Json :=
  (args.get? p.name).getD (p.fallback.getD .null)

def satisfied (p : Parameter) (args : Object) : Bool := p.fallback.isSome || args.has p.name

end Parameter

structure Signature where
  parameters : List Parameter
  takesOptions : Bool

namespace Signature

def closed (parameters : List Parameter) : Signature := ⟨parameters, false⟩

def withOptions (parameters : List Parameter) : Signature := ⟨parameters, true⟩

def knows (s : Signature) (name : String) : Bool := s.parameters.any (·.name == name)

def extra (s : Signature) (args : Object) : Object := args.filter fun entry => !s.knows entry.1

/-- The name that stands for the builder itself, so no argument can have it. -/
def receiver : String := "self"

def bind (s : Signature) (args : Object) : Except Failure Object :=
  if !s.parameters.all (·.satisfied args) || args.has receiver then .error .wrongKind
  else
    let fields := s.parameters.map fun p => (p.field, p.value args)
    if s.takesOptions then .ok (fields ++ [("options", .obj (s.extra args))])
    else if (s.extra args).isEmpty then .ok fields
    else .error .wrongKind

end Signature

def noArguments : Signature := .closed []

end SearchRequest
