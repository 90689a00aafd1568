import SearchRequest.Failure

/-!
The variables of the environment that the program runs in.
-/

namespace SearchRequest

abbrev Variables := List (String × String)

namespace Variables

def get? (v : Variables) (name : String) : Option String := v.lookup name

def set (v : Variables) (name value : String) : Variables :=
  if v.any (·.1 == name) then
    v.map fun entry => if entry.1 == name then (name, value) else entry
  else v ++ [(name, value)]

def erase (v : Variables) (name : String) : Variables := v.filter (·.1 != name)

def isNull (c : Char) : Bool := c.toNat = 0

/-- Names and values are texts without the null character, and a name has no equals sign. The
system refuses a variable without a name. -/
def put (v : Variables) (name value : Json) : Except Failure Variables :=
  match name, value with
  | .str name, .str value =>
      if name.toList.any (fun c => isNull c || c == '=') || value.toList.any isNull then
        .error .wrongContent
      else if name.isEmpty then .error .system
      else .ok (v.set name value)
  | _, _ => .error .wrongKind

/-- A variable that is not set need not be removed. -/
def remove (v : Variables) : Json → Except Failure Variables
  | .str name => .ok (v.erase name)
  | _ => .error .wrongKind

def putAll (v : Variables) : Object → Except Failure Variables :=
  List.foldlM (fun done entry => put done (.str entry.1) entry.2) v

end Variables

end SearchRequest
