import SearchRequest.Settings.Installed.Options

/-!
Settings that are given as arguments of a command line. An argument begins with two hyphens and
the name of a field, in any case and short of letters as long as one field alone is meant; the
value stands behind an equals sign or is the next argument.
-/

namespace SearchRequest.CommandLine

def nullText : String := "null"

def helpName : String := "help"

/-- The field that a name means: the one of that name, or the only one whose name begins so. -/
def field? (fields : List String) (name : String) : Option String :=
  if fields.contains name then some name
  else match (helpName :: fields).filter (·.startsWith name) with
    | [field] => if field == helpName then none else some field
    | _ => none

def isNegativeNumber : List Char → Bool
  | '-' :: rest => match rest.takeWhile Char.isDigit, rest.dropWhile Char.isDigit with
      | digits, [] => !digits.isEmpty
      | _, '.' :: fraction => !fraction.isEmpty && fraction.all Char.isDigit
      | _, _ => false
  | _ => false

def isValue (text : String) : Bool :=
  !text.startsWith "-" || text == "-" || text.contains ' ' || isNegativeNumber text.toList

def meaning (field text : String) : Json :=
  SourceOptions.meaning ⟨none, false, false, .str nullText, true⟩ field text

def named? (fields : List String) (argument : String) : Option (String × Option String) :=
  match argument.toList with
  | '-' :: '-' :: rest => do
      let field ← field? fields (Text.lowered (String.ofList (rest.takeWhile (· != '='))))
      match rest.dropWhile (· != '=') with
      | _ :: value => some (field, some (String.ofList value))
      | [] => some (field, none)
  | _ => none

def readFrom (fields : List String) (done : Object) : Option String → List String → Option Object
  | none, [] => some done
  | some _, [] => none
  | some field, value :: rest =>
      if isValue value then readFrom fields (done.set field (meaning field value)) none rest
      else none
  | none, argument :: rest =>
      match named? fields argument with
      | none => none
      | some (field, none) => readFrom fields done (some field) rest
      | some (field, some value) =>
          readFrom fields (done.set field (meaning field value)) none rest

def texts? : List Json → Option (List String)
  | [] => some []
  | .str text :: rest => (texts? rest).map (text :: ·)
  | _ :: _ => none

/-- The settings of a command line: of none, of the program's own, which has no arguments, or of
one that is given. -/
def ofJson (fields : List String) (arguments : Json) : Except Failure Object :=
  match arguments with
  | .null | .bool _ => .ok []
  | .arr items => match texts? items with
      | none => .error .wrongKind
      | some texts => match readFrom fields [] none texts with
          | some read => .ok read
          | none => .error .commandLine
  | value => if Json.sameKey value (.bool false) then .ok [] else .error .source

end SearchRequest.CommandLine
