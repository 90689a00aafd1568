import SearchRequest.Settings.Basic
import SearchRequest.Settings.Library
import SearchRequest.Text.Lowercase

/-!
How the environment is read for one set of settings: what the names of its variables begin with,
whether the case of letters counts in them, and what some of their values stand for.
-/

namespace SearchRequest

structure SourceOptions where
  /-- What stands before the name of a field in the name of its variable; no text when the
  environment cannot be read at all. -/
  lead : Option String
  exactCase : Bool
  /-- A variable without content counts as not set. -/
  skipsEmpty : Bool
  nullText : Json
  readsConstants : Bool
deriving DecidableEq, Repr

namespace SourceOptions

def ownName : String := "__pydantic_self__"

def leadOf (usual : String) : Json → Except Failure (Option String)
  | .null => .ok (some usual)
  | .str text => .ok (some text)
  | .arr _ | .obj _ => .ok none
  | _ => .error .wrongKind

def ledBy (target : Json) (lead : Option String) : Option String :=
  if target.isNull || target == .str "variable" || target == .str "all" then lead else some ""

def isSplitCount (value : Json) : Bool :=
  !value.truthy || value.isNumber || value == .bool true

def isExactCase (usual : Bool) (value : Json) : Bool :=
  if value.isNull then usual else value.truthy

def ofArguments (config : SettingsConfig) (given : Object) : Except Failure SourceOptions :=
  if given.has ownName || !isSplitCount (given.field "_env_nested_max_split") then
    .error .wrongKind
  else do
    let lead ← leadOf config.lead (given.field "_env_prefix")
    .ok ⟨ledBy (given.field "_env_prefix_target") lead,
      isExactCase config.exactCase (given.field "_case_sensitive"),
      (given.field "_env_ignore_empty").truthy, given.field "_env_parse_none_str",
      (given.field "_env_parse_enums").truthy⟩

def spelled (o : SourceOptions) (name : String) : String :=
  if o.exactCase then name else Text.lowered name

def meaning (o : SourceOptions) (field text : String) : Json :=
  let constant := if o.readsConstants && field == "environment" then Environment.constant? text
    else none
  match constant with
  | some environment => .str environment.name
  | none => if o.nullText == .str text then .null else .str text

/-- The variable of a field. Of several that go by its name the one set last counts. -/
def value? (o : SourceOptions) (env : Variables) (lead field : String) : Option Json := do
  let counted := if o.skipsEmpty then env.filter fun entry => !entry.2.isEmpty else env
  let name := o.spelled (lead ++ field)
  let found ← counted.reverse.find? fun entry => o.spelled entry.1 == name
  some (o.meaning field found.2)

def source (o : SourceOptions) (config : SettingsConfig) (env : Variables) : Source :=
  match o.lead with
  | none => .error .source
  | some lead => .ok <| config.fields.filterMap fun field =>
      (o.value? env lead field).map (field, ·)

end SourceOptions

end SearchRequest
