import SearchRequest.Arguments
import SearchRequest.Settings.Basic
import SearchRequest.Text.Lowercase
import SearchRequest.Trace.Event

/-!
How the log is set up: what its lines are rendered as, which place of the call they name, and
from which level on they are written.
-/

namespace SearchRequest

structure LogSetup where
  renderer : LogFormat
  callsite : List String
  /-- Whether a logger keeps the setup that it was first used with. -/
  keepsFirst : Bool
  threshold : Threshold
deriving DecidableEq, Repr

namespace LogSetup

def placeNames : List String := ["filename", "func_name", "lineno"]

def make (production json : Bool) (threshold : Threshold) : LogSetup where
  renderer := if json || production then .json else .console
  callsite := if production then [] else placeNames
  keepsFirst := production
  threshold := threshold

def ofSettings (s : Settings) : LogSetup :=
  make (s.environment == .production) (s.logFormat == .json) s.threshold

def thresholdOf (value : Json) : Except Failure Threshold :=
  match value with
  | .str name => match Threshold.names.lookup (Text.lowered name) with
      | some threshold => .ok threshold
      | none => .error .unknownName
  | .arr _ | .obj _ => .error .wrongKind
  | number => match Threshold.all.find? fun t => Json.sameKey (.int t.rank) number with
      | some threshold => .ok threshold
      | none => .error .unknownName

def signature : Signature :=
  .closed [.defaulted "environment" (.str Environment.development.name),
    .defaulted "log_level" (.str LogLevel.info.name),
    .defaulted "log_format" (.str LogFormat.console.name)]

def ofArguments (args : Object) : Except Failure LogSetup := do
  let a ← signature.bind args
  let threshold ← thresholdOf (a.field "log_level")
  .ok (make (a.field "environment" == .str Environment.production.name)
    (a.field "log_format" == .str LogFormat.json.name) threshold)

def takenNames : List String := ["name", "logger", "logger_factory_args"]

/-- Arguments that set up one logger otherwise than the others. They are no fields, and a value
can only leave the setup as it is: null does, and anything else for which the test is false. -/
def setupNames : List (String × (Json → Bool)) :=
  [("processors", fun value => !value.isNull), ("wrapper_class", Json.truthy),
   ("context_class", Json.truthy), ("cache_logger_on_first_use", fun _ => false)]

/-- The fields that a logger adds to its lines: its context, without what sets it up, and its
name when it has one. -/
def bound (name : Json) (context : Object) : Except Failure Object :=
  if takenNames.any context.has || setupNames.any (fun s => s.2 (context.field s.1)) then
    .error .wrongKind
  else
    let fields : Object := context.filter fun entry => !(setupNames.any (·.1 == entry.1))
    if name.truthy then .ok (fields.set "name" name) else .ok fields

def written (s : LogSetup) (lines : List LogLine) : List LogLine :=
  lines.filter fun line => s.threshold.lets line.level

def samples (fields : Object) : List LogLine :=
  Level.all.map fun level =>
    ⟨level, "event_" ++ level.name, fields.set "n" (.int 1)⟩

end LogSetup

end SearchRequest
