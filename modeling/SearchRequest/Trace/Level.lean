import SearchRequest.Json.Shape

/-!
Levels of log events, and the threshold below which events are dropped.
-/

namespace SearchRequest

inductive Level
  | debug
  | info
  | warning
  | error
  | critical
deriving DecidableEq, Repr

namespace Level

def name : Level → String
  | .debug => "debug"
  | .info => "info"
  | .warning => "warning"
  | .error => "error"
  | .critical => "critical"

def rank : Level → Nat
  | .debug => 10
  | .info => 20
  | .warning => 30
  | .error => 40
  | .critical => 50

def all : List Level := [.debug, .info, .warning, .error, .critical]

end Level

inductive Threshold
  | everything
  | atLeast (level : Level)
deriving DecidableEq, Repr

namespace Threshold

def rank : Threshold → Nat
  | .everything => 0
  | .atLeast level => level.rank

def lets (t : Threshold) (level : Level) : Bool := decide (t.rank ≤ level.rank)

def all : List Threshold := .everything :: Level.all.map .atLeast

def names : List (String × Threshold) :=
  [("notset", .everything), ("debug", .atLeast .debug), ("info", .atLeast .info),
   ("warning", .atLeast .warning), ("warn", .atLeast .warning), ("error", .atLeast .error),
   ("exception", .atLeast .error), ("critical", .atLeast .critical)]

end Threshold

end SearchRequest
