import SearchRequest.Json.Basic
import SearchRequest.Kind
import SearchRequest.Trace.Level

/-!
What is logged: the events of searches and connections, and the line that each is written as.
-/

namespace SearchRequest

structure LogLine where
  level : Level
  event : String
  fields : Object
deriving DecidableEq, Repr

inductive Event
  | aggregationOverridden (name : String) (previous current : AggregationKind)
  | functionScoreWithoutFunctions
  | searchExecuted (index : Option String) (totalHits hits : Nat)
  | pageRead (page limit total : Nat)
  /-- The number of hits is not known when the answer is not an object with hits. -/
  | searchAnswered (index : Json) (hits : Option Nat)
  | searchFailed (index docType : Json) (error : String)
  | pingFailed (error : String)
  | clientCreated (hosts : List String) (maxRetries : Nat)
  | clientClosed
deriving DecidableEq, Repr

namespace Event

def level : Event → Level
  | .searchFailed .. => .error
  | .pingFailed _ => .warning
  | .clientCreated .. | .clientClosed => .info
  | _ => .debug

def name : Event → String
  | .aggregationOverridden .. => "aggregation_overridden"
  | .functionScoreWithoutFunctions => "function_score_without_functions"
  | .searchExecuted .. => "search_builder_executed"
  | .pageRead .. => "paginate_executed"
  | .searchAnswered .. => "search_executed"
  | .searchFailed .. => "elasticsearch_search_failed"
  | .pingFailed _ => "elasticsearch_ping_failed"
  | .clientCreated .. => "elasticsearch_client_created"
  | .clientClosed => "elasticsearch_closed"

def fields : Event → Object
  | .aggregationOverridden name previous current =>
      [("alias", .str name), ("previous", .str previous.name), ("current", .str current.name)]
  | .searchExecuted index totalHits hits =>
      [("index", .ofText? index), ("total_hits", .int totalHits), ("hits", .int hits)]
  | .pageRead page limit total =>
      [("page", .int page), ("limit", .int limit), ("total", .int total)]
  | .searchAnswered index hits => [("index", index), ("hits", .ofCount? hits)]
  | .searchFailed index docType error =>
      [("index", index), ("doc_type", docType), ("error", .str error)]
  | .pingFailed error => [("error", .str error)]
  | .clientCreated hosts maxRetries =>
      [("hosts", .strings hosts), ("max_retries", .int maxRetries)]
  | .functionScoreWithoutFunctions | .clientClosed => []

def line (e : Event) : LogLine := ⟨e.level, e.name, e.fields⟩

end Event

end SearchRequest
