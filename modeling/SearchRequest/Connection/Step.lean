import SearchRequest.Call
import SearchRequest.Connection.Basic

/-!
Steps on a connection, and what each of them answers.
-/

namespace SearchRequest

inductive ConnectionStep
  | search (args : Object)
  | ping (args : Object)
  | close (args : Object)
  | connect (args : Object)
  | client
  /-- Enters the connection's scope and leaves it again, which closes it. -/
  | scope
  | part
  | unknown
deriving DecidableEq, Repr

namespace ConnectionStep

def searchSignature : Signature :=
  .closed [.required "index", .required "doc_type", .required "body"]

def ofCall (c : Call) : ConnectionStep :=
  match c.name with
  | "search" => .search c.args
  | "ping" => .ping c.args
  | "close" => .close c.args
  | "connect" => .connect c.args
  | "client" => .client
  | "with" => .scope
  | "settings" | "index_prefix" => .part
  | _ => .unknown

def answering (o : Outcome Connection Unit) (value : Json) : Outcome Connection Json :=
  ⟨o.result.map fun _ => value, o.state, o.report⟩

def connected (c : Connection) : Outcome Connection Json :=
  c.connect.andThen fun _ c => .succeed c (.bool true)

def run (step : ConnectionStep) (c : Connection) : Outcome Connection Json :=
  match step with
  | .search args => match searchSignature.bind args with
      | .error failure => .fail c failure
      | .ok a => c.search (a.field "index") (a.field "doc_type") (a.field "body")
  | .ping args => match noArguments.bind args with
      | .error failure => .fail c failure
      | .ok _ => c.ping.andThen fun answered c => .succeed c (.bool answered)
  | .close args => match noArguments.bind args with
      | .error failure => .fail c failure
      | .ok _ => answering c.close .null
  | .connect args => match noArguments.bind args with
      | .error failure => .fail c failure
      | .ok _ => connected c
  | .client => connected c
  | .scope => answering c.close (.bool true)
  | .part => .fail c .wrongKind
  | .unknown => .fail c .noOperation

end ConnectionStep

end SearchRequest
