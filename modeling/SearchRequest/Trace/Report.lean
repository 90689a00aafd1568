import SearchRequest.Failure
import SearchRequest.Trace.Event

/-!
What operations leave behind besides their answer: log events, requests that were sent, and
snapshots that were asked for. An operation that fails still has its state and its report.
-/

namespace SearchRequest

inductive Request
  | search (index docType : Option String) (body : Object)
  | close
  | clientCreated (parameters : Object)
  /-- A client that was to be created with the parameters, and could not be. -/
  | clientRefused (parameters : Object)
  | clientSearch (index : Json) (parameters : Object)
  | clientPost (path : String) (body : Object)
  | clientPing
  | clientClose
deriving DecidableEq, Repr

inductive Snapshot
  | search (role : Role) (index docType : Option String) (body : Except Failure Object)
  | aggregations (aliases : List String) (body : Except Failure Object)
  | scoring (functions : Except Failure (List Json)) (query : Except Failure Json)

structure Report where
  events : List Event
  requests : List Request
  snapshots : List Snapshot

namespace Report

def empty : Report := ⟨[], [], []⟩

def append (a b : Report) : Report :=
  ⟨a.events ++ b.events, a.requests ++ b.requests, a.snapshots ++ b.snapshots⟩

instance : Append Report := ⟨append⟩

def ofEvent (e : Event) : Report := ⟨[e], [], []⟩

def ofRequest (r : Request) : Report := ⟨[], [r], []⟩

def ofSnapshot (s : Snapshot) : Report := ⟨[], [], [s]⟩

def above (threshold : Threshold) (r : Report) : Report :=
  { r with events := r.events.filter fun e => threshold.lets e.level }

end Report

structure Outcome (σ α : Type) where
  result : Except Failure α
  state : σ
  report : Report

namespace Outcome

variable {σ α β : Type}

def succeed (state : σ) (value : α) : Outcome σ α := ⟨.ok value, state, .empty⟩

def fail (state : σ) (failure : Failure) : Outcome σ α := ⟨.error failure, state, .empty⟩

def ofExcept (state : σ) (result : Except Failure α) : Outcome σ α :=
  ⟨result, state, .empty⟩

def andThen (o : Outcome σ α) (next : α → σ → Outcome σ β) : Outcome σ β :=
  match o.result with
  | .error failure => ⟨.error failure, o.state, o.report⟩
  | .ok value =>
      let n := next value o.state
      ⟨n.result, n.state, o.report ++ n.report⟩

def within {τ : Type} (o : Outcome σ α) (embed : σ → τ) : Outcome τ α :=
  ⟨o.result, embed o.state, o.report⟩

/-- Each step runs on what the one before has left, whether that one succeeded or failed. -/
def each {τ : Type} (run : τ → σ → Outcome σ α) : List τ → σ → List (Outcome σ α)
  | [], _ => []
  | step :: rest, state =>
      let o := run step state
      o :: each run rest o.state

def last (outcomes : List (Outcome σ α)) (start : σ) : σ :=
  match outcomes.getLast? with
  | some o => o.state
  | none => start

def noting (o : Outcome σ α) (earlier : Report) : Outcome σ α :=
  { o with report := earlier ++ o.report }

end Outcome

end SearchRequest
