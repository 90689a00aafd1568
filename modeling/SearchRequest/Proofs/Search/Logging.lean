import SearchRequest.Proofs.Outcome
import SearchRequest.Search.Step

/-!
What is logged on the way to an answer. Whichever way a search is sent, the events are those of the
connection it is sent over and those that tell of an answer that was read.
-/

namespace SearchRequest

namespace Event

def ofConnection : Event → Bool
  | .searchAnswered .. | .searchFailed .. | .pingFailed _ | .clientCreated ..
  | .clientClosed => true
  | _ => false

/-- An event of an answer that was asked for: of the connection that gave it, or of reading it. -/
def ofAnswer : Event → Bool
  | .searchExecuted .. | .pageRead .. => true
  | e => e.ofConnection

theorem ofAnswer_of_connection {e : Event} (own : e.ofConnection = true) : e.ofAnswer = true := by
  cases e <;> first | rfl | cases own

end Event

def Outcome.Logs {σ α : Type} (o : Outcome σ α) (E : Event → Bool) : Prop :=
  ∀ e ∈ o.report.events, E e = true

namespace Outcome

variable {σ τ α β : Type} {E F : Event → Bool} {o : Outcome σ α}

theorem Logs.mono (logs : o.Logs E) (implies : ∀ e, E e = true → F e = true) : o.Logs F :=
  fun e listed => implies e (logs e listed)

theorem logs_of_none (none : o.report.events = []) : o.Logs E := by
  intro e listed
  rw [none] at listed
  cases listed

theorem logs_of_single {e : Event} (single : o.report.events = [e]) (holds : E e = true) :
    o.Logs E := by
  intro other listed
  rw [single] at listed
  rwa [List.mem_singleton.mp listed]

theorem Logs.andThen (first : o.Logs E) {next : α → σ → Outcome σ β}
    (onward : ∀ value state, (next value state).Logs E) : (o.andThen next).Logs E := by
  intro e listed
  cases result : o.result with
  | error failure =>
    rw [andThen_of_error result] at listed
    exact first e listed
  | ok value =>
    rw [andThen_of_ok result] at listed
    exact (List.mem_append.mp listed).elim (first e) (onward value o.state e)

theorem Logs.within (logs : o.Logs E) (embed : σ → τ) : (o.within embed).Logs E := logs

theorem Logs.noting_request (logs : o.Logs E) (sent : Request) :
    (o.noting (.ofRequest sent)).Logs E := logs

end Outcome

namespace Connection

variable (c : Connection)

theorem connect_logs : c.connect.Logs Event.ofConnection := by
  unfold connect
  split
  · exact Outcome.logs_of_none rfl
  · split
    · exact Outcome.logs_of_single rfl rfl
    · exact Outcome.logs_of_none rfl

theorem events_searchFailure (index docType : Json) (failure : Failure) :
    ∀ e ∈ (searchFailure index docType failure).events, e.ofConnection = true := by
  unfold searchFailure
  split
  · exact List.forall_mem_singleton.mpr rfl
  · exact List.forall_mem_nil _

theorem clientFor_logs (index docType : Json) :
    (c.clientFor index docType).Logs Event.ofConnection := by
  unfold clientFor
  dsimp only
  split
  · exact c.connect_logs
  · exact List.forall_mem_append.mpr ⟨c.connect_logs, events_searchFailure index docType _⟩

theorem receive_logs (server : Server) (index docType : Json) :
    (c.receive server index docType).Logs Event.ofConnection := by
  unfold receive
  dsimp only
  split
  · exact events_searchFailure index docType _
  · split
    · exact Outcome.logs_of_none rfl
    · exact Outcome.logs_of_single rfl rfl

theorem post_logs (index docType body : Json) :
    (c.post index docType body).Logs Event.ofConnection := by
  unfold post
  split
  · exact Outcome.logs_of_none rfl
  · refine (c.clientFor_logs index docType).andThen fun server c => ?_
    split
    · exact Outcome.logs_of_none rfl
    · exact (c.receive_logs server index docType).noting_request _

theorem query_logs (index docType body : Json) :
    (c.query index docType body).Logs Event.ofConnection := by
  unfold query
  split
  · refine (c.clientFor_logs index docType).andThen fun server c => ?_
    split
    · exact Outcome.logs_of_none rfl
    · exact (c.receive_logs server index docType).noting_request _
  · exact Outcome.logs_of_none rfl

theorem search_logs (index docType body : Json) :
    (c.search index docType body).Logs Event.ofConnection := by
  unfold search
  split
  · exact Outcome.logs_of_none rfl
  · split
    · exact c.post_logs _ docType body
    · exact c.query_logs _ docType body

end Connection

theorem Link.search_logs (l : Link) (index docType : Option String) (body : Object) :
    (l.search index docType body).Logs Event.ofConnection := by
  cases l with
  | absent => exact Outcome.logs_of_none rfl
  | direct server closable => exact Outcome.logs_of_none rfl
  | managed c => exact c.search_logs (.ofText? index) (.ofText? docType) (.obj body)

namespace Search

theorem send_logs (s : Search) (w : World) : (s.send w).Logs Event.ofConnection := by
  unfold send
  split
  · exact Outcome.logs_of_none rfl
  · split
    · exact Outcome.logs_of_none rfl
    · exact (w.link.search_logs s.index s.docType _).within w.withLink

theorem execute_logs (s : Search) (w : World) : (s.execute w).Logs Event.ofAnswer := by
  refine ((s.send_logs w).mono fun _ => Event.ofAnswer_of_connection).andThen fun payload w => ?_
  split
  · exact Outcome.logs_of_none rfl
  · exact Outcome.logs_of_single rfl rfl

theorem paginate_logs (s : Search) (w : World) (limit number : Json) :
    (s.paginate w limit number).Logs Event.ofAnswer := by
  unfold paginate
  split
  · exact Outcome.logs_of_none rfl
  · rename_i page after _
    exact (((s.onPage page).execute_logs after).within _).andThen fun _ _ =>
      Outcome.logs_of_single rfl rfl

end Search

namespace SearchStep

def isComposite : SearchStep → Bool
  | .nested .. | .functions .. => true
  | _ => false

theorem changed_logs (w : World) (s : Search) (attempt : Except Failure Change) :
    (changed w s attempt).Logs Event.ofAnswer := by
  cases attempt <;> exact Outcome.logs_of_none rfl

theorem logs_of_simple {step : SearchStep} (simple : step.isComposite = false)
    (other : ∀ args build, step ≠ .aggregate args build) (w : World) (s : Search) :
    (step.run w s).Logs Event.ofAnswer := by
  cases step with
  | edit e args => exact changed_logs w s _
  | leaf kind args => exact changed_logs w s _
  | append spec => exact changed_logs w s _
  | nested args build => cases simple
  | functions args build score => cases simple
  | aggregate args build => exact absurd rfl (other args build)
  | view part args => exact Outcome.logs_of_none rfl
  | fetch args =>
    simp only [run, fetched]
    split
    · exact Outcome.logs_of_none rfl
    · have sent := (s.send_logs w).mono fun _ => Event.ofAnswer_of_connection
      exact (sent.within _).andThen fun _ _ => Outcome.logs_of_none rfl
  | execute args =>
    simp only [run, executed]
    split
    · exact Outcome.logs_of_none rfl
    · exact ((s.execute_logs w).within _).andThen fun _ _ => Outcome.logs_of_none rfl
  | paginate args =>
    simp only [run, paginated]
    split
    · exact Outcome.logs_of_none rfl
    · exact (s.paginate_logs w _ _).andThen fun _ _ => Outcome.logs_of_none rfl
  | observe => exact Outcome.logs_of_none rfl
  | part => exact Outcome.logs_of_none rfl
  | unknown => exact Outcome.logs_of_none rfl

end SearchStep

end SearchRequest
