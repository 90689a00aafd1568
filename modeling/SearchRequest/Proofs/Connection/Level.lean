import SearchRequest.Proofs.Search.Parallel

/-!
Connections at different log levels. What is done with a connection does not depend on the level in
its settings, and a link that is no managed connection logs nothing.
-/

namespace SearchRequest

def Settings.atLevel (s : Settings) (level : LogLevel) : Settings := { s with logLevel := level }

namespace Connection

def atLevel (c : Connection) (level : LogLevel) : Connection :=
  { c with settings := c.settings.atLevel level }

variable (c : Connection) (level : LogLevel)

theorem connect_atLevel : (c.atLevel level).connect = c.connect.within (·.atLevel level) := by
  obtain ⟨settings, client, creations⟩ := c
  cases client with
  | some client => rfl
  | none =>
    unfold connect
    dsimp only [atLevel]
    cases creations.next with
    | mk creation rest => cases creation <;> rfl

theorem clientFor_atLevel (index docType : Json) :
    (c.atLevel level).clientFor index docType =
      (c.clientFor index docType).within (·.atLevel level) := by
  unfold clientFor
  rw [connect_atLevel]
  generalize c.connect = o
  obtain ⟨result, state, report⟩ := o
  cases result <;> rfl

theorem close_atLevel : (c.atLevel level).close = c.close.within (·.atLevel level) := by
  obtain ⟨settings, client, creations⟩ := c
  cases client <;> rfl

theorem receive_atLevel (server : Server) (index docType : Json) :
    (c.atLevel level).receive server index docType =
      (c.receive server index docType).within (·.atLevel level) := by
  unfold receive
  cases server.next with
  | mk reply rest =>
    cases reply with
    | failure failure => rfl
    | answer payload =>
      dsimp only
      cases hitCount payload.body <;> rfl

theorem post_atLevel (index docType body : Json) :
    (c.atLevel level).post index docType body =
      (c.post index docType body).within (·.atLevel level) := by
  unfold post
  split
  · rfl
  · rw [clientFor_atLevel]
    refine Outcome.andThen_within fun server c => ?_
    cases body.asEntries with
    | error failure => rfl
    | ok entries =>
      dsimp only
      rw [receive_atLevel]
      rfl

theorem query_atLevel (index docType body : Json) :
    (c.atLevel level).query index docType body =
      (c.query index docType body).within (·.atLevel level) := by
  unfold query
  cases body with
  | obj entries =>
    dsimp only
    rw [clientFor_atLevel]
    refine Outcome.andThen_within fun server c => ?_
    split
    · rfl
    · rw [receive_atLevel]
      rfl
  | _ => rfl

theorem search_atLevel (index docType body : Json) :
    (c.atLevel level).search index docType body =
      (c.search index docType body).within (·.atLevel level) := by
  have resolved : (c.atLevel level).resolve index = c.resolve index := rfl
  unfold search
  rw [resolved]
  cases c.resolve index with
  | error failure => rfl
  | ok index =>
    dsimp only
    split
    · exact c.post_atLevel level index docType body
    · exact c.query_atLevel level index docType body

theorem asked_atLevel : (c.atLevel level).asked = c.asked.within (·.atLevel level) := by
  unfold asked
  rw [connect_atLevel]
  exact Outcome.andThen_within fun server c => rfl

theorem ping_atLevel : (c.atLevel level).ping = c.ping.within (·.atLevel level) := by
  unfold ping
  rw [asked_atLevel]
  generalize c.asked = o
  obtain ⟨result, state, report⟩ := o
  cases result with
  | ok answered => rfl
  | error failure => cases transport : failure.isTransport <;> simp [Outcome.within, transport]

end Connection

theorem ConnectionStep.run_atLevel (t : ConnectionStep) (c : Connection) (level : LogLevel) :
    t.run (c.atLevel level) = (t.run c).within (·.atLevel level) := by
  -- Of the settings a client is given the hosts and the credentials, never the level.
  have connected : connected (c.atLevel level) = (connected c).within (·.atLevel level) := by
    unfold ConnectionStep.connected
    rw [Connection.connect_atLevel]
    exact Outcome.andThen_within fun _ _ => rfl
  have answered (value : Json) :
      answering (c.atLevel level).close value =
        (answering c.close value).within (·.atLevel level) := by
    rw [Connection.close_atLevel]
    rfl
  cases t with
  | search args =>
    simp only [run]
    cases searchSignature.bind args with
    | error failure => rfl
    | ok a => exact c.search_atLevel level _ _ _
  | ping args =>
    simp only [run]
    cases noArguments.bind args with
    | error failure => rfl
    | ok a =>
      dsimp only
      rw [Connection.ping_atLevel]
      exact Outcome.andThen_within fun _ _ => rfl
  | close args =>
    simp only [run]
    cases noArguments.bind args with
    | error failure => rfl
    | ok a => exact answered _
  | connect args =>
    simp only [run]
    cases noArguments.bind args with
    | error failure => rfl
    | ok a => exact connected
  | client => exact connected
  | scope => exact answered _
  | part => rfl
  | unknown => rfl

namespace Link

/-- The same link but for the log level in the settings of its connection. -/
inductive SameButLevel : Link → Link → Prop
  | absent : SameButLevel .absent .absent
  | direct (server : Server) (closable : Bool) :
      SameButLevel (.direct server closable) (.direct server closable)
  | managed (c : Connection) (level : LogLevel) :
      SameButLevel (.managed (c.atLevel level)) (.managed c)

theorem SameButLevel.refl (l : Link) : SameButLevel l l := by
  cases l with
  | absent => exact .absent
  | direct server closable => exact .direct server closable
  | managed c => exact .managed c c.settings.logLevel

def isManaged : Link → Bool
  | .managed _ => true
  | _ => false

theorem parallel_sameButLevel : Parallel SameButLevel fun _ => true where
  absent related := by cases related <;> rfl
  search related index docType body := by
    cases related with
    | absent => exact .fail .absent
    | direct server closable => exact ⟨rfl, .direct _ _, rfl, fun _ _ => rfl⟩
    | managed c level =>
      simp only [search, c.search_atLevel level]
      exact ⟨rfl, .managed _ level, rfl, fun _ _ => rfl⟩
  close related := by
    cases related with
    | absent => exact .succeed .absent
    | direct server closable => cases closable <;> exact ⟨rfl, .direct _ _, rfl, fun _ _ => rfl⟩
    | managed c level =>
      simp only [close, c.close_atLevel level]
      exact ⟨rfl, .managed _ level, rfl, fun _ _ => rfl⟩
  act related t := by
    cases related with
    | absent => exact .fail .absent
    | direct server closable => exact .fail (.direct _ _)
    | managed c level =>
      simp only [act, t.run_atLevel c level]
      exact ⟨rfl, .managed _ level, rfl, fun _ _ => rfl⟩
  others _ _ := rfl

theorem parallel_unmanaged :
    Parallel (fun l m => l = m ∧ l.isManaged = false) fun e => !e.ofConnection where
  absent := fun ⟨same, _⟩ => by rw [same]
  search := by
    rintro l _ ⟨rfl, other⟩ index docType body
    cases l with
    | absent => exact .fail ⟨rfl, rfl⟩
    | direct server closable => exact ⟨rfl, ⟨rfl, rfl⟩, rfl, Outcome.logs_of_none rfl⟩
    | managed c => cases other
  close := by
    rintro l _ ⟨rfl, other⟩
    cases l with
    | absent => exact .succeed ⟨rfl, rfl⟩
    | direct server closable =>
      cases closable <;> exact ⟨rfl, ⟨rfl, rfl⟩, rfl, Outcome.logs_of_none rfl⟩
    | managed c => cases other
  act := by
    rintro l _ ⟨rfl, other⟩ t
    cases l with
    | absent => exact .fail ⟨rfl, rfl⟩
    | direct server closable => exact .fail ⟨rfl, rfl⟩
    | managed c => cases other
  others e own := by rw [own]; rfl

end Link

end SearchRequest
