import SearchRequest.Connection.Step
import SearchRequest.Proofs.Connection.Exchange

/-!
The clients of a connection over time. What is recorded of them tells at each moment which client is
open: one is created when none is, every request is answered by the one that is open, and it is
closed once before another is created. A creation may fail, which opens none, and clients need not
be alike.
-/

namespace SearchRequest

structure Clients where
  client : Option Server
  creations : Creations
deriving DecidableEq, Repr

namespace Clients

/-- The clients after a request that fits them. A creation fits when none is open and it comes to
what it is recorded as. Only an open client is asked, which takes its next reply from it, or
closed. -/
def after : Clients → Request → Option Clients
  | ⟨none, creations⟩, .clientCreated _ => match creations.next with
      | (.client server, rest) => some ⟨some server, rest⟩
      | (.refused _, _) => none
  | ⟨none, creations⟩, .clientRefused _ => match creations.next with
      | (.client _, _) => none
      | (.refused _, rest) => some ⟨none, rest⟩
  | ⟨some client, creations⟩, .clientSearch ..
  | ⟨some client, creations⟩, .clientPost ..
  | ⟨some client, creations⟩, .clientPing => some ⟨some client.next.2, creations⟩
  | ⟨some _, creations⟩, .clientClose => some ⟨none, creations⟩
  | _, _ => none

def through (clients : Clients) (record : List Request) : Option Clients :=
  record.foldlM after clients

variable {clients last : Clients} {creations : Creations} {client : Server} {record : List Request}

theorem through_cons {first : Request} (fits : clients.through (first :: record) = some last) :
    ∃ between, clients.after first = some between ∧ between.through record = some last := by
  rw [through, List.foldlM_cons] at fits
  exact Option.bind_eq_some_iff.mp fits

theorem through_append {more : List Request} :
    clients.through (record ++ more) = some last ↔
      ∃ between, clients.through record = some between ∧ between.through more = some last := by
  rw [through, List.foldlM_append]
  exact Option.bind_eq_some_iff

theorem after_creation {parameters : Object}
    (fits : clients.after (.clientCreated parameters) = some last) :
    clients.client = none ∧ ∃ server, last.client = some server := by
  obtain ⟨client, creations⟩ := clients
  cases client with
  | none =>
    unfold after at fits
    dsimp only at fits
    split at fits <;> cases fits
    exact ⟨rfl, _, rfl⟩
  | some client => cases fits

theorem after_none {request : Request} (fits : after ⟨none, creations⟩ request = some last) :
    (∃ parameters, request = .clientCreated parameters) ∨
      (∃ parameters, request = .clientRefused parameters) ∧ last.client = none := by
  cases request with
  | clientCreated parameters => exact .inl ⟨parameters, rfl⟩
  | clientRefused parameters =>
    unfold after at fits
    dsimp only at fits
    split at fits <;> cases fits
    exact .inr ⟨⟨parameters, rfl⟩, rfl⟩
  | _ => cases fits

theorem isCreation_of_none {request : Request}
    (fits : after ⟨none, creations⟩ request = some last) : request.IsCreation := by
  rcases after_none fits with ⟨parameters, rfl⟩ | ⟨⟨parameters, rfl⟩, _⟩ <;> trivial

theorem count_close_of_none (fits : through ⟨none, creations⟩ record = some last)
    (single : ∀ parameters, .clientCreated parameters ∉ record) :
    record.count .clientClose = 0 := by
  induction record generalizing creations with
  | nil => rfl
  | cons request rest ih =>
    obtain ⟨⟨client, between⟩, after, onward⟩ := through_cons fits
    rcases after_none after with ⟨parameters, rfl⟩ | ⟨⟨parameters, rfl⟩, none⟩
    · exact absurd List.mem_cons_self (single parameters)
    · subst none
      refine (List.count_cons_of_ne (by simp)).trans (ih onward fun other listed => ?_)
      exact single other (List.mem_cons_of_mem _ listed)

/-- A client that is open first and not in the end was closed once when none was created since. -/
theorem count_close (fits : through ⟨some client, creations⟩ record = some last)
    (closed : last.client = none) (single : ∀ parameters, .clientCreated parameters ∉ record) :
    record.count .clientClose = 1 := by
  -- By the requests one after the other, as long as a client is there: the first close leaves none,
  -- and only a creation, of which there is none left, could bring one back.
  induction record generalizing client with
  | nil =>
    cases fits
    cases closed
  | cons request rest ih =>
    have others (parameters : Object) : .clientCreated parameters ∉ rest :=
      fun listed => single parameters (List.mem_cons_of_mem _ listed)
    obtain ⟨between, after, onward⟩ := through_cons fits
    cases request with
    | clientClose =>
      cases after
      rw [List.count_cons_self, count_close_of_none onward others]
    | search index docType body => cases after
    | close => cases after
    | clientCreated parameters => cases after
    | clientRefused parameters => cases after
    | _ =>
      cases after
      exact (List.count_cons_of_ne (by simp)).trans (ih onward others)

theorem count_close_between {before between after : List Request} {first second : Object}
    (fits : clients.through
      (before ++ .clientCreated first :: (between ++ .clientCreated second :: after)) = some last)
    (single : ∀ parameters, .clientCreated parameters ∉ between) :
    between.count .clientClose = 1 := by
  obtain ⟨_, _, onward⟩ := through_append.mp fits
  obtain ⟨⟨client, creations⟩, created, onward⟩ := through_cons onward
  obtain ⟨_, server, opened⟩ := after_creation created
  subst opened
  obtain ⟨_, used, onward⟩ := through_append.mp onward
  obtain ⟨_, again, _⟩ := through_cons onward
  exact count_close used (after_creation again).1 single

end Clients

def Connection.clients (c : Connection) : Clients := ⟨c.client, c.creations⟩

/-- The requests of an outcome fit the clients before it, and tell what they are after it. -/
def Outcome.Lives {α : Type} (o : Outcome Connection α) (c : Connection) : Prop :=
  c.clients.through o.report.requests = some o.state.clients

namespace Outcome

variable {α β : Type} {c : Connection}

theorem lives_of_silent {o : Outcome Connection α} (silent : o.report.requests = [])
    (same : o.state = c) : o.Lives c := by
  rw [Lives, silent, same]
  rfl

theorem Lives.congr {o : Outcome Connection α} {p : Outcome Connection β} (lives : o.Lives c)
    (requests : p.report.requests = o.report.requests) (state : p.state = o.state) : p.Lives c := by
  rw [Lives, requests, state]
  exact lives

theorem Lives.andThen {o : Outcome Connection α} {next : α → Connection → Outcome Connection β}
    (first : o.Lives c)
    (onward : ∀ value, o.result = .ok value → (next value o.state).Lives o.state) :
    (o.andThen next).Lives c := by
  cases result : o.result with
  | error failure =>
    rw [andThen_of_error result]
    exact first
  | ok value =>
    rw [andThen_of_ok result]
    exact Clients.through_append.mpr ⟨_, first, onward value result⟩

end Outcome

namespace Connection

variable (c : Connection)

theorem connect_lives : c.connect.Lives c := by
  rcases c.connect_cases with ⟨server, _, same⟩ | ⟨server, rest, none, given, same⟩ |
    ⟨failure, rest, none, given, same⟩
  · rw [same]
    exact Outcome.lives_of_silent rfl rfl
  · rw [same, Outcome.Lives, clients, none]
    change (Clients.after ⟨Option.none, c.creations⟩ (.clientCreated _)).bind _ = _
    rw [Clients.after, given]
    rfl
  · rw [same, Outcome.Lives, clients, none]
    change (Clients.after ⟨Option.none, c.creations⟩ (.clientRefused _)).bind _ = _
    rw [Clients.after, given]
    rfl

theorem clientFor_lives (index docType : Json) : (c.clientFor index docType).Lives c :=
  c.connect_lives.congr (c.clientFor_eq index docType).2.2 (c.clientFor_eq index docType).2.1

theorem client_of_connect {server : Server} (opened : c.connect.result = .ok server) :
    c.connect.state.client = some server := by
  rcases c.connect_cases with ⟨_, given, same⟩ | ⟨_, _, _, _, same⟩ | ⟨_, _, _, _, same⟩ <;>
    rw [same] at opened ⊢ <;> cases opened
  · exact given
  · rfl

theorem client_of_refused {failure : Failure} (refused : c.connect.result = .error failure) :
    c.connect.state.client = none := by
  rcases c.connect_cases with ⟨_, _, same⟩ | ⟨_, _, _, _, same⟩ | ⟨_, _, none, _, same⟩ <;>
    rw [same] at refused ⊢ <;> cases refused
  exact none

theorem lives_with_client {α : Type} {o : Outcome Connection Server} (lives : o.Lives c)
    (opens : ∀ server, o.result = .ok server → o.state.client = some server)
    {next : Server → Connection → Outcome Connection α}
    (onward : ∀ (server : Server) (open_ : Connection), open_.client = some server →
      (next server open_).Lives open_) : (o.andThen next).Lives c :=
  lives.andThen fun server opened => onward server _ (opens server opened)

theorem lives_for_search {α : Type} (index docType : Json)
    {next : Server → Connection → Outcome Connection α}
    (onward : ∀ (server : Server) (open_ : Connection), open_.client = some server →
      (next server open_).Lives open_) : ((c.clientFor index docType).andThen next).Lives c := by
  obtain ⟨result, state, _⟩ := c.clientFor_eq index docType
  refine c.lives_with_client (c.clientFor_lives index docType) (fun server opened => ?_) onward
  rw [state]
  exact c.client_of_connect (result.symm.trans opened)

theorem receive_state (server : Server) (index docType : Json) :
    (c.receive server index docType).state = { c with client := some server.next.2 } := by
  unfold receive
  dsimp only
  split
  · rfl
  · split <;> rfl

theorem lives_received {server : Server} (open_ : c.client = some server) (index docType : Json)
    {request : Request} (asks : Clients.after ⟨some server, c.creations⟩ request =
      some ⟨some server.next.2, c.creations⟩) :
    ((c.receive server index docType).noting (.ofRequest request)).Lives c := by
  have state : ((c.receive server index docType).noting (.ofRequest request)).state =
      { c with client := some server.next.2 } := c.receive_state server index docType
  rw [Outcome.Lives, state, clients, open_]
  change Clients.through _ (request :: (c.receive server index docType).report.requests) = _
  rw [requests_receive]
  exact Option.bind_eq_some_iff.mpr ⟨_, asks, rfl⟩

theorem post_lives (index docType body : Json) : (c.post index docType body).Lives c := by
  unfold post
  split
  · exact Outcome.lives_of_silent rfl rfl
  · refine c.lives_for_search index docType fun server c open_ => ?_
    split
    · exact Outcome.lives_of_silent rfl rfl
    · exact c.lives_received open_ index docType rfl

theorem query_lives (index docType body : Json) : (c.query index docType body).Lives c := by
  unfold query
  split
  · refine c.lives_for_search index docType fun server c open_ => ?_
    split
    · exact Outcome.lives_of_silent rfl rfl
    · exact c.lives_received open_ index docType rfl
  · exact Outcome.lives_of_silent rfl rfl

theorem search_lives (index docType body : Json) : (c.search index docType body).Lives c := by
  unfold search
  split
  · exact Outcome.lives_of_silent rfl rfl
  · split
    · exact c.post_lives _ docType body
    · exact c.query_lives _ docType body

theorem asked_lives : c.asked.Lives c := by
  refine c.lives_with_client c.connect_lives (fun _ => c.client_of_connect) fun server c open_ => ?_
  rw [Outcome.Lives, clients, open_]
  rfl

theorem ping_eq :
    c.ping.state = c.asked.state ∧ c.ping.report.requests = c.asked.report.requests := by
  unfold ping
  dsimp only
  split
  · exact ⟨rfl, rfl⟩
  · split
    · exact ⟨rfl, List.append_nil _⟩
    · exact ⟨rfl, rfl⟩

theorem ping_lives : c.ping.Lives c := c.asked_lives.congr c.ping_eq.2 c.ping_eq.1

theorem close_lives : c.close.Lives c := by
  unfold close
  split
  · exact Outcome.lives_of_silent rfl rfl
  · rename_i open_
    rw [Outcome.Lives, clients, open_]
    rfl

theorem search_cases (index docType body : Json) :
    (∃ target next, c.search index docType body = (c.clientFor target docType).andThen next) ∨
      (c.search index docType body).report.requests = [] := by
  unfold search
  split
  · exact .inr rfl
  · split
    · unfold post
      split
      · exact .inr rfl
      · exact .inl ⟨_, _, rfl⟩
    · unfold query
      split
      · exact .inl ⟨_, _, rfl⟩
      · exact .inr rfl

theorem search_of_refused {c : Connection} {failure : Failure}
    (refused : c.connect.result = .error failure) {index docType body : Json}
    (tried : (c.search index docType body).report.requests ≠ []) :
    (c.search index docType body).result = .error failure ∧
      (c.search index docType body).state = c.connect.state := by
  rcases c.search_cases index docType body with ⟨target, next, same⟩ | silent
  · obtain ⟨result, state, _⟩ := c.clientFor_eq target docType
    rw [same, Outcome.andThen_of_error (result.trans refused)]
    exact ⟨rfl, state⟩
  · exact absurd silent tried

theorem exchanged_of_failure {c : Connection} {server : Server} {failure : Failure}
    (opened : c.connect.result = .ok server) (failed : server.next.1 = .failure failure)
    (index docType : Json) (sent : Request) :
    (c.exchanged index docType sent).result = .error failure ∧
      (c.exchanged index docType sent).state =
        { c.connect.state with client := some server.next.2 } := by
  obtain ⟨result, state, _⟩ := exchanged_of_ok opened index docType sent
  rw [result, state]
  simp only [Outcome.noting, receive, failed, and_self]

theorem search_of_failure {c : Connection} {server : Server} {failure : Failure}
    (opened : c.connect.result = .ok server) (failed : server.next.1 = .failure failure)
    {index docType body : Json}
    (reached : ∃ request ∈ (c.search index docType body).report.requests, ¬ request.IsCreation) :
    (c.search index docType body).result = .error failure ∧
      (c.search index docType body).state =
        { c.connect.state with client := some server.next.2 } := by
  obtain ⟨request, sent, other⟩ := reached
  obtain ⟨target, asked, same⟩ | created := exchanges_search c index docType body
  · rw [same]
    exact exchanged_of_failure opened failed target docType asked
  · exact absurd (created request sent) other

theorem ping_of_transport {c : Connection} {failure : Failure}
    (failed : c.asked.result = .error failure) (transport : failure.isTransport = true) :
    c.ping.result = .ok false := by
  unfold ping
  dsimp only
  split
  · rename_i same
    rw [failed] at same
    cases same
  · rename_i same
    rw [failed] at same
    cases same
    rw [if_pos transport]

theorem asked_of_failure {c : Connection} {server : Server} {failure : Failure}
    (opened : c.connect.result = .ok server) (failed : server.next.1 = .failure failure) :
    c.asked.result = .error failure ∧
      c.asked.state = { c.connect.state with client := some server.next.2 } := by
  rw [asked, Outcome.andThen_of_ok opened]
  simp only [failed, and_self]

theorem asked_of_refused {c : Connection} {failure : Failure}
    (refused : c.connect.result = .error failure) :
    c.asked.result = .error failure ∧ c.asked.state = c.connect.state := by
  rw [asked, Outcome.andThen_of_error refused]
  exact ⟨rfl, rfl⟩

theorem search_of_type_alone (c : Connection) {index docType : Json} (typed : docType.truthy = true)
    (nameless : index.truthy = false) (body : Json) :
    c.search index docType body = .fail c (.argument .typeWithoutIndex) := by
  simp only [search, resolve, post, typed, nameless, Bool.not_false, Bool.true_or, if_true]

end Connection

namespace ConnectionStep

theorem run_lives (step : ConnectionStep) (c : Connection) : (step.run c).Lives c := by
  have connected : (connected c).Lives c :=
    c.connect_lives.andThen fun _ _ => Outcome.lives_of_silent rfl rfl
  have closing (value : Json) : (answering c.close value).Lives c := c.close_lives
  cases step with
  | search args =>
    simp only [run]
    split
    · exact Outcome.lives_of_silent rfl rfl
    · exact c.search_lives _ _ _
  | ping args =>
    simp only [run]
    split
    · exact Outcome.lives_of_silent rfl rfl
    · exact c.ping_lives.andThen fun _ _ => Outcome.lives_of_silent rfl rfl
  | close args =>
    simp only [run]
    split
    · exact Outcome.lives_of_silent rfl rfl
    · exact closing .null
  | connect args =>
    simp only [run]
    split
    · exact Outcome.lives_of_silent rfl rfl
    · exact connected
  | client => exact connected
  | scope => exact closing (.bool true)
  | part => exact Outcome.lives_of_silent rfl rfl
  | unknown => exact Outcome.lives_of_silent rfl rfl

theorem each_lives (steps : List ConnectionStep) (c : Connection) :
    c.clients.through ((Outcome.each run steps c).flatMap (·.report.requests)) =
      some (Outcome.last (Outcome.each run steps c) c).clients := by
  induction steps generalizing c with
  | nil => rfl
  | cons step rest ih =>
    rw [Outcome.last_each_cons, Outcome.each, List.flatMap_cons]
    exact Clients.through_append.mpr ⟨_, step.run_lives c, ih (step.run c).state⟩

end ConnectionStep

namespace Connection

/-- What comes of a client that cannot be created, and of a request that fails on its way. Neither
opens, closes or replaces a client; a search hands the failure on, and a ping only comes to nothing
when it is one of the transport. -/
structure Relays (c : Connection) : Prop where
  refused : ∀ failure, c.connect.result = .error failure →
    c.connect.state.client = none ∧
    (∀ index docType body : Json, (c.search index docType body).report.requests ≠ [] →
      (c.search index docType body).result = .error failure ∧
        (c.search index docType body).state = c.connect.state) ∧
    (failure.isTransport = true → c.ping.result = .ok false ∧ c.ping.state = c.connect.state)
  failed : ∀ server failure, c.connect.result = .ok server →
    server.next.1 = .failure failure →
    (∀ index docType body : Json,
      (∃ request ∈ (c.search index docType body).report.requests, ¬ request.IsCreation) →
        (c.search index docType body).result = .error failure ∧
          (c.search index docType body).state =
            { c.connect.state with client := some server.next.2 }) ∧
    (failure.isTransport = true → c.ping.result = .ok false ∧
      c.ping.state = { c.connect.state with client := some server.next.2 })

theorem relays (c : Connection) : c.Relays where
  refused failure refused := by
    obtain ⟨result, state⟩ := asked_of_refused refused
    exact ⟨c.client_of_refused refused, fun _ _ _ => search_of_refused refused,
      fun transport => ⟨ping_of_transport result transport, c.ping_eq.1.trans state⟩⟩
  failed server failure opened failed := by
    obtain ⟨result, state⟩ := asked_of_failure opened failed
    exact ⟨fun _ _ _ => search_of_failure opened failed,
      fun transport => ⟨ping_of_transport result transport, c.ping_eq.1.trans state⟩⟩

/-- Whatever comes of creating clients, over any run each client is created when none is open, asked
while it is open and closed once before the next one is created, and a connection without a client
records nothing before one is to be created. Closing again records nothing. Failures change nothing
of this. A document type without an index asks for no client at all. -/
theorem client_lifecycle (c : Connection) :
    (∀ steps : List ConnectionStep,
      let outcomes := Outcome.each ConnectionStep.run steps c
      let record := outcomes.flatMap (·.report.requests)
      c.clients.through record = some (Outcome.last outcomes c).clients ∧
        (c.client = none → ∀ first ∈ record.head?, first.IsCreation) ∧
        ∀ (before between after : List Request) (first second : Object),
          record = before ++ .clientCreated first :: (between ++ .clientCreated second :: after) →
            (∀ parameters, .clientCreated parameters ∉ between) →
              between.count .clientClose = 1) ∧
    ((Outcome.each ConnectionStep.run [.close [], .close []] c).flatMap (·.report.requests) =
      if c.client.isSome then [.clientClose] else []) ∧
    c.Relays ∧
    ∀ index docType body : Json, docType.truthy = true → index.truthy = false →
      c.search index docType body = .fail c (.argument .typeWithoutIndex) := by
  refine ⟨fun steps => ?_, ?_, c.relays, ?_⟩
  · have fits := ConnectionStep.each_lives steps c
    refine ⟨fits, fun without first begins => ?_, fun before between after first second same => ?_⟩
    -- Without a client the first request can only be for one.
    · obtain ⟨rest, same⟩ := List.head?_eq_some_iff.mp begins
      rw [clients, without, same] at fits
      obtain ⟨_, created, _⟩ := Clients.through_cons fits
      exact Clients.isCreation_of_none created
    · rw [same] at fits
      exact Clients.count_close_between fits
  · obtain ⟨settings, client, creations⟩ := c
    cases client <;> rfl
  · exact fun index docType body typed nameless => c.search_of_type_alone typed nameless body

def faltering : Connection :=
  { Link.tenantConnection "acme" with
    client := none
    creations := ⟨[.refused (.foreign "no such host"),
      .client ⟨[.failure (.transport .timeout "timed out")]⟩, .client ⟨[]⟩]⟩ }

theorem client_lifecycle_faltering :
    let search : ConnectionStep :=
      .search [("index", .str "orders"), ("doc_type", .null), ("body", .obj [])]
    let record := (Outcome.each ConnectionStep.run [search, search, .close [], .ping []]
      faltering).flatMap (·.report.requests)
    let parameters := clientParameters faltering.settings
    let asked := Request.clientSearch (.str "acme_orders") []
    (record = [.clientRefused parameters, .clientCreated parameters, asked, .clientClose,
        .clientCreated parameters, .clientPing] ∧ [asked, .clientClose].count .clientClose = 1) ∧
    (faltering.search (.str "orders") .null (.obj [])).result = .error (.foreign "no such host") ∧
    (faltering.connect.state.search (.str "orders") .null (.obj [])).result =
      .error (.transport .timeout "timed out") ∧
    faltering.connect.state.ping.result = .ok false ∧
    faltering.search .null (.str "doc") (.obj []) =
      .fail faltering (.argument .typeWithoutIndex) := by
  obtain ⟨runs, _, relays, typed⟩ := client_lifecycle faltering
  obtain ⟨_, _, between⟩ := runs [.search [("index", .str "orders"), ("doc_type", .null),
    ("body", .obj [])], .search [("index", .str "orders"), ("doc_type", .null),
    ("body", .obj [])], .close [], .ping []]
  obtain ⟨_, _, later, _⟩ := client_lifecycle faltering.connect.state
  obtain ⟨_, searching, _⟩ := relays.refused _ rfl
  obtain ⟨failing, pinging⟩ := later.failed _ _ rfl rfl
  refine ⟨⟨rfl, ?_⟩, (searching _ _ _ ?_).1, (failing _ _ _ ?_).1, (pinging rfl).1,
    typed .null (.str "doc") (.obj []) rfl rfl⟩
  · refine between [.clientRefused _] [.clientSearch (.str "acme_orders") [], .clientClose]
      [.clientPing] _ _ rfl fun parameters listed => ?_
    simp at listed
  · exact List.cons_ne_nil _ _
  · exact ⟨.clientSearch (.str "acme_orders") [], List.mem_cons_of_mem _ List.mem_cons_self, id⟩

end Connection

end SearchRequest
