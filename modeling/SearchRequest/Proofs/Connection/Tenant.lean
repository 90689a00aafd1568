import SearchRequest.Connection.Link
import SearchRequest.Proofs.Outcome
import SearchRequest.Proofs.Text.Pieces
import SearchRequest.Search.Edit

/-!
Searches under a tenant. The name of an index is put under the tenant as one text, so of a list of
names the first one is; a search without an index is not put under any.
-/

namespace SearchRequest

namespace Tenant

def names (target : String) : List (List Char) := Text.pieces ',' target.toList

def Owns (tenant : String) (name : List Char) : Prop := (tenant ++ "_").toList <+: name

instance (tenant : String) (name : List Char) : Decidable (Owns tenant name) :=
  inferInstanceAs (Decidable (_ <+: _))

def Confines (tenant : String) (target : Json) : Prop :=
  ∃ text, target = .str text ∧ ∀ name ∈ names text, Owns tenant name

/-- The name is the tenant's if it begins like the tenant at all. -/
def Clear (tenant name : String) : Prop :=
  tenant.toList <+: name.toList → Owns tenant name.toList

/-- The text lists a name of the tenant and behind it the further names of the caller. -/
def Leads (tenant name text : String) : Prop :=
  ∃ first, Owns tenant first ∧ names text = first :: (names name).tail

theorem leads_append (tenant name : String) (plain : ',' ∉ tenant.toList) :
    Leads tenant name (tenant ++ "_" ++ name) := by
  obtain ⟨first, others, listed⟩ := Text.exists_pieces ',' name.toList
  have apart : ',' ∉ (tenant ++ "_").toList := by simpa using plain
  refine ⟨(tenant ++ "_").toList ++ first, List.prefix_append _ _, ?_⟩
  rw [names, names, String.toList_append, Text.pieces_append apart _ listed, listed]
  rfl

theorem leads_self {tenant name : String} (plain : ',' ∉ tenant.toList)
    (owned : Owns tenant name.toList) : Leads tenant name name := by
  obtain ⟨rest, same⟩ := owned
  obtain ⟨first, others, listed⟩ := Text.exists_pieces ',' rest
  have apart : ',' ∉ (tenant ++ "_").toList := by simpa using plain
  refine ⟨(tenant ++ "_").toList ++ first, List.prefix_append _ _, ?_⟩
  rw [names, ← same, Text.pieces_append apart _ listed]
  rfl

theorem leads_underTenant {tenant name : String} (plain : ',' ∉ tenant.toList)
    (clear : Clear tenant name) : Leads tenant name (Connection.underTenant tenant name) := by
  unfold Connection.underTenant
  split
  · rename_i begins
    exact leads_self plain (clear (List.isPrefixOf_iff_prefix.mp begins))
  · exact leads_append tenant name plain

theorem Leads.confines {tenant name text : String} (leads : Leads tenant name text)
    (others : ∀ other ∈ (names name).tail, Owns tenant other) : Confines tenant (.str text) := by
  obtain ⟨first, owned, listed⟩ := leads
  refine ⟨text, rfl, ?_⟩
  rw [listed]
  exact List.forall_mem_cons.mpr ⟨owned, others⟩

end Tenant

def Request.IsCreation : Request → Prop
  | .clientCreated _ | .clientRefused _ => True
  | _ => False

/-- The request asks the target, by parameters or, with the document type, by path. -/
inductive Request.Asks (docType : Json) : Request → Json → Prop
  | byParameters (index : Json) (parameters : Object) :
      Asks docType (.clientSearch index parameters) index
  | byPath (index : String) (body : Object) :
      Asks docType (.clientPost (Connection.searchPath (.str index) docType) body) (.str index)

/-- Requests that ask nothing but lists of the tenant's names. -/
def Tenant.Isolates (tenant : String) (docType : Json) (requests : List Request) : Prop :=
  ∀ request ∈ requests,
    request.IsCreation ∨ ∃ asked, request.Asks docType asked ∧ Confines tenant asked

namespace Connection

theorem connect_cases (c : Connection) :
    (∃ server, c.client = some server ∧ c.connect = .succeed c server) ∨
      (∃ server rest, c.client = none ∧ c.creations.next = (.client server, rest) ∧
        c.connect =
          ⟨.ok server, { c with client := some server, creations := rest }, creation c.settings⟩) ∨
      ∃ failure rest, c.client = none ∧ c.creations.next = (.refused failure, rest) ∧
        c.connect = ⟨.error failure, { c with creations := rest },
          .ofRequest (.clientRefused (clientParameters c.settings))⟩ := by
  unfold connect
  cases c.client with
  | some server => exact .inl ⟨server, rfl, rfl⟩
  | none =>
    cases c.creations.next with
    | mk creation rest =>
      cases creation with
      | client server => exact .inr (.inl ⟨server, rest, rfl, rfl, rfl⟩)
      | refused failure => exact .inr (.inr ⟨failure, rest, rfl, rfl, rfl⟩)

theorem isCreation_of_connect {c : Connection} {request : Request}
    (sent : request ∈ c.connect.report.requests) : request.IsCreation := by
  rcases c.connect_cases with ⟨_, _, same⟩ | ⟨_, _, _, _, same⟩ | ⟨_, _, _, _, same⟩ <;>
    rw [same] at sent
  · cases sent
  · cases List.mem_singleton.mp sent
    trivial
  · cases List.mem_singleton.mp sent
    trivial

theorem requests_searchFailure (index docType : Json) (failure : Failure) :
    (searchFailure index docType failure).requests = [] := by
  unfold searchFailure
  split <;> rfl

theorem clientFor_eq (c : Connection) (index docType : Json) :
    (c.clientFor index docType).result = c.connect.result ∧
      (c.clientFor index docType).state = c.connect.state ∧
      (c.clientFor index docType).report.requests = c.connect.report.requests := by
  unfold clientFor
  dsimp only
  split
  · exact ⟨rfl, rfl, rfl⟩
  · refine ⟨rfl, rfl, ?_⟩
    change _ ++ (searchFailure _ _ _).requests = _
    rw [requests_searchFailure, List.append_nil]

theorem isCreation_of_clientFor {c : Connection} {index docType : Json} {request : Request}
    (sent : request ∈ (c.clientFor index docType).report.requests) : request.IsCreation := by
  rw [(c.clientFor_eq index docType).2.2] at sent
  exact isCreation_of_connect sent

theorem requests_receive (c : Connection) (server : Server) (index docType : Json) :
    (c.receive server index docType).report.requests = [] := by
  unfold receive
  cases server.next with
  | mk reply rest =>
    cases reply with
    | failure failure => exact requests_searchFailure index docType failure
    | answer payload =>
      dsimp only
      split <;> rfl

theorem requests_received {c : Connection} {server : Server} {index docType : Json}
    {request sent : Request}
    (listed :
      request ∈ ((c.receive server index docType).noting (.ofRequest sent)).report.requests) :
    request = sent := by
  change request ∈ [sent] ++ (c.receive server index docType).report.requests at listed
  rw [requests_receive, List.append_nil] at listed
  exact List.mem_singleton.mp listed

theorem asks_of_query {c : Connection} {index body docType : Json} {request : Request}
    (sent : request ∈ (c.query index docType body).report.requests) :
    request.IsCreation ∨ request.Asks docType index := by
  unfold query at sent
  split at sent
  · rcases Outcome.mem_requests_andThen sent with created | ⟨server, _, asked⟩
    · exact .inl (isCreation_of_clientFor created)
    · split at asked
      · cases asked
      · rw [requests_received asked]
        exact .inr (.byParameters _ _)
  · cases sent

theorem asks_of_post {c : Connection} {index : String} {body docType : Json} {request : Request}
    (sent : request ∈ (c.post (.str index) docType body).report.requests) :
    request.IsCreation ∨ request.Asks docType (.str index) := by
  unfold post at sent
  split at sent
  · cases sent
  · rcases Outcome.mem_requests_andThen sent with created | ⟨server, _, asked⟩
    · exact .inl (isCreation_of_clientFor created)
    · split at asked
      · cases asked
      · rw [requests_received asked]
        exact .inr (.byPath _ _)

theorem resolve_name {c : Connection} {tenant name : String}
    (given : c.settings.indexPrefix = .str tenant) (filled : tenant ≠ "") (named : name ≠ "") :
    c.resolve (.str name) = .ok (.str (underTenant tenant name)) := by
  have tenantTruthy : (Json.str tenant).truthy = true := by
    simpa [Json.truthy] using filled
  have nameTruthy : (Json.str name).truthy = true := by
    simpa [Json.truthy] using named
  simp only [resolve, given, tenantTruthy, nameTruthy, Bool.not_true, Bool.or_self,
    Bool.false_eq_true, if_false]

theorem asks_of_name {c : Connection} {tenant name : String} {docType body : Json}
    {request : Request} (given : c.settings.indexPrefix = .str tenant) (filled : tenant ≠ "")
    (named : name ≠ "") (sent : request ∈ (c.search (.str name) docType body).report.requests) :
    request.IsCreation ∨ request.Asks docType (.str (underTenant tenant name)) := by
  unfold search at sent
  rw [resolve_name given filled named] at sent
  dsimp only at sent
  split at sent
  · exact asks_of_post sent
  · exact asks_of_query sent

theorem search_everything (c : Connection) (body : Json) :
    c.search .null .null body = c.query .null .null body := rfl

theorem search_typed_everything (c : Connection) {type : String} (named : type ≠ "") (body : Json) :
    c.search .null (.str type) body = .fail c (.argument .typeWithoutIndex) := by
  have typeTruthy : (Json.str type).truthy = true := by
    simpa [Json.truthy] using named
  have nullFalsy : Json.null.truthy = false := rfl
  simp only [search, resolve, post, nullFalsy, typeTruthy, Bool.not_false, Bool.true_or, if_true]

end Connection

theorem Edit.ne_empty_of_nameIn {label text : String}
    (accepted : nameIn label (.str text) = .ok text) :
    text ≠ "" := by
  rintro rfl
  cases accepted

namespace Link

/-- Under a tenant a search by name asks a list that is led by a name of the tenant, and asks
nothing else when the further names are the tenant's. A search of no index asks every index, or
nothing at all when a document type is given. -/
theorem search_under_tenant (c : Connection) (tenant : String) (docType : Option String)
    (body : Object) (given : c.settings.indexPrefix = .str tenant) (filled : tenant ≠ "")
    (plain : ',' ∉ tenant.toList) :
    (∀ name, Edit.nameIn "index" (.str name) = .ok name → Tenant.Clear tenant name →
      (∀ request ∈ ((managed c).search (some name) docType body).report.requests,
        request.IsCreation ∨ ∃ text, request.Asks (.ofText? docType) (.str text) ∧
          Tenant.Leads tenant name text) ∧
      ((∀ other ∈ (Tenant.names name).tail, Tenant.Owns tenant other) →
        Tenant.Isolates tenant (.ofText? docType)
          ((managed c).search (some name) docType body).report.requests)) ∧
    (∀ request ∈ ((managed c).search none none body).report.requests,
      request.IsCreation ∨ request.Asks .null .null) ∧
    (∀ type, Edit.nameIn "type" (.str type) = .ok type →
      ((managed c).search none (some type) body).result = .error (.argument .typeWithoutIndex) ∧
        ((managed c).search none (some type) body).report.requests = []) := by
  refine ⟨?_, ?_, ?_⟩
  · intro name accepted clear
    have named := Edit.ne_empty_of_nameIn accepted
    have leads := Tenant.leads_underTenant plain clear
    constructor
    · intro request sent
      exact (Connection.asks_of_name given filled named sent).imp_right fun asks =>
        ⟨_, asks, leads⟩
    · intro others request sent
      exact (Connection.asks_of_name given filled named sent).imp_right fun asks =>
        ⟨_, asks, leads.confines others⟩
  · intro request sent
    change request ∈ (c.search .null .null (.obj body)).report.requests at sent
    rw [Connection.search_everything] at sent
    exact Connection.asks_of_query sent
  · intro type accepted
    have refused := Connection.search_typed_everything c (Edit.ne_empty_of_nameIn accepted)
      (.obj body)
    constructor
    · change (c.search .null (.str type) (.obj body)).result.map _ = _
      rw [refused]
      rfl
    · change (c.search .null (.str type) (.obj body)).report.requests = []
      rw [refused]
      rfl

def tenantConnection (tenant : String) : Connection :=
  { settings :=
      { environment := .test
        logLevel := .debug
        logFormat := .console
        hosts := "http://localhost:9200"
        username := .null
        password := .null
        apiKey := .null
        verifyCerts := true
        requestTimeout := .one
        maxRetries := 3
        retryOnTimeout := true
        indexPrefix := .str tenant
        defaultPageSize := 25 }
    client := some ⟨[]⟩
    creations := .always ⟨[]⟩ }

theorem search_orders_under_tenant :
    Edit.nameIn "index" (.str "orders,acme_archive") = .ok "orders,acme_archive" ∧
      Tenant.Clear "acme" "orders,acme_archive" ∧
      Tenant.Isolates "acme" .null ((managed (tenantConnection "acme")).search
        (some "orders,acme_archive") none []).report.requests := by
  have accepted :
      Edit.nameIn "index" (.str "orders,acme_archive") = .ok "orders,acme_archive" := rfl
  have clear : Tenant.Clear "acme" "orders,acme_archive" := by
    unfold Tenant.Clear
    decide
  have others : ∀ other ∈ (Tenant.names "orders,acme_archive").tail, Tenant.Owns "acme" other := by
    decide
  have searched := search_under_tenant (tenantConnection "acme") "acme" none [] rfl (by decide)
    (by decide)
  exact ⟨accepted, clear, (searched.1 _ accepted clear).2 others⟩

/-- No index, a list with a name of another tenant, and a name that only begins like the tenant. -/
theorem not_isolated_under_tenant :
    ¬ Tenant.Isolates "acme" .null
        ((managed (tenantConnection "acme")).search none none []).report.requests ∧
      ¬ Tenant.Isolates "acme" .null ((managed (tenantConnection "acme")).search
          (some "orders,globex_orders") none []).report.requests ∧
      ¬ Tenant.Isolates "acme" .null ((managed (tenantConnection "acme")).search
          (some "acmecorp_orders") none []).report.requests := by
  have foreign {asked : Json} {parameters : Object} {requests : List Request}
      (sent : requests = [.clientSearch asked parameters])
      (outside : ¬ Tenant.Confines "acme" asked) : ¬ Tenant.Isolates "acme" .null requests := by
    intro isolated
    rw [sent] at isolated
    rcases isolated _ List.mem_cons_self with created | ⟨target, asks, confined⟩
    · exact created
    · cases asks
      exact outside confined
  have listed {text : String} (name : List Char) (names : name ∈ Tenant.names text)
      (other : ¬ Tenant.Owns "acme" name) : ¬ Tenant.Confines "acme" (.str text) := by
    rintro ⟨_, same, each⟩
    cases same
    exact other (each name names)
  refine ⟨foreign rfl ?_, foreign rfl (listed "globex_orders".toList ?_ ?_),
    foreign rfl (listed "acmecorp_orders".toList ?_ ?_)⟩
  · rintro ⟨_, same, _⟩
    cases same
  all_goals decide

end Link

end SearchRequest
