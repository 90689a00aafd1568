import SearchRequest.Proofs.Connection.Tenant

/-!
Searches that reach the client. Each of them is one exchange: a request, and the reply to it. The
answer is handed on as it is, but its hits are counted on the way, for the log, and what stands in
their place may be nothing that can be counted.
-/

namespace SearchRequest

namespace Json

/-- A value that is not empty and still has no elements. -/
def isUncountable : Json → Bool
  | .bool value => value
  | .int value => value != 0
  | .float value => !value.isZero
  | _ => false

def listsUncountable : Json → Bool
  | .obj entries => match Object.field entries "hits" with
      | .obj hits => (Object.field hits "hits").isUncountable
      | _ => false
  | _ => false

theorem truthy_of_uncountable {value : Json} (uncountable : value.isUncountable = true) :
    value.truthy = true := by
  cases value <;> first | exact uncountable | cases uncountable

theorem asElements_of_uncountable {value : Json} (uncountable : value.isUncountable = true) :
    value.asElements = .error .wrongKind := by
  cases value <;> first | rfl | cases uncountable

theorem succeeds_asElements {value : Json} (filled : value.truthy = true)
    (countable : value.isUncountable = false) : Succeeds value.asElements := by
  cases value with
  | null => cases filled
  | bool b => exact absurd filled (Bool.eq_false_iff.mp countable)
  | int n => exact absurd filled (Bool.eq_false_iff.mp countable)
  | float d => exact absurd filled (Bool.eq_false_iff.mp countable)
  | _ => exact succeeds_ok _

end Json

namespace Connection

/-- What is recorded of a request: the creation of a client when none is open, and the request
itself, unless there is no client to be had. -/
def asking (c : Connection) (request : Request) : List Request :=
  match c.connect.result with
  | .ok _ => c.connect.report.requests ++ [request]
  | .error _ => c.connect.report.requests

def exchanged (c : Connection) (index docType : Json) (sent : Request) : Outcome Connection Json :=
  (c.clientFor index docType).andThen fun server c =>
    (c.receive server index docType).noting (.ofRequest sent)

theorem exchanged_of_ok {c : Connection} {server : Server} (opened : c.connect.result = .ok server)
    (index docType : Json) (sent : Request) :
    let received := (c.connect.state.receive server index docType).noting (.ofRequest sent)
    (c.exchanged index docType sent).result = received.result ∧
      (c.exchanged index docType sent).state = received.state ∧
      (c.exchanged index docType sent).report.requests = c.connect.report.requests ++ [sent] := by
  obtain ⟨result, state, requests⟩ := c.clientFor_eq index docType
  rw [exchanged, Outcome.andThen_of_ok (result.trans opened), state]
  refine ⟨rfl, rfl, ?_⟩
  change (c.clientFor index docType).report.requests ++
    ([sent] ++ (receive _ _ index docType).report.requests) = _
  rw [requests, requests_receive, List.append_nil]

theorem exchanged_of_error {c : Connection} {failure : Failure}
    (refused : c.connect.result = .error failure) (index docType : Json) (sent : Request) :
    (c.exchanged index docType sent).result = .error failure ∧
      (c.exchanged index docType sent).state = c.connect.state ∧
      (c.exchanged index docType sent).report.requests = c.connect.report.requests := by
  obtain ⟨result, state, requests⟩ := c.clientFor_eq index docType
  rw [exchanged, Outcome.andThen_of_error (result.trans refused)]
  exact ⟨rfl, state, requests⟩

theorem requests_exchanged (c : Connection) (index docType : Json) (sent : Request) :
    (c.exchanged index docType sent).report.requests = c.asking sent := by
  unfold asking
  split
  · rename_i opened
    exact (exchanged_of_ok opened index docType sent).2.2
  · rename_i refused
    exact (exchanged_of_error refused index docType sent).2.2

theorem post_eq_exchanged (c : Connection) {index docType body : Json} {entries : Object}
    (named : index.truthy = true) (read : body.asEntries = .ok entries) :
    c.post index docType body =
      c.exchanged index docType (.clientPost (searchPath index docType) entries) := by
  simp only [post, named, read, Bool.not_true, Bool.false_eq_true, if_false, exchanged]

theorem query_eq_exchanged (c : Connection) (index docType : Json) {entries : Object}
    (free : reservedParameters.any (parametersOf entries).has = false) :
    c.query index docType (.obj entries) =
      c.exchanged index docType (.clientSearch index (parametersOf entries)) := by
  simp only [query, free, Bool.false_eq_true, if_false, exchanged]

/-- The outcome is one exchange, or it was given up before anything but a client was asked for. -/
def Exchanges (c : Connection) (docType : Json) (o : Outcome Connection Json) : Prop :=
  (∃ target sent, o = c.exchanged target docType sent) ∨
    ∀ request ∈ o.report.requests, request.IsCreation

theorem exchanges_of_silent (c : Connection) (docType : Json)
    {next : Server → Connection → Outcome Connection Json}
    (silent : ∀ server c, (next server c).report.requests = []) (index : Json) :
    c.Exchanges docType ((c.clientFor index docType).andThen next) := by
  refine .inr fun request sent => ?_
  rcases Outcome.mem_requests_andThen sent with created | ⟨server, _, asked⟩
  · exact isCreation_of_clientFor created
  · rw [silent] at asked
    cases asked

theorem exchanges_post (c : Connection) (index docType body : Json) :
    c.Exchanges docType (c.post index docType body) := by
  by_cases named : index.truthy = true
  · cases read : body.asEntries with
    | error failure =>
      simp only [post, named, read, Bool.not_true, Bool.false_eq_true, if_false]
      exact exchanges_of_silent c docType (fun _ _ => rfl) index
    | ok entries => exact .inl ⟨index, _, post_eq_exchanged c named read⟩
  · simp only [post, named, Bool.not_false, if_true]
    exact .inr (List.forall_mem_nil _)

theorem exchanges_query (c : Connection) (index docType body : Json) :
    c.Exchanges docType (c.query index docType body) := by
  cases body with
  | obj entries =>
    cases free : reservedParameters.any (parametersOf entries).has with
    | true =>
      simp only [query, free, if_true]
      exact exchanges_of_silent c docType (fun _ _ => rfl) index
    | false => exact .inl ⟨index, _, query_eq_exchanged c index docType free⟩
  | _ => exact .inr nofun

theorem exchanges_search (c : Connection) (index docType body : Json) :
    c.Exchanges docType (c.search index docType body) := by
  unfold search
  cases c.resolve index with
  | error failure => exact .inr nofun
  | ok target =>
    dsimp only
    split
    · exact exchanges_post c target docType body
    · exact exchanges_query c target docType body

theorem hitCount_of_uncountable {answer : Json} (uncountable : answer.listsUncountable = true) :
    hitCount answer = .error .wrongKind := by
  unfold Json.listsUncountable at uncountable
  split at uncountable
  · rename_i entries
    split at uncountable
    · rename_i hits listed
      have filled := Json.truthy_of_uncountable uncountable
      simp only [hitCount, listed, filled, if_true, Json.asElements_of_uncountable uncountable,
        map_error]
    · cases uncountable
  · cases uncountable

theorem succeeds_hitCount {answer : Json} (countable : answer.listsUncountable = false) :
    Succeeds (hitCount answer) := by
  unfold hitCount
  split
  · rename_i entries
    split
    · rename_i hits listed
      simp only [Json.listsUncountable, listed] at countable
      dsimp only
      split
      · rename_i filled
        obtain ⟨items, elements⟩ := Json.succeeds_asElements filled countable
        rw [elements]
        exact succeeds_ok _
      · exact succeeds_ok _
    · exact succeeds_ok _
  · exact succeeds_ok _

theorem exchanged_of_answer {c : Connection} {server : Server} {payload : Payload}
    (opened : c.connect.result = .ok server) (answered : server.next.1 = .answer payload)
    (index docType : Json) (sent : Request) :
    (c.exchanged index docType sent).result = (hitCount payload.body).map (fun _ => payload.body) ∧
      (c.exchanged index docType sent).state =
        { c.connect.state with client := some server.next.2 } := by
  obtain ⟨result, state, _⟩ := exchanged_of_ok opened index docType sent
  rw [result, state]
  simp only [Outcome.noting, receive, answered]
  cases hitCount payload.body <;> exact ⟨rfl, rfl⟩

/-- A search that reaches the client hands on what the client answers, whatever that is, unless the
place of the hits is taken by a value that cannot be counted; then the answer is lost to a failure
of another kind, and it does not come again. -/
theorem search_hands_on {c : Connection} {index docType body : Json} {server : Server}
    {payload : Payload}
    (reached : ∃ request ∈ (c.search index docType body).report.requests, ¬ request.IsCreation)
    (opened : c.connect.result = .ok server) (answered : server.next.1 = .answer payload) :
    let o := c.search index docType body
    (payload.body.listsUncountable = false → o.result = .ok payload.body) ∧
      (payload.body.listsUncountable = true → o.result = .error .wrongKind) ∧
      o.state = { c.connect.state with client := some server.next.2 } := by
  intro o
  obtain ⟨request, sent, other⟩ := reached
  obtain ⟨target, asked, same⟩ | created := exchanges_search c index docType body
  · obtain ⟨result, state⟩ := exchanged_of_answer opened answered target docType asked
    rw [← same] at result state
    refine ⟨fun countable => ?_, fun uncountable => ?_, state⟩
    · obtain ⟨hits, counted⟩ := succeeds_hitCount countable
      rw [result, counted, map_ok]
    · rw [result, hitCount_of_uncountable uncountable, map_error]
  -- Were no search sent, the requests would be creations only, against what was reached.
  · exact absurd (created request sent) other

def replying (payload : Payload) : Connection :=
  { Link.tenantConnection "acme" with client := some ⟨[.answer payload]⟩ }

def listing (hits : Json) : Json := Object.only "hits" (.obj [("total", .int 1), ("hits", hits)])

theorem reached_listing (hits : Json) :
    ∃ request ∈ ((replying (.wrapped (listing hits))).search (.str "orders") .null
      (.obj [])).report.requests, ¬ request.IsCreation := by
  have same : (replying (.wrapped (listing hits))).search (.str "orders") .null (.obj []) =
      (replying (.wrapped (listing hits))).exchanged (.str "acme_orders") .null
        (.clientSearch (.str "acme_orders") []) := rfl
  rw [same, requests_exchanged]
  exact ⟨_, List.mem_singleton_self _, id⟩

theorem search_hands_on_text :
    let c := replying (.wrapped (listing (.str "none")))
    (∃ request ∈ (c.search (.str "orders") .null (.obj [])).report.requests, ¬ request.IsCreation) ∧
      c.connect.result = .ok ⟨[.answer (.wrapped (listing (.str "none")))]⟩ ∧
      (c.search (.str "orders") .null (.obj [])).result = .ok (listing (.str "none")) :=
  ⟨reached_listing _, rfl, (search_hands_on (reached_listing _) rfl rfl).1 rfl⟩

theorem not_hands_on_number :
    ¬ ∀ (c : Connection) (index docType body : Json) (server : Server) (payload : Payload),
      (∃ request ∈ (c.search index docType body).report.requests, ¬ request.IsCreation) →
        c.connect.result = .ok server → server.next.1 = .answer payload →
          (c.search index docType body).result = .ok payload.body := by
  intro handsOn
  have given := handsOn _ _ _ _ _ _ (reached_listing (.int 5)) rfl rfl
  cases given

end Connection

end SearchRequest
