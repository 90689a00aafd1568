import SearchRequest.Proofs.Connection.Tenant
import SearchRequest.Proofs.Result.Pages
import SearchRequest.Proofs.Search.Query

/-!
The windows that searches are sent with. A search with a window is sent in one request, which asks
for that window, whichever way it is sent; so a page that is read was asked for once.
-/

namespace SearchRequest

def Window.of? (o : Object) (offset : String) : Option Window :=
  match Object.get? o offset, Object.get? o "size" with
  | some (.int (.ofNat offset)), some (.int (.ofNat size)) => some ⟨offset, size⟩
  | _, _ => none

def Request.window? : Request → Option (Option Window)
  | .search _ _ body | .clientPost _ body => some (Window.of? body "from")
  | .clientSearch _ parameters => some (Window.of? parameters "from_")
  | _ => none

/-- The windows of all searches that were sent, also of those without one. -/
def Report.windows (r : Report) : List (Option Window) := r.requests.filterMap Request.window?

theorem Report.windows_append (a b : Report) : (a ++ b).windows = a.windows ++ b.windows :=
  List.filterMap_append

theorem Outcome.windows_andThen {σ α β : Type} {o : Outcome σ α} {next : α → σ → Outcome σ β}
    {value : β} (done : (o.andThen next).result = .ok value) :
    ∃ first, o.result = .ok first ∧ (next first o.state).result = .ok value ∧
      (o.andThen next).report.windows =
        o.report.windows ++ (next first o.state).report.windows := by
  cases result : o.result with
  | error failure =>
    rw [andThen_of_error result] at done
    cases done
  | ok first =>
    rw [andThen_of_ok result] at done ⊢
    exact ⟨first, rfl, done, Report.windows_append _ _⟩

/-- The body asks for the window, both as it stands and as parameters. -/
structure Window.AskedBy (window : Window) (body : Object) : Prop where
  standing : Window.of? body "from" = some window
  parameters : Window.of? (Connection.parametersOf body) "from_" = some window

namespace Connection

theorem get?_parameters_of_absent {entries : Object} {name : String}
    (absent : ∀ entry ∈ entries, parameterName entry.1 ≠ name) (done : Object) :
    Object.get? (entries.foldl (fun done entry => done.set (parameterName entry.1) entry.2) done)
      name = Object.get? done name := by
  induction entries generalizing done with
  | nil => rfl
  | cons entry rest ih =>
    obtain ⟨first, others⟩ := List.forall_mem_cons.mp absent
    rw [List.foldl_cons, ih others, Object.get?_set, if_neg (Ne.symm first)]

theorem window?_of_isCreation {request : Request} (created : request.IsCreation) :
    request.window? = none := by
  cases request <;> first | rfl | cases created

theorem windows_clientFor (c : Connection) (index docType : Json) :
    (c.clientFor index docType).report.windows = [] :=
  List.filterMap_eq_nil_iff.mpr fun _ sent => window?_of_isCreation (isCreation_of_clientFor sent)

theorem windows_received (c : Connection) (server : Server) (index docType : Json)
    (sent : Request) :
    ((c.receive server index docType).noting (.ofRequest sent)).report.windows =
      [sent].filterMap Request.window? := by
  change ([sent] ++ (c.receive server index docType).report.requests).filterMap _ = _
  rw [requests_receive, List.append_nil]

theorem windows_search {c : Connection} {index docType answer : Json} {body : Object}
    {window : Window} (asked : window.AskedBy body)
    (answered : (c.search index docType (.obj body)).result = .ok answer) :
    (c.search index docType (.obj body)).report.windows = [some window] := by
  unfold search at answered ⊢
  cases resolved : c.resolve index with
  | error failure =>
    rw [resolved] at answered
    cases answered
  | ok target =>
    rw [resolved] at answered
    dsimp only at answered ⊢
    by_cases typed : docType.truthy = true
    · rw [if_pos typed] at answered ⊢
      unfold post at answered ⊢
      split at answered
      · cases answered
      · rename_i named
        rw [if_neg named]
        obtain ⟨server, _, received, sent⟩ := Outcome.windows_andThen answered
        -- Creating a client is no search, so the windows are those of the request alone.
        rw [sent, windows_clientFor, List.nil_append]
        change ((receive _ server target docType).noting _).report.windows = _
        rw [windows_received]
        simp [Request.window?, asked.standing]
    · rw [if_neg typed] at answered ⊢
      unfold query at answered ⊢
      dsimp only at answered ⊢
      obtain ⟨server, _, received, sent⟩ := Outcome.windows_andThen answered
      rw [sent, windows_clientFor, List.nil_append]
      split at received
      · cases received
      · rename_i free
        rw [if_neg free, windows_received]
        simp [Request.window?, asked.parameters]

end Connection

theorem Link.windows_search {l : Link} {index docType : Option String} {body : Object}
    {payload : Payload} {window : Window} (asked : window.AskedBy body)
    (answered : (l.search index docType body).result = .ok payload) :
    (l.search index docType body).report.windows = [some window] := by
  cases l with
  | absent => cases answered
  | direct server closable =>
    change [Request.search index docType body].filterMap _ = _
    simp [Request.window?, asked.standing]
  | managed connection =>
    cases result : (connection.search (.ofText? index) (.ofText? docType) (.obj body)).result with
    | error failure => simp [search, result] at answered
    | ok answer => exact Connection.windows_search asked result

namespace Document

def otherKeys : List String := ["query", "aggs", "sort", "highlight", "min_score", "_source"]

theorem body_of_window {d : Document} {window : Window} {body : Object}
    (offset : d.offset = some window.offset) (size : d.size = some window.size)
    (compiled : d.body = .ok body) :
    ∃ front back : Object,
      body = front ++ ("from", .int window.offset) :: ("size", .int window.size) :: back ∧
        (∀ entry ∈ front, entry.1 ∈ otherKeys) ∧ ∀ entry ∈ back, entry.1 ∈ otherKeys := by
  obtain ⟨query, aggregations, queried, aggregated, rfl⟩ := body_eq_ok.mp compiled
  refine ⟨query ++ aggregations ++ d.sortEntry ++ d.highlightEntry,
    Object.given [("min_score", d.minScore),
      ("_source", Json.ofOption (d.source.map SourceFilter.toJson))], ?_, ?_, ?_⟩
  -- The window stands between the sorts with the highlight and the score with the source filter.
  · simp [furtherEntries, windowEntries, Object.given, offset, size, Json.ofCount?, Json.isNull]
  · intro entry listed
    simp only [List.mem_append] at listed
    have key {part : Object} (member : entry ∈ part) : entry.1 ∈ part.keys :=
      List.mem_map_of_mem member
    rcases listed with ((first | aggs) | sort) | highlight
    · simp [otherKeys, mem_keys_queryEntry queried (key first)]
    · simp [otherKeys, mem_keys_aggregationsEntry aggregated (key aggs)]
    · simp [otherKeys, mem_keys_sortEntry (key sort)]
    · simp [otherKeys, mem_keys_highlightEntry (key highlight)]
  · intro entry listed
    have named := Object.mem_keys_given (List.mem_map_of_mem (f := Prod.fst) listed)
    simp only [Object.keys, List.map_cons, List.map_nil, List.mem_cons, List.not_mem_nil,
      or_false] at named
    rcases named with score | source
    · simp [otherKeys, score]
    · simp [otherKeys, source]

theorem askedBy_body {d : Document} {window : Window} {body : Object}
    (offset : d.offset = some window.offset) (size : d.size = some window.size)
    (compiled : d.body = .ok body) : window.AskedBy body := by
  obtain ⟨front, back, rfl, frontKeys, backKeys⟩ := body_of_window offset size compiled
  have apart : ∀ key ∈ otherKeys, key ≠ "from" ∧ key ≠ "size" ∧
      Connection.parameterName key ≠ "from_" ∧ Connection.parameterName key ≠ "size" := by decide
  have absent {key : String} (other : ∀ known ∈ otherKeys, known ≠ key) :
      Object.get? front key = none := by
    rw [Object.get?_eq_none]
    intro listed
    obtain ⟨entry, member, same⟩ := List.mem_map.mp listed
    exact other entry.1 (frontKeys entry member) same
  constructor
  · simp [Window.of?, Object.get?_append, Object.get?_cons,
      absent fun key known => (apart key known).1, absent fun key known => (apart key known).2.1]
  · have offsetParameter : Connection.parameterName "from" = "from_" := by decide
    have sizeParameter : Connection.parameterName "size" = "size" := by decide
    have behind {name : String}
        (other : ∀ known ∈ otherKeys, Connection.parameterName known ≠ name) :=
      @Connection.get?_parameters_of_absent back name
        fun entry listed => other entry.1 (backKeys entry listed)
    simp only [Window.of?, Connection.parametersOf, List.foldl_append, List.foldl_cons,
      behind fun key known => (apart key known).2.2.1,
      behind fun key known => (apart key known).2.2.2, Object.get?_set, offsetParameter,
      sizeParameter]
    simp

end Document

namespace Search

theorem windows_execute {s : Search} {w : World} {result : Result} {window : Window}
    (offset : s.document.offset = some window.offset) (size : s.document.size = some window.size)
    (executed : (s.execute w).result = .ok result) :
    (s.execute w).report.windows = [some window] := by
  obtain ⟨payload, sent, read, windows⟩ := Outcome.windows_andThen executed
  have asked : (s.send w).report.windows = [some window] := by
    unfold send at sent ⊢
    split at sent
    · cases sent
    · rename_i linked
      rw [if_neg linked]
      cases compiled : s.document.body with
      | error failure =>
        rw [compiled] at sent
        cases sent
      | ok body =>
        rw [compiled] at sent
        exact Link.windows_search (Document.askedBy_body offset size compiled) sent
  rw [execute, windows, asked]
  -- Reading the answer sends nothing more.
  cases Result.ofPayload payload <;> rfl

end Search

theorem World.page_of_counts (w : World) {limit number : Nat} (positive : 0 < limit)
    (counted : 0 < number) :
    w.page (.int limit) (.int number) = (.ok ⟨limit, number, positive, counted⟩, w) := by
  cases limit with
  | zero => cases positive
  | succ limit =>
    cases number with
    | zero => cases counted
    | succ number => rfl

theorem Search.paginate_eq_ok {s : Search} {w : World} {limit number : Nat} {p : Paginator}
    (positive : 0 < limit) (counted : 0 < number)
    (done : (s.paginate w (.int limit) (.int number)).result = .ok p) :
    p.page = ⟨limit, number, positive, counted⟩ ∧
      (s.paginate w (.int limit) (.int number)).report.windows =
        [some (Window.ofPage limit number)] := by
  unfold paginate at done ⊢
  rw [World.page_of_counts w positive counted] at done ⊢
  dsimp only at done ⊢
  obtain ⟨result, executed, read, windows⟩ := Outcome.windows_andThen done
  constructor
  · injection read with same
    rw [← same]
  · have asked : ((s.onPage ⟨limit, number, positive, counted⟩).execute w).report.windows =
        [some (Window.ofPage limit number)] := windows_execute rfl rfl executed
    rw [windows]
    change ((s.onPage _).execute w).report.windows ++ [] = _
    rw [asked, List.append_nil]

end SearchRequest
