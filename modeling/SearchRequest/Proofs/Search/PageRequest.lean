import SearchRequest.Proofs.Connection.Routes
import SearchRequest.Proofs.Result.Shape
import SearchRequest.Proofs.Search.Paging
import SearchRequest.Proofs.Search.Presentation

/-!
The request for a page. When a page is meant, the body of the search is sent once with the window of
that page, and the items of the paginator are numbered from the offset that was sent. When none is
meant, nothing is sent and the search is left alone.
-/

namespace SearchRequest

theorem Page.items_of_filled (p : Page) {count : Nat} (filled : count ≠ 0) :
    p.firstItem? count = some (p.size * (p.number - 1) + 1) ∧
      p.lastItem? count = some (p.size * (p.number - 1) + count) := by
  have offset := Nat.mul_comm (p.number - 1) p.size
  simp only [firstItem?, lastItem?, filled, if_false, Option.map_some, Option.some.injEq]
  omega

namespace World

def limitOf (w : World) (limit : Json) : Json := if limit.isNull then w.defaultPageSize else limit

/-- The page source afterwards. It is asked once, for a number that is not given, and not at all
when the size is refused. -/
def pagesAfter (w : World) (limit number : Json) : PageSource :=
  if (Page.counted? (w.limitOf limit)).isSome && number.isNull then w.pages.next.2 else w.pages

theorem page_after (w : World) (limit number : Json) :
    (w.page limit number).2 = { w with pages := w.pagesAfter limit number } := by
  unfold page pagesAfter limitOf
  dsimp only
  split
  · rename_i refused
    simp [refused]
  · rename_i size accepted
    cases given : number.isNull <;> simp [accepted] <;> split <;> rfl

theorem pagesAfter_of_means {w : World} {limit number : Json} {page : Page}
    (means : w.Means limit number page) :
    w.pagesAfter limit number = if number.isNull then w.pages.next.2 else w.pages := by
  have accepted : Page.counted? (w.limitOf limit) = some ⟨page.size, page.size_pos⟩ :=
    Page.counted?_eq_some.mpr means.size
  simp [pagesAfter, accepted]

theorem page_refused {w : World} {limit number : Json}
    (meaningless : ¬ ∃ page, w.Means limit number page) :
    ∃ fault, (w.page limit number).1 = .error (.argument fault) := by
  cases asked : (w.page limit number).1 with
  | ok page => exact absurd ⟨page, page_eq_ok.mp asked⟩ meaningless
  | error failure =>
    unfold page at asked
    dsimp only at asked
    split at asked
    · cases asked
      exact ⟨_, rfl⟩
    · split at asked
      · cases asked
        exact ⟨_, rfl⟩
      · cases asked

end World

namespace Document

def withWindow (d : Document) (page : Page) : Document :=
  { d with offset := some page.offset, size := some page.size }

theorem body_before_window {d : Document} {body : Object} (compiled : d.body = .ok body) :
    ∃ front : Object, body = front ++ d.windowEntries ∧
      (∀ page, (d.withWindow page).body = .ok (front ++ (d.withWindow page).windowEntries)) ∧
      front.get? "from" = none ∧ front.get? "size" = none := by
  obtain ⟨query, aggregations, queried, aggregated, rfl⟩ := body_eq_ok.mp compiled
  have named (key : String)
      (listed : key ∈ Object.keys (query ++ aggregations ++ d.sortEntry ++ d.highlightEntry)) :
      key ∈ ["query", "aggs", "sort", "highlight"] := by
    simp only [Object.keys_append, List.mem_append] at listed
    rcases listed with ((first | aggs) | sort) | highlight
    · simp [mem_keys_queryEntry queried first]
    · simp [mem_keys_aggregationsEntry aggregated aggs]
    · simp [mem_keys_sortEntry sort]
    · simp [mem_keys_highlightEntry highlight]
  refine ⟨query ++ aggregations ++ d.sortEntry ++ d.highlightEntry, ?_, fun page => ?_, ?_, ?_⟩
  · simp only [furtherEntries, List.append_assoc]
  · refine body_eq_ok.mpr ⟨query, aggregations, queried, aggregated, ?_⟩
    simp only [furtherEntries, List.append_assoc]
    rfl
  · exact Object.get?_eq_none.mpr fun listed => absurd (named _ listed) (by decide)
  · exact Object.get?_eq_none.mpr fun listed => absurd (named _ listed) (by decide)

theorem get?_withWindow {d : Document} {page : Page} {body sent : Object}
    (compiled : d.body = .ok body) (windowed : (d.withWindow page).body = .ok sent) (key : String) :
    sent.get? key =
      if key = "from" then some (.int (page.size * (page.number - 1) : Nat))
      else if key = "size" then some (.int page.size) else body.get? key := by
  obtain ⟨front, rfl, same, offset, size⟩ := body_before_window compiled
  cases windowed.symm.trans (same page)
  rw [Object.get?_append, Object.get?_append, get?_windowEntries, get?_windowEntries]
  by_cases isOffset : key = "from"
  · subst isOffset
    rw [offset]
    rfl
  · by_cases isSize : key = "size"
    · subst isSize
      rw [size]
      rfl
    · simp [isOffset, isSize, window, Object.get?_cons, withWindow]

end Document

namespace Connection

/-- The one request of a search that is let through: by path when a document type is given. -/
def requestFor (target docType : Json) (body : Object) : Request :=
  if docType.truthy then .clientPost (searchPath target docType) body
  else .clientSearch target (renamed body)

theorem search_eq_exchanged {c : Connection} {index docType target : Json} {body : Object}
    (keys : body.keys.Sublist Document.bodyKeys) (resolved : c.resolve index = .ok target)
    (named : docType.truthy = true → target.truthy = true) :
    c.search index docType (.obj body) =
      c.exchanged target docType (requestFor target docType body) := by
  have parameters := parametersOf_eq_renamed keys
  unfold search requestFor
  rw [resolved]
  dsimp only
  split
  · rename_i typed
    exact post_eq_exchanged c (named typed) rfl
  · rw [← parameters]
    exact query_eq_exchanged c target docType (by rw [parameters]; exact free_of_body keys)

end Connection

/-- How a link sends a search that it lets through: what it has to send first, the request, and the
reply that is next. A managed connection lets a search through when its index has a name under the
tenant, there is an index if there is a document type, and there is a client to be had. -/
inductive Link.Sends (index docType : Option String) (body : Object) :
    Link → List Request → Request → Reply → Prop
  | direct (server : Server) (closable : Bool) :
      Sends index docType body (.direct server closable) [] (.search index docType body)
        server.next.1
  | managed {c : Connection} {target : Json} {server : Server}
      (resolved : c.resolve (.ofText? index) = .ok target)
      (named : (Json.ofText? docType).truthy = true → target.truthy = true)
      (opened : c.connect.result = .ok server) :
      Sends index docType body (.managed c) c.connect.report.requests
        (Connection.requestFor target (.ofText? docType) body) server.next.1

theorem Shaped.countable {answer : Json} {raw info : Object} {listed : List Json} {total : Nat}
    (shaped : Shaped answer raw info listed total) : answer.listsUncountable = false := by
  rw [shaped.isObject]
  simp only [Json.listsUncountable, shaped.hits, shaped.list]
  rfl

theorem Link.isCreation_of_sends {index docType : Option String} {body : Object} {l : Link}
    {before : List Request} {request : Request} {reply : Reply}
    (sends : Sends index docType body l before request reply) :
    ∀ other ∈ before, other.IsCreation := by
  cases sends with
  | direct => nofun
  | managed => exact fun _ => Connection.isCreation_of_connect

theorem Link.search_of_sends {index docType : Option String} {body : Object} {l : Link}
    {before : List Request} {request : Request} {reply : Reply}
    (keys : body.keys.Sublist Document.bodyKeys)
    (sends : Sends index docType body l before request reply) :
    (l.search index docType body).report.requests = before ++ [request] ∧
      ∀ payload raw info listed total, reply = .answer payload →
        Shaped payload.body raw info listed total →
        ∃ handed, (l.search index docType body).result = .ok handed ∧
          handed.body = payload.body := by
  cases sends with
  | direct server closable =>
    refine ⟨rfl, fun payload _ _ _ _ answered _ => ⟨payload, ?_, rfl⟩⟩
    simp only [search, answered]
  | @managed c target server resolved named opened =>
    have exchange := Connection.search_eq_exchanged keys resolved named
    simp only [search, exchange]
    refine ⟨(Connection.exchanged_of_ok opened _ _ _).2.2,
      fun payload _ _ _ _ answered shaped => ?_⟩
    obtain ⟨hits, counted⟩ := Connection.succeeds_hitCount shaped.countable
    refine ⟨.plain payload.body, ?_, rfl⟩
    rw [(Connection.exchanged_of_answer opened answered _ _ _).1, counted]
    rfl

namespace Search

theorem send_linked {s : Search} {w : World} {body : Object} (linked : w.link.isAbsent = false)
    (compiled : s.document.body = .ok body) :
    s.send w = (w.link.search s.index s.docType body).within w.withLink := by
  simp [send, linked, compiled]

theorem state_execute (s : Search) (w : World) : (s.execute w).state = (s.send w).state := by
  unfold execute
  refine Outcome.andThen_state fun payload state => ?_
  cases Result.ofPayload payload <;> rfl

theorem execute_of_payload {s : Search} {w : World} {payload : Payload} {result : Result}
    (answered : (s.send w).result = .ok payload) (read : Result.ofPayload payload = .ok result) :
    (s.execute w).result = .ok result := by
  rw [execute, Outcome.andThen_of_ok answered, read]

theorem paginate_of_means (s : Search) {w : World} {limit number : Json} {page : Page}
    (means : w.Means limit number page) :
    let paged := { w with pages := if number.isNull then w.pages.next.2 else w.pages }
    (s.paginate w limit number).report.requests =
        ((s.onPage page).execute paged).report.requests ∧
      (s.paginate w limit number).state =
        (((s.onPage page).execute paged).state, s.onPage page) ∧
      ∀ result, ((s.onPage page).execute paged).result = .ok result →
        (s.paginate w limit number).result = .ok ⟨page, result⟩ := by
  intro paged
  have asked : w.page limit number = (.ok page, paged) :=
    Prod.ext (World.page_eq_ok.mpr means)
      ((w.page_after limit number).trans (by rw [World.pagesAfter_of_means means]))
  unfold paginate
  rw [asked]
  refine ⟨Outcome.requests_andThen fun _ _ => rfl, Outcome.andThen_state fun _ _ => rfl, ?_⟩
  intro result executed
  dsimp only
  have within : (((s.onPage page).execute paged).within fun w => (w, s.onPage page)).result =
      .ok result := executed
  rw [Outcome.andThen_of_ok within]

/-- The page of the search is asked for with the body that is sent. -/
structure AsksFor (s : Search) (w : World) (limit number : Json) (body : Object) (page : Page)
    (sent : Object) : Prop where
  distinct : sent.keys.Nodup
  entries : ∀ key, sent.get? key =
    if key = "from" then some (.int (page.size * (page.number - 1) : Nat))
    else if key = "size" then some (.int page.size) else body.get? key
  compiles : View.body.of (s.paginate w limit number).state.2 = .ok (.obj sent)
  handed : (s.paginate w limit number).report.requests =
    (w.link.search s.index s.docType sent).report.requests
  world : (s.paginate w limit number).state.1 =
    { w with link := (w.link.search s.index s.docType sent).state,
             pages := if number.isNull then w.pages.next.2 else w.pages }
  once : ∀ before request reply,
    Link.Sends s.index s.docType sent w.link before request reply →
    (s.paginate w limit number).report.requests = before ++ [request] ∧
      ∀ other ∈ before, other.IsCreation
  answered : ∀ before request payload raw info listed total,
    Link.Sends s.index s.docType sent w.link before request (.answer payload) →
    Shaped payload.body raw info listed total → Converts raw listed →
    ∃ p : Paginator, (s.paginate w limit number).result = .ok p ∧ p.page = page ∧
      p.total = total ∧ p.result.hits.length = listed.length ∧
      (listed = [] → p.page.firstItem? listed.length = none ∧
        p.page.lastItem? listed.length = none) ∧
      (listed ≠ [] →
        p.page.firstItem? listed.length = some (page.size * (page.number - 1) + 1) ∧
        p.page.lastItem? listed.length =
          some (page.size * (page.number - 1) + listed.length))

theorem asksFor_of_means {s : Search} {w : World} {limit number : Json} {body : Object}
    {page : Page} (linked : w.link.isAbsent = false) (compiled : s.document.body = .ok body)
    (means : w.Means limit number page) : ∃ sent, s.AsksFor w limit number body page sent := by
  obtain ⟨sent, windowed⟩ := succeeds_body_onPage ⟨body, compiled⟩ page
  have keys := Document.keys_of_body windowed
  obtain ⟨requests, state, result⟩ := s.paginate_of_means means
  have handed := send_linked (s := s.onPage page)
    (w := { w with pages := if number.isNull then w.pages.next.2 else w.pages }) linked windowed
  have once : (s.paginate w limit number).report.requests =
      (w.link.search s.index s.docType sent).report.requests := by
    rw [requests, requests_execute, handed]
    rfl
  refine ⟨sent, ?_, Document.get?_withWindow compiled windowed, ?_, once, ?_, ?_, ?_⟩
  · have distinct : Document.bodyKeys.Nodup := by decide
    exact distinct.sublist keys
  · rw [state]
    exact (bind_eq_ok.mpr ⟨sent, windowed, rfl⟩)
  · rw [state, state_execute, handed]
    rfl
  · intro before request reply sends
    exact ⟨once.trans (Link.search_of_sends keys sends).1, Link.isCreation_of_sends sends⟩
  · intro before request payload raw info listed total sends shaped converts
    obtain ⟨given, answered, same⟩ := (Link.search_of_sends keys sends).2 _ _ _ _ _ rfl shaped
    rw [← same] at shaped
    obtain ⟨read, made, counted, _, length⟩ := Payload.succeeds_of_shaped shaped converts
    refine ⟨⟨page, read⟩, result read ?_, rfl, counted, length, ?_, ?_⟩
    · exact execute_of_payload ((congrArg Outcome.result handed).trans answered) made
    · rintro rfl
      exact ⟨rfl, rfl⟩
    · intro filled
      exact page.items_of_filled (mt List.length_eq_zero_iff.mp filled)

theorem paginate_of_meaningless {s : Search} {w : World} {limit number : Json}
    (meaningless : ¬ ∃ page, w.Means limit number page) :
    ∃ fault, s.paginate w limit number =
      ⟨.error (.argument fault), ({ w with pages := w.pagesAfter limit number }, s), .empty⟩ := by
  obtain ⟨fault, refused⟩ := World.page_refused meaningless
  have asked : w.page limit number =
      (.error (.argument fault), { w with pages := w.pagesAfter limit number }) :=
    Prod.ext refused (w.page_after limit number)
  refine ⟨fault, ?_⟩
  rw [paginate, asked]
  rfl

/-- A page that is meant is asked for in one request, with the body as it was but for the window of
the page, and its items are numbered on from the offset of the request. When no page is meant
nothing is sent and nothing is changed, apart from the page source having been asked. -/
theorem paginate_asks_once {s : Search} {w : World} {body : Object}
    (linked : w.link.isAbsent = false) (compiled : View.body.of s = .ok (.obj body))
    (limit number : Json) :
    (∀ page, w.Means limit number page → ∃ sent, s.AsksFor w limit number body page sent) ∧
      ((¬ ∃ page, w.Means limit number page) → ∃ fault, s.paginate w limit number =
        ⟨.error (.argument fault), ({ w with pages := w.pagesAfter limit number }, s),
          .empty⟩) := by
  obtain ⟨entries, written, same⟩ := bind_eq_ok.mp compiled
  cases same
  exact ⟨fun page => asksFor_of_means linked written, paginate_of_meaningless⟩

def unopened : Connection :=
  { Link.tenantConnection "acme" with
    client := none
    creations := .always
      ⟨[.answer (.wrapped (Connection.listing (.arr [.obj [("_id", .str "a")]])))]⟩ }

def resolvingWorld : World := ⟨.managed unopened, ⟨[.int 4, .bool true]⟩, .int 10⟩

def typedSearch : Search := { Search.fresh with index := some "orders", docType := some "doc" }

theorem paginate_asks_once_typed :
    resolvingWorld.link.isAbsent = false ∧ View.body.of typedSearch = .ok (.obj []) ∧
      (typedSearch.paginate resolvingWorld .null .null).report.requests =
        unopened.connect.report.requests ++
          [.clientPost "/acme_orders/doc/_search" [("from", .int 30), ("size", .int 10)]] ∧
      (∃ p : Paginator, (typedSearch.paginate resolvingWorld .null .null).result = .ok p ∧
        p.page.firstItem? 1 = some 31 ∧ p.page.lastItem? 1 = some 31) ∧
      (typedSearch.paginate resolvingWorld (.bool true) .null).state.1 = resolvingWorld := by
  have linked : resolvingWorld.link.isAbsent = false := rfl
  have compiled : View.body.of typedSearch = .ok (.obj []) := rfl
  obtain ⟨meant, _⟩ := paginate_asks_once linked compiled .null .null
  obtain ⟨sent, asks⟩ := meant ⟨10, 4, by decide, by decide⟩ ⟨rfl, rfl⟩
  have body : View.body.of (typedSearch.paginate resolvingWorld .null .null).state.2 =
      .ok (.obj [("from", .int 30), ("size", .int 10)]) := rfl
  cases body.symm.trans asks.compiles
  have resolved : unopened.resolve (.ofText? typedSearch.index) = .ok (.str "acme_orders") := rfl
  have sends : Link.Sends typedSearch.index typedSearch.docType
      [("from", .int 30), ("size", .int 10)] resolvingWorld.link _ _ _ :=
    .managed resolved (fun _ => rfl) rfl
  have shaped : Shaped (Connection.listing (.arr [.obj [("_id", .str "a")]])) _ _ _ 1 :=
    ⟨rfl, rfl, rfl, .inl rfl⟩
  obtain ⟨p, read, page, _, _, _, items⟩ := asks.answered _ _ _ _ _ _ _ sends shaped
    ⟨.inl ⟨_, rfl⟩, List.forall_mem_singleton.mpr ⟨_, rfl, .inl ⟨_, rfl⟩⟩⟩
  refine ⟨linked, compiled, (asks.once _ _ _ sends).1, ⟨p, read, items (List.cons_ne_nil _ _)⟩, ?_⟩
  obtain ⟨fault, same⟩ := (paginate_asks_once linked compiled (.bool true) .null).2 fun means => by
    obtain ⟨page, size, _⟩ := means
    cases size
  rw [same]
  rfl

end Search

end SearchRequest
