import SearchRequest.Connection.Link
import SearchRequest.Result.Page
import SearchRequest.Search.Basic

/-!
Sending a search. A search is sent from a world: the link to a cluster, the source of page
numbers that are not given, and the page size to fall back on. A sub-search is built in the world
of the search it belongs to.
-/

namespace SearchRequest

/-- Page numbers to resolve to in turn; the last one is repeated. -/
structure PageSource where
  upcoming : List Json
deriving DecidableEq, Repr

namespace PageSource

/-- The first page is taken when there is nothing to resolve to. -/
def next (p : PageSource) : Json × PageSource :=
  match p.upcoming with
  | [] => (.int 1, p)
  | [last] => (last, p)
  | first :: rest => (first, ⟨rest⟩)

end PageSource

structure World where
  link : Link
  pages : PageSource
  defaultPageSize : Json
deriving DecidableEq, Repr

namespace World

def usualPageSize : Json := .int 25

def isolated : World := ⟨.absent, ⟨[]⟩, usualPageSize⟩

def withLink (w : World) (link : Link) : World := { w with link := link }

/-- The page that is meant; its number is resolved only when a size is accepted. -/
def page (w : World) (limit number : Json) : Except Failure Page × World :=
  let size := if limit.isNull then w.defaultPageSize else limit
  match Page.counted? size with
  | none => (.error (.argument (.limit size)), w)
  | some size =>
      let (number, pages) := if number.isNull then w.pages.next else (number, w.pages)
      let after := { w with pages := pages }
      match Page.counted? number with
      | none => (.error (.argument (.page number)), after)
      | some number => (.ok (Page.ofCounts size number), after)

end World

inductive Answer
  | nothing
  | result (result : Result)
  | paginator (paginator : Paginator)
  | payload (payload : Payload)
  | value (value : Json)
  /-- A clause that is handed out, by what is written for it. -/
  | clause (written : Except Failure Json)

namespace Search

def send (s : Search) (w : World) : Outcome World Payload :=
  if w.link.isAbsent then .fail w .disconnected
  else match s.document.body with
    | .error failure => .fail w failure
    | .ok body => (w.link.search s.index s.docType body).within w.withLink

def execute (s : Search) (w : World) : Outcome World Result :=
  (s.send w).andThen fun payload w =>
    match Result.ofPayload payload with
    | .error failure => .fail w failure
    | .ok result =>
        ⟨.ok result, w,
          .ofEvent (.searchExecuted s.index result.summary.totalHits result.hits.length)⟩

def onPage (s : Search) (page : Page) : Search :=
  (s.apply (.offset page.offset)).apply (.size page.size)

/-- Executes the search on one page; the window stays also when the execution fails. -/
def paginate (s : Search) (w : World) (limit number : Json) :
    Outcome (World × Search) Paginator :=
  match w.page limit number with
  | (.error failure, w) => .fail (w, s) failure
  | (.ok page, w) =>
      let s := s.onPage page
      ((s.execute w).within fun w => (w, s)).andThen fun result state =>
        ⟨.ok ⟨page, result⟩, state,
          .ofEvent (.pageRead page.number page.size result.summary.totalHits)⟩

end Search

end SearchRequest
