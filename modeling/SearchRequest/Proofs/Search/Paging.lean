import SearchRequest.Proofs.Search.Windows

/-!
Walks through the pages of a search. From the first page on, as long as there is a next one, the
walk comes to all hits once, and it comes back over the same pages.
-/

namespace SearchRequest

/-- Whatever the server gives next is an answer that can be read, with the total. -/
structure Server.Reports (total : Nat) (server : Server) : Prop where
  filled : server.upcoming ≠ []
  each : ∀ reply ∈ server.upcoming, ∃ payload result, reply = .answer payload ∧
    Result.ofPayload payload = .ok result ∧ result.summary.totalHits = total

theorem Server.Reports.next {server : Server} {total : Nat} (reports : server.Reports total) :
    (∃ payload result, server.next.1 = .answer payload ∧
      Result.ofPayload payload = .ok result ∧ result.summary.totalHits = total) ∧
      server.next.2.Reports total := by
  obtain ⟨upcoming⟩ := server
  obtain ⟨filled, each⟩ := reports
  match upcoming with
  | [] => exact absurd rfl filled
  | [last] => exact ⟨each last (List.mem_singleton_self last), filled, each⟩
  | first :: second :: rest =>
    obtain ⟨here, later⟩ := List.forall_mem_cons.mp each
    exact ⟨here, List.cons_ne_nil second rest, later⟩

namespace Paginator

def total (p : Paginator) : Nat := p.result.summary.totalHits

def next? (p : Paginator) : Option Nat := p.page.next? p.total

def previous? (p : Paginator) : Option Nat := p.page.previous?

end Paginator

/-- A page that was asked for, and what the search and its world were left as. -/
abbrev PageRead := Outcome (World × Search) Paginator

namespace PageRead

def paginator? (read : PageRead) : Option Paginator := read.result.toOption

def number? (read : PageRead) : Option Nat := read.paginator?.map (·.page.number)

def total? (read : PageRead) : Option Nat := read.paginator?.map (·.total)

def asked (walk : List PageRead) : List Window :=
  (walk.flatMap (·.report.windows)).filterMap id

end PageRead

namespace Search

/-- Reads one page after another, each time the one that the paginator of the last leads to, until
it leads to none, a page is not read, or so many are read. -/
def follow (turn : Paginator → Option Nat) (limit : Nat) :
    Nat → Option Nat → World × Search → List PageRead
  | 0, _, _ => []
  | _, none, _ => []
  | most + 1, some number, (w, s) =>
      let read : PageRead := s.paginate w (.int limit) (.int number)
      read :: follow turn limit most (read.paginator?.bind turn) read.state

def walk (s : Search) (w : World) (limit most : Nat) : List PageRead :=
  follow Paginator.next? limit most (some 1) (w, s)

def goBack (limit most : Nat) (last : PageRead) : List PageRead :=
  follow Paginator.previous? limit most (last.paginator?.bind Paginator.previous?) last.state

variable {turn : Paginator → Option Nat} {step : Nat → Option Nat} {limit total : Nat}

/-- When all pages come with the total, the numbers alone say which ones are read. -/
theorem follow_eq_trail (positive : 0 < limit)
    (turned : ∀ p : Paginator, p.page.size = limit → p.total = total →
      turn p = step p.page.number)
    (counted : ∀ number next, step number = some next → 0 < next) (most : Nat)
    (start : Option Nat) (startCounted : ∀ number, start = some number → 0 < number)
    (state : World × Search)
    (reported : ∀ read ∈ follow turn limit most start state, read.total? = some total) :
    (follow turn limit most start state).map PageRead.number? =
        (Page.trail step most start).map some ∧
      (follow turn limit most start state).map (·.report.windows) =
        (Page.trail step most start).map (fun number => [some (Window.ofPage limit number)]) ∧
      ∀ read ∈ follow turn limit most start state, ∀ p ∈ read.paginator?, p.page.size = limit := by
  induction most generalizing start state with
  | zero => exact ⟨rfl, rfl, fun read listed => absurd listed List.not_mem_nil⟩
  | succ most ih =>
    cases start with
    | none => exact ⟨rfl, rfl, fun read listed => absurd listed List.not_mem_nil⟩
    | some number =>
      obtain ⟨w, s⟩ := state
      have here : 0 < number := startCounted number rfl
      simp only [follow] at reported ⊢
      obtain ⟨first, rest⟩ := List.forall_mem_cons.mp reported
      cases done : (s.paginate w (.int limit) (.int number)).result with
      | error failure =>
        simp [PageRead.total?, PageRead.paginator?, done, Except.toOption] at first
      | ok p =>
        obtain ⟨page, asked⟩ := paginate_eq_ok positive here done
        have found : PageRead.paginator? (s.paginate w (.int limit) (.int number)) = some p := by
          simp [PageRead.paginator?, done, Except.toOption]
        have same : p.total = total := by
          simpa [PageRead.total?, found] using first
        -- The paginator leads on by the total that it was told, which is the same on every page.
        have led : (PageRead.paginator? (s.paginate w (.int limit) (.int number))).bind turn =
            step number := by
          rw [found, Option.bind_some, turned p (by rw [page]) same, page]
        rw [led] at rest ⊢
        obtain ⟨numbers, windows, sizes⟩ := ih (step number) (counted number) _ rest
        refine ⟨?_, ?_, List.forall_mem_cons.mpr ⟨fun p' same => ?_, sizes⟩⟩
        · simp only [List.map_cons, Page.trail, numbers, PageRead.number?, found, Option.map_some,
            page]
        · simp only [List.map_cons, Page.trail, windows, asked]
        · rw [found] at same
          cases same
          rw [page]

structure Reported (total : Nat) (s : Search) (w : World) : Prop where
  body : Succeeds s.document.body
  link : ∃ server closable, w.link = .direct server closable ∧ server.Reports total

theorem succeeds_body_onPage {s : Search} (written : Succeeds s.document.body) (page : Page) :
    Succeeds (s.onPage page).document.body := by
  obtain ⟨body, compiled⟩ := written
  obtain ⟨query, aggregations, queried, aggregated, _⟩ := Document.body_eq_ok.mp compiled
  exact ⟨_, Document.body_eq_ok.mpr ⟨query, aggregations, queried, aggregated, rfl⟩⟩

theorem execute_of_answer {s : Search} {w : World} {server : Server} {closable : Bool}
    {body : Object} {payload : Payload} {result : Result}
    (linked : w.link = .direct server closable)
    (compiled : s.document.body = .ok body) (answered : server.next.1 = .answer payload)
    (read : Result.ofPayload payload = .ok result) :
    (s.execute w).result = .ok result ∧
      (s.execute w).state = w.withLink (.direct server.next.2 closable) := by
  have sent : (s.send w).result = .ok payload ∧
      (s.send w).state = w.withLink (.direct server.next.2 closable) := by
    simp [send, linked, Link.isAbsent, compiled, Link.search, Outcome.within, answered]
  rw [execute, Outcome.andThen_of_ok sent.1]
  simp only [read, sent.2, and_self]

theorem Reported.paginate {s : Search} {w : World} {number : Nat} (reported : s.Reported total w)
    (positive : 0 < limit) (counted : 0 < number) :
    PageRead.total? (s.paginate w (.int limit) (.int number)) = some total ∧
      (s.paginate w (.int limit) (.int number)).state.2.Reported total
        (s.paginate w (.int limit) (.int number)).state.1 := by
  obtain ⟨written, server, closable, linked, reports⟩ := reported
  have kept := succeeds_body_onPage written ⟨limit, number, positive, counted⟩
  obtain ⟨body, compiled⟩ := kept
  obtain ⟨⟨payload, result, answered, read, same⟩, later⟩ := reports.next
  obtain ⟨executed, left⟩ := execute_of_answer linked compiled answered read
  unfold Search.paginate
  rw [World.page_of_counts w positive counted]
  simp only [Outcome.andThen, Outcome.within, executed, left]
  exact ⟨congrArg some same, ⟨body, compiled⟩, server.next.2, closable, rfl, later⟩

theorem total?_of_reported (positive : 0 < limit)
    (counted : ∀ p next, turn p = some next → 0 < next) (most : Nat) (start : Option Nat)
    (startCounted : ∀ number, start = some number → 0 < number) {state : World × Search}
    (reported : state.2.Reported total state.1) :
    ∀ read ∈ follow turn limit most start state, read.total? = some total := by
  induction most generalizing start state with
  | zero => exact fun read listed => absurd listed List.not_mem_nil
  | succ most ih =>
    cases start with
    | none => exact fun read listed => absurd listed List.not_mem_nil
    | some number =>
      obtain ⟨answered, later⟩ := reported.paginate positive (startCounted number rfl)
      refine List.forall_mem_cons.mpr ⟨answered, ih _ (fun next led => ?_) later⟩
      obtain ⟨p, _, turned⟩ := Option.bind_eq_some_iff.mp led
      exact counted p next turned

theorem walk_reported (positive : 0 < limit) {s : Search} {w : World}
    (reported : s.Reported total w) (most : Nat) :
    ∀ read ∈ s.walk w limit most, read.total? = some total := by
  refine total?_of_reported positive (fun p next led => ?_) most (some 1) (fun number first => ?_)
    reported
  · rw [Paginator.next?, Page.next?_eq_following] at led
    exact Page.following_pos led
  · cases first
    exact Nat.one_pos

/-- What a walk from the first page on has asked for, and what the way back leads over. -/
structure Covers (limit total most : Nat) (walk : List PageRead) : Prop where
  /-- No longer walk is had from asking for more pages than there are. -/
  length : walk.length = min most (Page.count limit total)
  numbers : walk.map PageRead.number? =
    ((List.range' 1 (Page.count limit total)).take most).map some
  once : walk.map (·.report.windows) =
    ((Window.upTo limit (Page.count limit total)).take most).map fun window => [some window]
  apart : (PageRead.asked walk).Pairwise fun a b => Disjoint (a.places total) (b.places total)
  covered : Page.count limit total ≤ most → ∀ place,
    (∃ window ∈ PageRead.asked walk, place ∈ window.places total) ↔ place < total
  ended : Page.count limit total ≤ most →
    ∀ last ∈ walk.getLast?, last.paginator?.bind Paginator.next? = none
  back : Page.count limit total ≤ most → ∀ last ∈ walk.getLast?, ∀ more,
    (∀ read ∈ goBack limit more last, read.total? = some total) →
      (last :: goBack limit more last).map PageRead.number? =
        ((List.range' 1 (Page.count limit total)).reverse.take (more + 1)).map some

theorem turned_next (p : Paginator) (size : p.page.size = limit) (same : p.total = total) :
    p.next? = Page.following (Page.count limit total) p.page.number := by
  rw [Paginator.next?, Page.next?_eq_following, size, same]

theorem walk_eq (positive : 0 < limit) {s : Search} {w : World} {most : Nat}
    (reported : ∀ read ∈ s.walk w limit most, read.total? = some total) :
    (s.walk w limit most).map PageRead.number? =
        ((List.range' 1 (Page.count limit total)).take most).map some ∧
      (s.walk w limit most).map (·.report.windows) =
        ((Window.upTo limit (Page.count limit total)).take most).map (fun window => [some window]) ∧
      ∀ read ∈ s.walk w limit most, ∀ p ∈ read.paginator?, p.page.size = limit := by
  have led := follow_eq_trail positive turned_next (fun _ _ => Page.following_pos) most (some 1)
    (fun number first => by cases first; omega) (w, s) reported
  rw [Page.trail_following (Page.count_pos limit total), Nat.add_sub_cancel] at led
  rw [Window.upTo, ← List.map_take, List.map_map]
  exact led

theorem next?_of_last {last : PageRead} (isLast : last.number? = some (Page.count limit total))
    (size : ∀ p ∈ last.paginator?, p.page.size = limit) (reported : last.total? = some total) :
    last.paginator?.bind Paginator.next? = none := by
  obtain ⟨p, found, number⟩ := Option.map_eq_some_iff.mp isLast
  have same : p.total = total := by
    simpa [PageRead.total?, found] using reported
  rw [found, Option.bind_some, turned_next p (size p found) same, number, Page.following,
    if_neg (Nat.lt_irrefl _)]

theorem goBack_eq (positive : 0 < limit) {last : PageRead} {number most : Nat}
    (counted : 0 < number) (isLast : last.number? = some number)
    (reported : ∀ read ∈ goBack limit most last, read.total? = some total) :
    (last :: goBack limit most last).map PageRead.number? =
      ((List.range' 1 number).reverse.take (most + 1)).map some := by
  obtain ⟨p, found, rfl⟩ := Option.map_eq_some_iff.mp isLast
  have turned (p : Paginator) (_ : p.page.size = limit) (_ : p.total = total) :
      p.previous? = Page.preceding p.page.number := rfl
  have start : last.paginator?.bind Paginator.previous? = Page.preceding p.page.number := by
    rw [found]
    rfl
  rw [goBack, start] at reported ⊢
  have led := follow_eq_trail positive turned (fun _ _ => Page.preceding_pos) most _
    (fun _ => Page.preceding_pos) last.state reported
  rw [← Page.trail_preceding counted, Page.trail, List.map_cons, List.map_cons, isLast, led.1]

/-- When all answers report one total, the walk over the pages asks for each of the hits once, in
as many requests as there are pages. -/
theorem walk_covers {s : Search} {w : World} {most : Nat} (positive : 0 < limit)
    (reported : ∀ read ∈ s.walk w limit most, read.total? = some total) :
    Covers limit total most (s.walk w limit most) := by
  obtain ⟨numbers, once, sizes⟩ := walk_eq positive reported
  have asked : PageRead.asked (s.walk w limit most) =
      (Window.upTo limit (Page.count limit total)).take most := by
    rw [PageRead.asked, List.flatMap_def, once, ← List.flatMap_def, List.filterMap_flatMap]
    exact List.flatMap_singleton' _
  have lastNumber (enough : Page.count limit total ≤ most) (last : PageRead)
      (isLast : (s.walk w limit most).getLast? = some last) :
      last.number? = some (Page.count limit total) := by
    have same := congrArg List.getLast? numbers
    rw [List.take_of_length_le (by simpa using enough), List.getLast?_map, isLast,
      List.getLast?_map, List.getLast?_range', if_neg (Page.count_pos limit total).ne'] at same
    simpa using same
  refine ⟨?_, numbers, once, ?_, ?_, ?_, ?_⟩
  · simpa using congrArg List.length numbers
  · rw [asked]
    exact (Window.pairwise_disjoint_upTo positive _ total).sublist (List.take_sublist _ _)
  · intro enough place
    rw [asked, List.take_of_length_le (by simpa [Window.upTo] using enough)]
    exact Window.exists_mem_upTo positive (Page.le_mul_count positive total) place
  · intro enough last isLast
    have member := List.mem_of_getLast? isLast
    exact next?_of_last (lastNumber enough last isLast) (sizes last member) (reported last member)
  · intro enough last isLast more backReported
    exact goBack_eq positive (Page.count_pos limit total) (lastNumber enough last isLast)
      backReported

def finding (total : Nat) : World :=
  ⟨.direct
    ⟨[.answer (.plain (Object.only "hits" (.obj [("total", .int total), ("hits", .arr [])])))]⟩
    false, ⟨[]⟩, World.usualPageSize⟩

theorem reported_finding (total : Nat) : fresh.Reported total (finding total) := by
  refine ⟨⟨[], rfl⟩, _, _, rfl, List.cons_ne_nil _ _, fun reply listed => ?_⟩
  exact ⟨_, _, List.mem_singleton.mp listed, rfl, rfl⟩

theorem walk_covers_five : Covers 2 5 4 (fresh.walk (finding 5) 2 4) :=
  walk_covers (by decide) (walk_reported (by decide) (reported_finding 5) 4)

end Search

end SearchRequest
