import SearchRequest.Proofs.Connection.Level
import SearchRequest.Proofs.Session.Desk

/-!
Sessions at different log levels. The level decides what is logged and nothing else: every step
comes to the same at every level, and the log at one level is what the log at a lower one has at or
above it. Above the lowest level nothing is logged but what a connection logs.
-/

namespace SearchRequest

theorem Report.above_above {a b : Threshold} (lower : b.rank ≤ a.rank) (r : Report) :
    (r.above b).above a = r.above a := by
  have both (e : Event) : (a.lets e.level && b.lets e.level) = a.lets e.level := by
    simp only [Threshold.lets, ← Bool.decide_and]
    exact decide_eq_decide.mpr (and_iff_left_of_imp fun above => Nat.le_trans lower above)
  simp only [above, List.filter_filter, both]

/-- What a session is opened over: the clients of a connection of its own, or a link that is handed
in. -/
inductive Session.Base
  | own (creations : Creations)
  | given (link : Link)

def Session.Base.link (settings : Settings) : Session.Base → Link
  | .own creations => Session.ownLink settings creations
  | .given link => link

namespace Desk

def start (settings : Settings) (base : Session.Base) (pages : PageSource) : Desk :=
  ⟨.start settings (base.link settings) pages, fun _ => none⟩

structure Seen where
  result : Except Failure Answer
  held : String → Option Held
  requests : List Request
  snapshots : List Snapshot

def seen (o : Outcome Desk Answer) : Seen :=
  ⟨o.result, o.state.held, o.report.requests, o.report.snapshots⟩

def lines (outcomes : List (Outcome Desk Answer)) : List LogLine :=
  (outcomes.flatMap fun o => o.report.events).map Event.line

theorem written_lines (setup : LogSetup) (outcomes : List (Outcome Desk Answer)) :
    setup.written (lines outcomes) =
      (outcomes.flatMap fun o =>
        o.report.events.filter fun e => setup.threshold.lets e.level).map Event.line := by
  rw [LogSetup.written, lines, List.filter_map, List.filter_flatMap]
  rfl

theorem start_alike (settings : Settings) (level : LogLevel) (base : Session.Base)
    (pages : PageSource) :
    (start (settings.atLevel level) base pages).Alike Link.SameButLevel (settings.atLevel level)
      settings (start settings base pages) := by
  have related : Link.SameButLevel (base.link (settings.atLevel level)) (base.link settings) := by
    cases base with
    | own creations => exact .managed ⟨settings, none, creations⟩ level
    | given link => exact .refl link
  exact ⟨rfl, rfl, ⟨related, rfl⟩, rfl⟩

namespace Screened

variable {E : Event → Bool} {a b : Threshold} {o p : Outcome Desk Answer}

theorem seen (screened : Screened E a b o p) : Desk.seen o = Desk.seen p := by
  obtain ⟨whole, _, first, second⟩ := screened.report
  rw [Desk.seen, Desk.seen, screened.result, screened.held, first, second]
  rfl

theorem report_above (screened : Screened E a b o p) (lower : b.rank ≤ a.rank) :
    o.report = p.report.above a := by
  obtain ⟨whole, _, first, second⟩ := screened.report
  rw [first, second, Report.above_above lower]

/-- All events but those of connections are at the lowest level, and dropped above it. -/
theorem silent (screened : Screened (fun e => !e.ofConnection) a b o p)
    (raised : Level.info.rank ≤ a.rank) : o.report.events = [] := by
  obtain ⟨whole, own, first, _⟩ := screened.report
  rw [first]
  refine List.filter_eq_nil_iff.mpr fun e listed passed => ?_
  have low : e.level = .debug := by
    have other := own e listed
    cases e <;> first | rfl | cases other
  rw [low, Threshold.lets, decide_eq_true_iff] at passed
  exact absurd (Nat.le_trans raised passed) (by decide)

end Screened

theorem map_eq_of_screened {α : Type} {E : Event → Bool} {a b : Threshold}
    {f g : Outcome Desk Answer → α} {outcomes others : List (Outcome Desk Answer)}
    (each : List.Forall₂ (Screened E a b) outcomes others)
    (same : ∀ o p, Screened E a b o p → f o = g p) : outcomes.map f = others.map g := by
  rw [← List.forall₂_eq_eq_eq, List.forall₂_map_left_iff, List.forall₂_map_right_iff]
  exact each.imp same

/-- The level of the log decides what is logged and nothing else. In sessions over the same link,
with settings that differ in their level alone, every step comes to the same, and of what is logged
at the lower level each step logs what is at or above the higher one. Over a link that logs nothing
itself, nothing is logged above the lowest level. -/
theorem level_only_filters :
    (∀ (one other : Settings) (base : Session.Base) (pages : PageSource) (steps : List DeskStep),
      one = other.atLevel one.logLevel →
      let first := Outcome.each DeskStep.run steps (start one base pages)
      let second := Outcome.each DeskStep.run steps (start other base pages)
      first.map seen = second.map seen ∧
      (other.threshold.rank ≤ one.threshold.rank →
        (first.map fun o => o.report.events) =
          (second.map fun o => o.report.events.filter fun e => one.threshold.lets e.level) ∧
        lines first = (LogSetup.ofSettings one).written (lines second))) ∧
    ∀ (settings : Settings) (link : Link) (pages : PageSource) (steps : List DeskStep),
      link.isManaged = false → Level.info.rank ≤ settings.threshold.rank →
      ∀ o ∈ Outcome.each DeskStep.run steps (start settings (.given link) pages),
        o.report.events = [] := by
  refine ⟨fun one other base pages steps same => ?_, ?_⟩
  · have alike := start_alike other one.logLevel base pages
    rw [← same] at alike
    have each := DeskStep.each_screened Link.parallel_sameButLevel alike steps
    refine ⟨map_eq_of_screened each fun _ _ screened => screened.seen, fun lower => ?_⟩
    have events : (Outcome.each DeskStep.run steps (start one base pages)).map
          (fun o => o.report.events) =
        (Outcome.each DeskStep.run steps (start other base pages)).map
          fun o => o.report.events.filter fun e => one.threshold.lets e.level :=
      map_eq_of_screened each fun _ _ screened =>
        congrArg Report.events (screened.report_above lower)
    refine ⟨events, ?_⟩
    rw [written_lines, lines, List.flatMap_def, List.flatMap_def, events]
    rfl
  -- A link that logs nothing itself is compared with itself, at one level.
  · intro settings link pages steps other raised o listed
    have alike : (start settings (.given link) pages).Alike
        (fun l m => l = m ∧ l.isManaged = false) settings settings
        (start settings (.given link) pages) := ⟨rfl, rfl, ⟨⟨rfl, other⟩, rfl⟩, rfl⟩
    have each := DeskStep.each_screened Link.parallel_unmanaged alike steps
    exact (List.forall₂_same.mp each o listed).silent raised

def asking : List DeskStep :=
  [.session "s" .openSearch,
   .session "s" (.onBuilder (.obj [("call", .str "execute"), ("args", .obj [])])),
   .connection (.ping []), .session "s" .close]

theorem level_only_filters_unanswered :
    let settings := (Link.tenantConnection "acme").settings
    let down : Session.Base := .own (.always ⟨[.failure (.transport .connection "down")]⟩)
    let all := Outcome.each DeskStep.run asking (start settings down ⟨[]⟩)
    let warnings := Outcome.each DeskStep.run asking (start (settings.atLevel .warning) down ⟨[]⟩)
    lines all = [(Event.clientCreated settings.hostList 3).line,
        (Event.searchFailed .null .null "down").line, (Event.pingFailed "down").line,
        Event.clientClosed.line] ∧
      lines warnings =
        [(Event.searchFailed .null .null "down").line, (Event.pingFailed "down").line] ∧
      warnings.map seen = all.map seen ∧
      ∀ o ∈ Outcome.each DeskStep.run asking
        (start (settings.atLevel .info) (.given (.direct ⟨[]⟩ true)) ⟨[]⟩),
        o.report.events = [] := by
  intro settings down all warnings
  obtain ⟨filters, silent⟩ := level_only_filters
  obtain ⟨same, events⟩ := filters (settings.atLevel .warning) settings down ⟨[]⟩ asking rfl
  have logged : lines all = [(Event.clientCreated settings.hostList 3).line,
      (Event.searchFailed .null .null "down").line, (Event.pingFailed "down").line,
      Event.clientClosed.line] := rfl
  refine ⟨logged, ?_, same, silent _ _ _ _ rfl (by decide)⟩
  have filtered := (events (by decide)).2
  rw [filtered]
  rfl

end Desk

end SearchRequest
