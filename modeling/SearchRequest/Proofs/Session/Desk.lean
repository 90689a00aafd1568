import Mathlib.Data.List.Forall2
import SearchRequest.Proofs.Search.Parallel
import SearchRequest.Proofs.Session.Scope

/-!
Any number of builders in one session. Each is at hand under a name, and steps on them are taken in
any order, between steps on the session and on its connection. Over links that answer alike the same
steps come to the same, whatever the logs of the sessions let be seen of them.
-/

namespace SearchRequest

inductive Held
  | builder (builder : Builder)
  | scoring (scoring : Scoring)

/-- A session with all that was opened in it, under names. -/
structure Desk where
  session : Session
  held : String → Option Held

inductive DeskStep
  | session (name : String) (t : SessionStep)
  /-- Begins a scoring, of the query that a search under another name has. -/
  | rate (name source : String) (parameters : Json)
  | score (name : String) (call : Json)
  | connection (t : ConnectionStep)

namespace Desk

def put (d : Desk) (name : String) (h : Held) : Desk :=
  { d with held := fun other => if other = name then some h else d.held other }

def withWorld (d : Desk) (w : World) : Desk := { d with session := { d.session with world := w } }

def turned (d : Desk) (name : String) : Session :=
  match d.held name with
  | some (.builder b) => { d.session with builder := some b }
  | _ => { d.session with builder := none }

def keep (d : Desk) (name : String) (s : Session) : Desk :=
  match s.builder with
  | some b => { d with session := s }.put name (.builder b)
  | none => { d with session := s }

end Desk

def Outcome.answered {σ : Type} (o : Outcome σ Json) : Outcome σ Answer :=
  ⟨o.result.map .value, o.state, o.report⟩

namespace DeskStep

def act (t : DeskStep) (d : Desk) : Outcome Desk Answer :=
  match t with
  | .session name t => ((d.turned name).act t).within (d.keep name)
  | .rate name source parameters => match d.held source with
      | some (.builder (.search s)) =>
          match Scoring.start s.document.query parameters with
          | .error failure => .fail d failure
          | .ok scoring => .succeed (d.put name (.scoring scoring)) .nothing
      | _ => .fail d .noOperation
  | .score name call => match d.held name with
      | some (.scoring s) =>
          ((ScoreStep.ofJson call).run d.session.world s).within fun state =>
            (d.withWorld state.1).put name (.scoring state.2)
      | _ => .fail d .noOperation
  | .connection t =>
      ((d.session.world.link.act t).within fun link =>
        d.withWorld (d.session.world.withLink link)).answered

def run (t : DeskStep) (d : Desk) : Outcome Desk Answer :=
  Session.logged d.session.settings (t.act d)

/-- Steps on the session are the session's own. -/
theorem run_session (name : String) (t : SessionStep) (d : Desk) :
    (session name t).run d = ((d.turned name).step t).within (d.keep name) := by
  have own : (d.turned name).settings = d.session.settings := by
    unfold Desk.turned
    split <;> rfl
  rw [run, act, Session.step, own]
  rfl

theorem run_connection (t : ConnectionStep) (d : Desk) :
    (connection t).run d =
      ((d.session.onConnection t).within fun s => { d with session := s }).answered := by
  obtain ⟨⟨settings, ⟨link, pages, size⟩, builder⟩, held⟩ := d
  cases link <;> rfl

end DeskStep

/-- The sessions stand alike, one with the first settings and one with the second. -/
structure Session.Alike (R : Link → Link → Prop) (a b : Settings) (s t : Session) : Prop where
  own : s.settings = a
  other : t.settings = b
  world : s.world.Alike R t.world
  builder : s.builder = t.builder

structure Desk.Alike (R : Link → Link → Prop) (a b : Settings) (d e : Desk) : Prop where
  own : d.session.settings = a
  other : e.session.settings = b
  world : d.session.world.Alike R e.session.world
  held : d.held = e.held

/-- The outcomes are one and the same, each as the log of its session lets it be seen. -/
structure Desk.Screened (E : Event → Bool) (a b : Threshold) (o p : Outcome Desk Answer) :
    Prop where
  result : o.result = p.result
  held : o.state.held = p.state.held
  report : ∃ whole : Report, (∀ e ∈ whole.events, E e = true) ∧
    o.report = whole.above a ∧ p.report = whole.above b

namespace Desk.Alike

variable {R : Link → Link → Prop} {a b : Settings} {d e : Desk}

theorem put (alike : d.Alike R a b e) (name : String) (h : Held) :
    (d.put name h).Alike R a b (e.put name h) where
  own := alike.own
  other := alike.other
  world := alike.world
  held := by rw [Desk.put, Desk.put, alike.held]

theorem withWorld (alike : d.Alike R a b e) {w v : World} (related : w.Alike R v) :
    (d.withWorld w).Alike R a b (e.withWorld v) :=
  ⟨alike.own, alike.other, related, alike.held⟩

theorem turned (alike : d.Alike R a b e) (name : String) :
    (d.turned name).Alike R a b (e.turned name) := by
  unfold Desk.turned
  rw [alike.held]
  split <;> exact ⟨alike.own, alike.other, alike.world, rfl⟩

theorem keep (alike : d.Alike R a b e) (name : String) {s t : Session} (related : s.Alike R a b t) :
    (d.keep name s).Alike R a b (e.keep name t) := by
  have opened : ({ d with session := s } : Desk).Alike R a b { e with session := t } :=
    ⟨related.own, related.other, related.world, alike.held⟩
  unfold Desk.keep
  rw [related.builder]
  split
  · exact opened.put name _
  · exact opened

end Desk.Alike

section Steps

variable {R : Link → Link → Prop} {E : Event → Bool} (links : Link.Parallel R E) {a b : Settings}

include links

theorem Session.act_matches {s t : Session} (alike : s.Alike R a b t) (step : SessionStep) :
    (s.act step).Matches (Session.Alike R a b) E (t.act step) := by
  cases step with
  | openSearch => exact .succeed ⟨alike.own, alike.other, alike.world, rfl⟩
  | openAggregations => exact .succeed ⟨alike.own, alike.other, alike.world, rfl⟩
  | close =>
    have closed : (s.world.link.close.within fun link =>
          { s with world := s.world.withLink link }).Matches (Session.Alike R a b) E
        (t.world.link.close.within fun link => { t with world := t.world.withLink link }) :=
      (links.close alike.world.link).within fun _ _ related =>
        ⟨alike.own, alike.other, alike.world.withLink related, alike.builder⟩
    exact closed.andThen fun _ _ _ related => .succeed related
  | abort message => exact .fail alike
  | onBuilder call =>
    simp only [act, onBuilder, alike.builder]
    cases t.builder with
    | none => exact .fail alike
    | some builder =>
      cases builder with
      | search search =>
        refine ((steps_parallel links).1 _ _ _ search alike.world).within fun _ _ related => ?_
        exact ⟨alike.own, alike.other, related.1, congrArg (some ∘ Builder.search) related.2⟩
      | aggregations document =>
        exact ⟨rfl, ⟨alike.own, alike.other, alike.world, rfl⟩, rfl,
          AggregationStep.run_logs links.others _ document⟩

namespace DeskStep

variable {d e : Desk}

theorem act_matches (alike : d.Alike R a b e) (t : DeskStep) :
    (t.act d).Matches (Desk.Alike R a b) E (t.act e) := by
  cases t with
  | session name t =>
    exact (Session.act_matches links (alike.turned name) t).within fun _ _ => alike.keep name
  | rate name source parameters =>
    simp only [act, alike.held]
    split
    · rename_i search _
      cases Scoring.start search.document.query parameters with
      | error failure => exact .fail alike
      | ok scoring => exact .succeed (alike.put name _)
    · exact .fail alike
  | score name call =>
    simp only [act, alike.held]
    split
    · rename_i scoring _
      refine ((steps_parallel links).2 _ _ _ scoring alike.world).within fun s t related => ?_
      rw [← related.2]
      exact (alike.withWorld related.1).put name _
    · exact .fail alike
  | connection t =>
    have done : ((d.session.world.link.act t).within fun link =>
          d.withWorld (d.session.world.withLink link)).Matches (Desk.Alike R a b) E
        ((e.session.world.link.act t).within fun link =>
          e.withWorld (e.session.world.withLink link)) :=
      (links.act alike.world.link t).within fun _ _ related =>
        alike.withWorld (alike.world.withLink related)
    exact ⟨congrArg (Except.map Answer.value) done.result, done.state, done.report, done.logs⟩

theorem run_screened (alike : d.Alike R a b e) (t : DeskStep) :
    Desk.Screened E a.threshold b.threshold (t.run d) (t.run e) := by
  have acted := act_matches links alike t
  refine ⟨acted.result, acted.state.held, (t.act d).report, acted.logs, ?_, ?_⟩
  · rw [← alike.own]
    rfl
  · rw [← alike.other, acted.report]
    rfl

theorem each_screened (alike : d.Alike R a b e) (steps : List DeskStep) :
    List.Forall₂ (Desk.Screened E a.threshold b.threshold) (Outcome.each run steps d)
      (Outcome.each run steps e) := by
  induction steps generalizing d e with
  | nil => exact .nil
  | cons t rest ih =>
    -- A log takes events away from the report alone, so what it drops is in no later state.
    exact .cons (run_screened links alike t) (ih (act_matches links alike t).state)

end DeskStep

end Steps

end SearchRequest
