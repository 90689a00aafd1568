import SearchRequest.Search.Reader
import SearchRequest.Settings.Store
import SearchRequest.Trace.LogSetup

/-!
A session: settings, the world that its searches are sent from, and the builder at work. Its log
is set up from the settings, so events below their level are dropped and nothing else changes.
-/

namespace SearchRequest

inductive Builder
  | search (search : Search)
  | aggregations (document : Document)

structure Session where
  settings : Settings
  world : World
  builder : Option Builder

inductive SessionStep
  | openSearch
  | openAggregations
  | close
  | abort (message : String)
  /-- A step on the builder, which gives it a meaning. -/
  | onBuilder (call : Json)

namespace Builder

def snapshot : Builder → Snapshot
  | .search s => s.snapshot
  | .aggregations d => d.aggregationSnapshot

end Builder

namespace Session

def start (settings : Settings) (link : Link) (pages : PageSource) : Session :=
  ⟨settings, ⟨link, pages, .int settings.defaultPageSize⟩, none⟩

def ownLink (settings : Settings) (creations : Creations) : Link :=
  .managed ⟨settings, none, creations⟩

def opened (s : Session) (builder : Builder) : Session := { s with builder := some builder }

def onBuilder (s : Session) (call : Json) : Outcome Session Answer :=
  match s.builder with
  | none => .fail s .noOperation
  | some (.search search) =>
      ((SearchStep.ofJson call).run s.world search).within fun state =>
        { s with world := state.1, builder := some (.search state.2) }
  | some (.aggregations document) =>
      ((AggregationStep.ofJson call).run document).within fun document =>
        { s with builder := some (.aggregations document) }

def closeLink (s : Session) : Outcome Session Answer :=
  let o := s.world.link.close.within fun link => { s with world := s.world.withLink link }
  o.andThen fun _ s => .succeed s .nothing

def act (s : Session) : SessionStep → Outcome Session Answer
  | .openSearch => .succeed (s.opened (.search .fresh)) .nothing
  | .openAggregations => .succeed (s.opened (.aggregations .empty)) .nothing
  | .close => s.closeLink
  | .abort message => .fail s (.foreign message)
  | .onBuilder call => s.onBuilder call

def logged {σ α : Type} (settings : Settings) (o : Outcome σ α) : Outcome σ α :=
  { o with report := o.report.above settings.threshold }

def step (s : Session) (t : SessionStep) : Outcome Session Answer := logged s.settings (s.act t)

/-- What a run of steps leaves: the outcomes in order, the session, and what ended it early. -/
structure Run where
  outcomes : List (Outcome Session Answer)
  session : Session
  failed : Option Failure

def canTake (s : Session) : SessionStep → Bool
  | .onBuilder _ => s.builder.isSome
  | _ => true

/-- Runs steps. An abort ends the run and leaves no outcome; a step that cannot be taken leaves
nothing of the run. -/
def run (s : Session) : List SessionStep → Except Failure Run
  | [] => .ok ⟨[], s, none⟩
  | .abort message :: _ => .ok ⟨[], s, some (.foreign message)⟩
  | t :: rest =>
      if s.canTake t then do
        let o := s.step t
        let later ← o.state.run rest
        .ok { later with outcomes := o :: later.outcomes }
      else .error .noOperation

def leave (s : Session) : Outcome Session Answer := s.step .close

end Session

namespace SessionStep

/-- A builder is opened by a name without arguments; with them the name is one of the builder's. -/
def ofJson (step : Json) : SessionStep :=
  let entries := Call.entriesOf step
  match (Call.ofJson step).name, entries.has "args" with
  | "search", false => .openSearch
  | "aggregation", false => .openAggregations
  | "close", _ => .close
  | "raise", _ => .abort (Call.messageOf entries)
  | _, _ => .onBuilder step

end SessionStep

end SearchRequest
