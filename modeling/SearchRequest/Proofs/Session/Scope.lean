import SearchRequest.Proofs.Connection.Lifecycle
import SearchRequest.Proofs.Search.Asking
import SearchRequest.Proofs.Session.Clients
import SearchRequest.Proofs.Settings.Overriding

/-!
A block with a session of its own. Whatever is done in it, the session keeps its settings, its
clients are created from them, and the client that is open when the block is left is closed,
whether the block ends or fails.
-/

namespace SearchRequest

/-- What is done in a session: steps on it and on its connection, each chosen by what came of those
before it, up to the end or to an error. -/
inductive Session.Body
  | done
  | raise (failure : Failure)
  | step (t : SessionStep) (next : Except Failure Answer → Body)
  | connection (t : ConnectionStep) (next : Except Failure Json → Body)

namespace Session

def onConnection (s : Session) (t : ConnectionStep) : Outcome Session Json :=
  match s.world.link with
  | .managed c =>
      logged s.settings
        ((t.run c).within fun c => { s with world := s.world.withLink (.managed c) })
  | _ => .fail s .noOperation

namespace Body

def run : Body → Session → Outcome Session Unit
  | .done, s => .succeed s ()
  | .raise failure, s => .fail s failure
  | .step t next, s =>
      let o := s.step t
      ((next o.result).run o.state).noting o.report
  | .connection t next, s =>
      let o := s.onConnection t
      ((next o.result).run o.state).noting o.report

/-- Steps that are taken whatever comes of those before them, up to one that leaves the session. -/
def ofSteps : List SessionStep → Body
  | [] => .done
  | .abort message :: _ => .raise (.foreign message)
  | t :: rest => .step t fun _ => ofSteps rest

end Body

/-- Runs a body and leaves the session, whether the body ends or fails. -/
def use (s : Session) (body : Body) : Outcome Session Unit :=
  let inside := body.run s
  let left := inside.state.leave
  ⟨left.result >>= fun _ => inside.result, left.state, inside.report ++ left.report⟩

end Session

def SettingsStore.use (store : SettingsStore) (args : Object) (creations : Creations)
    (pages : PageSource) (body : Session.Body) :
    Except Failure (Outcome Session Unit) × SettingsStore :=
  match Overrides.ofArguments args with
  | .error failure => (.error failure, store)
  | .ok overrides =>
      let (session, store) := Session.overriding store overrides creations pages
      (session.map fun s => s.use body, store)

namespace Session

/-- The session has the settings, over a connection of its own that has them too. -/
structure Holds (settings : Settings) (s : Session) (c : Connection) : Prop where
  own : s.settings = settings
  link : s.world.link = .managed c
  configured : c.settings = settings

/-- The outcome leaves such a session. Its requests fit the clients before it and tell what they are
now, and each client that was to be created is given what the settings say. -/
structure Stays {α : Type} (settings : Settings) (before : Clients) (o : Outcome Session α)
    (c : Connection) : Prop where
  holds : Holds settings o.state c
  fits : before.through o.report.requests = some c.clients
  creations : ∀ request ∈ o.report.requests,
    request.ConnectsWith (Connection.clientParameters settings)

variable {settings : Settings} {s : Session} {c : Connection}

theorem Holds.opened (holds : Holds settings s c) (builder : Builder) :
    Holds settings (s.opened builder) c :=
  ⟨holds.own, holds.link, holds.configured⟩

theorem Holds.stays_of_silent {α : Type} {o : Outcome Session α}
    (holds : Holds settings o.state c) (silent : o.report.requests = []) :
    Stays settings c.clients o c :=
  ⟨holds, by rw [silent]; rfl, by rw [silent]; exact nofun⟩

theorem Holds.stays_of_connection {α β : Type} {o : Outcome Session α} {p : Outcome Connection β}
    (holds : Holds settings s c) (lives : p.Lives c)
    (creates : Connection.Creates settings p) (own : o.state.settings = s.settings)
    (link : o.state.world.link = .managed p.state)
    (requests : o.report.requests = p.report.requests) :
    Stays settings c.clients o p.state where
  holds := ⟨own.trans holds.own, link, creates.state⟩
  fits := by rw [requests]; exact lives
  creations := by rw [requests]; exact creates.requests

theorem Stays.noting {α β : Type} {before : Clients} {o : Outcome Session α}
    {p : Outcome Session β} {last : Connection} (first : Stays settings before o c)
    (second : Stays settings c.clients p last) :
    Stays settings before (p.noting o.report) last where
  holds := second.holds
  fits := Clients.through_append.mpr ⟨c.clients, first.fits, second.fits⟩
  creations request sent :=
    (List.mem_append.mp sent).elim (first.creations request) (second.creations request)

theorem asked_stays (asked : List Inquiry) (c : Connection) :
    ∃ last : Connection, (Link.managed c).after asked = .managed last ∧
      last.settings = c.settings ∧
      c.clients.through ((Link.managed c).sent asked) = some last.clients ∧
      ∀ request ∈ (Link.managed c).sent asked,
        request.ConnectsWith (Connection.clientParameters c.settings) := by
  induction asked generalizing c with
  | nil => exact ⟨c, rfl, rfl, rfl, nofun⟩
  | cons q rest ih =>
    let o := c.search (.ofText? q.index) (.ofText? q.docType) (.obj q.body)
    have lives : o.Lives c := c.search_lives _ _ _
    have creates : Connection.Creates c.settings o := Connection.search_creates rfl _ _ _
    obtain ⟨last, after, same, fits, creations⟩ := ih o.state
    have own : o.state.settings = c.settings := creates.state
    refine ⟨last, after, same.trans own, Clients.through_append.mpr ⟨_, lives, fits⟩, ?_⟩
    intro request sent
    rcases List.mem_append.mp sent with first | later
    · exact creates.requests request first
    · rw [← own]
      exact creations request later

theorem onBuilder_stays (holds : Holds settings s c) (call : Json) :
    ∃ last, Stays settings c.clients (s.onBuilder call) last := by
  unfold onBuilder
  split
  · exact ⟨c, Holds.stays_of_silent holds rfl⟩
  · rename_i search _
    have asks := (SearchStep.ofJson call).inquiring s.world search
    have requests := asks.requests
    have link := asks.link
    rw [holds.link] at requests link
    obtain ⟨last, after, same, fits, creations⟩ := asked_stays _ c
    refine ⟨last, ⟨holds.own, link.trans after, same.trans holds.configured⟩, ?_, ?_⟩
    · change c.clients.through ((SearchStep.ofJson call).run s.world search).report.requests = _
      rw [requests]
      exact fits
    · change ∀ request ∈ ((SearchStep.ofJson call).run s.world search).report.requests, _
      rw [requests, ← holds.configured]
      exact creations
  · rename_i document _
    exact ⟨c, Holds.stays_of_silent (holds.opened _)
      ((AggregationStep.ofJson call).requests_run document)⟩

theorem closeLink_eq (holds : Holds settings s c) :
    s.closeLink = ⟨.ok .nothing, { s with world := s.world.withLink (.managed c.close.state) },
      c.close.report⟩ := by
  rw [closeLink, holds.link, Link.close, Connection.close]
  cases c.client <;> rfl

theorem step_stays (holds : Holds settings s c) (t : SessionStep) :
    ∃ last, Stays settings c.clients (s.step t) last := by
  have acted : ∃ last, Stays settings c.clients (s.act t) last := by
    cases t with
    | openSearch | openAggregations =>
      exact ⟨c, Holds.stays_of_silent (holds.opened _) rfl⟩
    | close =>
      rw [act, closeLink_eq holds]
      exact ⟨_, holds.stays_of_connection c.close_lives
        (Connection.close_creates holds.configured) rfl rfl rfl⟩
    | abort message => exact ⟨c, Holds.stays_of_silent holds rfl⟩
    | onBuilder call => exact onBuilder_stays holds call
  obtain ⟨last, stays⟩ := acted
  exact ⟨last, stays.holds, stays.fits, stays.creations⟩

theorem onConnection_stays (holds : Holds settings s c) (t : ConnectionStep) :
    ∃ last, Stays settings c.clients (s.onConnection t) last := by
  rw [onConnection, holds.link]
  exact ⟨_, holds.stays_of_connection (t.run_lives c) (t.run_creates holds.configured) rfl rfl rfl⟩

theorem Body.run_stays (body : Body) (holds : Holds settings s c) :
    ∃ last, Stays settings c.clients (body.run s) last := by
  -- The hypothesis is for every answer, since what is done next may depend on the last one.
  induction body generalizing s c with
  | done => exact ⟨c, Holds.stays_of_silent holds rfl⟩
  | raise failure => exact ⟨c, Holds.stays_of_silent holds rfl⟩
  | step t next ih =>
    obtain ⟨between, first⟩ := step_stays holds t
    obtain ⟨last, later⟩ := ih (s.step t).result first.holds
    exact ⟨last, first.noting later⟩
  | connection t next ih =>
    obtain ⟨between, first⟩ := onConnection_stays holds t
    obtain ⟨last, later⟩ := ih (s.onConnection t).result first.holds
    exact ⟨last, first.noting later⟩

/-- The steps of a run are such a body. -/
theorem run_ofSteps {steps : List SessionStep} {s : Session} {run : Run}
    (ran : s.run steps = .ok run) :
    ((Body.ofSteps steps).run s).state = run.session ∧
      ((Body.ofSteps steps).run s).report.requests =
        run.outcomes.flatMap (·.report.requests) ∧
      ((Body.ofSteps steps).run s).result = run.failed.elim (.ok ()) .error := by
  induction steps generalizing s run with
  | nil =>
    cases ran
    exact ⟨rfl, rfl, rfl⟩
  | cons t rest ih =>
    cases t with
    | abort message =>
      cases ran
      exact ⟨rfl, rfl, rfl⟩
    | openSearch | openAggregations | close | onBuilder call =>
      simp only [Session.run] at ran
      split at ran
      · obtain ⟨later, continued, same⟩ := bind_eq_ok.mp ran
        cases same
        obtain ⟨state, requests, result⟩ := ih continued
        exact ⟨state, congrArg (_ ++ ·) requests, result⟩
      · cases ran

theorem leave_of_holds (holds : Holds settings s c) :
    s.leave.result = .ok .nothing ∧
      s.leave.state.world.link = .managed { c with client := none } ∧
      s.leave.report.requests = if c.client.isSome then [.clientClose] else [] := by
  have left : s.leave = logged s.settings s.closeLink := rfl
  rw [left, closeLink_eq holds, Connection.close]
  cases open_ : c.client with
  | none =>
    have same : ({ c with client := none } : Connection) = c := by rw [← open_]
    exact ⟨rfl, by rw [same]; rfl, rfl⟩
  | some client => exact ⟨rfl, rfl, rfl⟩

/-- A block in which a session has the settings, over what its body did there: what came of the body
comes of the block, and the client that the body left open, if it left one open, is closed. -/
structure Encloses (settings : Settings) (creations : Creations) (inside o : Outcome Session Unit)
    (c : Connection) : Prop where
  result : o.result = inside.result
  own : inside.state.settings = settings
  link : inside.state.world.link = .managed c
  configured : c.settings = settings
  fits : Clients.through ⟨none, creations⟩ inside.report.requests = some c.clients
  requests : o.report.requests =
    inside.report.requests ++ if c.client.isSome then [.clientClose] else []
  closed : o.state.world.link = .managed { c with client := none }
  presents : ∀ parameters, Request.clientCreated parameters ∈ o.report.requests →
    Connection.Presents settings parameters

theorem use_encloses (identified : settings.Identified) (creations : Creations) (pages : PageSource)
    (body : Body) :
    ∃ c, Encloses settings creations
      (body.run (start settings (ownLink settings creations) pages))
      ((start settings (ownLink settings creations) pages).use body) c := by
  have holds : Holds settings (start settings (ownLink settings creations) pages)
      ⟨settings, none, creations⟩ := ⟨rfl, rfl, rfl⟩
  obtain ⟨c, stays⟩ := body.run_stays holds
  obtain ⟨result, closed, requests⟩ := leave_of_holds stays.holds
  refine ⟨c, ?_, stays.holds.own, stays.holds.link, stays.holds.configured, stays.fits, ?_, closed,
    ?_⟩
  · rw [use, result]
    rfl
  · exact congrArg (_ ++ ·) requests
  · intro parameters created
    rcases List.mem_append.mp created with before | leaving
    · cases stays.creations _ before
      exact Connection.presents_clientParameters identified
    · rw [requests] at leaving
      split at leaving
      · cases List.mem_singleton.mp leaving
      · cases leaving

end Session

namespace SettingsStore

theorem get_again {store : SettingsStore} {loaded : Loaded} (got : store.get.1 = .ok loaded) :
    store.get.2.get = (.ok loaded, store.get.2) := by
  unfold SettingsStore.get at got ⊢
  split at got
  · rename_i kept
    cases got
    simp only [kept]
  · split at got
    · cases got
    · cases got
      rfl

/-- Shared settings are overridden for a block alone. What is given for it stands in their place,
and the settings that are shared are the same ones afterwards. Its clients are created from the
settings of the block, what comes of the body comes of the block, and the client that is open when
the block is left is closed. -/
theorem use_overrides {store : SettingsStore} {loaded : Loaded} {args : Object}
    (reached : store.Reached) (got : store.get.1 = .ok loaded) (given : Overrides.Given args)
    (creations : Creations) (pages : PageSource) (body : Session.Body) :
    ∃ (settings : Settings) (o : Outcome Session Unit) (c : Connection),
      settings.Overridden args loaded.settings ∧
      store.use args creations pages body = (.ok o, store.get.2) ∧
      store.get.2.get = (.ok loaded, store.get.2) ∧
      Session.Encloses settings creations
        (body.run (Session.start settings (Session.ownLink settings creations) pages)) o c := by
  obtain ⟨overrides, settings, read, applied, overridden⟩ :=
    Overrides.exists_overridden given loaded.settings
  -- The shared settings were read when they were created, so credentials and prefix are texts or
  -- null, and the overrides keep that.
  have identified := Overrides.identified_of_overridden given overridden
    (reached.shared Settings.identified_of_create got)
  obtain ⟨c, encloses⟩ := Session.use_encloses identified creations pages body
  refine ⟨settings, _, c, overridden, ?_, get_again got, encloses⟩
  have opened : (Session.overriding store overrides creations pages).1 =
      .ok (Session.start settings (Session.ownLink settings creations) pages) := by
    change (store.get.1 >>= _) = _
    rw [got, bind_ok, applied]
    rfl
  rw [use, read]
  change ((Session.overriding store overrides creations pages).1.map _, _) = _
  rw [opened]
  rfl

def secured : Object :=
  [("hosts", .arr ([" http://es1:9200", " ", "http://es2:9200 "].map .str)),
   ("username", .str "reader"), ("password", .str "secret"), ("index_prefix", .str "")]

theorem given_secured : Overrides.Given secured where
  known := by decide
  hosts := .inr ⟨_, rfl⟩
  texts := List.forall_mem_cons.mpr ⟨.inr ⟨_, rfl⟩, List.forall_mem_cons.mpr ⟨.inr ⟨_, rfl⟩,
    List.forall_mem_cons.mpr ⟨.inl rfl, List.forall_mem_singleton.mpr (.inr ⟨_, rfl⟩)⟩⟩⟩

def failing : Session.Body := .connection .client fun _ => .raise (.foreign "stop")

theorem use_overrides_secured :
    ∃ (loaded : Loaded) (settings : Settings) (o : Outcome Session Unit),
      bare.get.1 = .ok loaded ∧
      bare.use secured ⟨[]⟩ ⟨[]⟩ failing = (.ok o, bare.get.2) ∧
      bare.get.2.get = (.ok loaded, bare.get.2) ∧
      settings.hostList = ["http://es1:9200", "http://es2:9200"] ∧ settings.indexPrefix = .str "" ∧
      o.result = .error (.foreign "stop") ∧
      o.report.requests =
        [.clientCreated (Connection.clientParameters settings), .clientClose] := by
  obtain ⟨loaded, got⟩ := exists_loaded
  obtain ⟨settings, o, c, overridden, used, again, encloses⟩ :=
    use_overrides reached_bare got given_secured ⟨[]⟩ ⟨[]⟩ failing
  refine ⟨loaded, settings, o, got, used, again, ?_, ?_, encloses.result, ?_⟩
  · exact (overridden.listed _ rfl (by decide)).trans (by decide)
  · exact (overridden.fields .indexPrefix nofun).trans rfl
  · have opened : some ⟨some ⟨[]⟩, ⟨[]⟩⟩ = some c.clients := encloses.fits
    have client : some ⟨[]⟩ = c.client := congrArg Clients.client (Option.some.inj opened)
    rw [encloses.requests, ← client]
    rfl

end SettingsStore

end SearchRequest
