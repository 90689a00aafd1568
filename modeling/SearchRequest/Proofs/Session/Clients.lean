import SearchRequest.Proofs.Connection.Lifecycle
import SearchRequest.Proofs.Search.Sending
import SearchRequest.Proofs.Settings.Hosts
import SearchRequest.Settings.Installed.Library

/-!
The clients that are created. Whatever is done with a connection or in a session, each client is
given the hosts of the settings, so what is known of the hosts of settings holds of every client.
-/

namespace SearchRequest

/-- A client is given the hosts, whether it can be created or not. -/
def Request.ConnectsTo (hosts : List String) : Request → Prop
  | .clientCreated parameters | .clientRefused parameters =>
      parameters.field "hosts" = .strings hosts
  | _ => True

def Request.ConnectsWith (parameters : Object) : Request → Prop
  | .clientCreated given | .clientRefused given => given = parameters
  | _ => True

open Connection in
theorem Request.ConnectsWith.hosts {settings : Settings} {request : Request}
    (connects : request.ConnectsWith (clientParameters settings)) :
    request.ConnectsTo settings.hostList := by
  cases request with
  | clientCreated given | clientRefused given =>
    cases connects
    rfl
  | _ => trivial

namespace Connection

abbrev Creates {α : Type} (settings : Settings) (o : Outcome Connection α) : Prop :=
  o.Keeps (fun c => c.settings = settings) (Request.ConnectsWith (clientParameters settings))

abbrev Serves {α : Type} (settings : Settings) (o : Outcome Connection α) : Prop :=
  o.Keeps (fun c => c.settings = settings) (Request.ConnectsTo settings.hostList)

theorem Creates.serves {α : Type} {settings : Settings} {o : Outcome Connection α}
    (creates : Creates settings o) : Serves settings o :=
  ⟨creates.state, fun request sent => (creates.requests request sent).hosts⟩

variable {c : Connection} {settings : Settings}

theorem connect_creates (own : c.settings = settings) : Creates settings c.connect := by
  unfold connect
  split
  · exact .succeed own
  · split <;>
    · refine .of_single own rfl ?_
      rw [← own]
      exact rfl

theorem clientFor_creates (own : c.settings = settings) (index docType : Json) :
    Creates settings (c.clientFor index docType) := by
  obtain ⟨_, state, requests⟩ := c.clientFor_eq index docType
  have creates := connect_creates own
  refine ⟨?_, ?_⟩
  · rw [state]
    exact creates.state
  · rw [requests]
    exact creates.requests

theorem receive_creates (own : c.settings = settings) (server : Server) (index docType : Json) :
    Creates settings (c.receive server index docType) := by
  refine .of_silent ?_ (requests_receive c server index docType)
  rw [receive_state]
  exact own

theorem post_creates (own : c.settings = settings) (index docType body : Json) :
    Creates settings (c.post index docType body) := by
  unfold post
  split
  · exact .fail own
  · refine (clientFor_creates own index docType).andThen fun server c after => ?_
    split
    · exact .fail after
    · exact (receive_creates after server index docType).noting_request trivial

theorem query_creates (own : c.settings = settings) (index docType body : Json) :
    Creates settings (c.query index docType body) := by
  unfold query
  split
  · refine (clientFor_creates own index docType).andThen fun server c after => ?_
    split
    · exact .fail after
    · exact (receive_creates after server index docType).noting_request trivial
  · exact .fail own

theorem search_creates (own : c.settings = settings) (index docType body : Json) :
    Creates settings (c.search index docType body) := by
  unfold search
  split
  · exact .fail own
  · split
    · exact post_creates own _ docType body
    · exact query_creates own _ docType body

theorem ping_creates (own : c.settings = settings) : Creates settings c.ping := by
  have asked : Creates settings c.asked :=
    (connect_creates own).andThen fun server c after => .of_single after rfl trivial
  obtain ⟨state, requests⟩ := c.ping_eq
  refine ⟨?_, ?_⟩
  · rw [state]
    exact asked.state
  · rw [requests]
    exact asked.requests

theorem close_creates (own : c.settings = settings) : Creates settings c.close := by
  unfold close
  split
  · exact .succeed own
  · exact .of_single own rfl trivial

end Connection

open Connection in
theorem ConnectionStep.run_creates (step : ConnectionStep) {c : Connection} {settings : Settings}
    (own : c.settings = settings) : Creates settings (step.run c) := by
  have connected : Creates settings (connected c) :=
    (connect_creates own).andThen fun _ _ after => .succeed after
  have answering (value : Json) : Creates settings (answering c.close value) :=
    ⟨(close_creates own).state, (close_creates own).requests⟩
  cases step with
  | search args =>
    simp only [run]
    split
    · exact .fail own
    · exact search_creates own _ _ _
  | ping args =>
    simp only [run]
    split
    · exact .fail own
    · exact (ping_creates own).andThen fun _ _ after => .succeed after
  | close args =>
    simp only [run]
    split
    · exact .fail own
    · exact answering .null
  | connect args =>
    simp only [run]
    split
    · exact .fail own
    · exact connected
  | client => exact connected
  | scope => exact answering (.bool true)
  | part => exact .fail own
  | unknown => exact .fail own

theorem ConnectionStep.run_serves (step : ConnectionStep) {c : Connection} {settings : Settings}
    (own : c.settings = settings) : Connection.Serves settings (step.run c) :=
  (step.run_creates own).serves

theorem Outcome.each_keeps {σ τ α : Type} {P : σ → Prop} {R : Request → Prop}
    {run : τ → σ → Outcome σ α} (keeps : ∀ step state, P state → (run step state).Keeps P R)
    (steps : List τ) {state : σ} (held : P state) : ∀ o ∈ each run steps state, o.Keeps P R := by
  induction steps generalizing state with
  | nil => exact List.forall_mem_nil _
  | cons step rest ih =>
    have first := keeps step state held
    exact List.forall_mem_cons.mpr ⟨first, ih first.state⟩

namespace Link

/-- Only a connection of the session's own creates clients, and it has the settings. -/
def Under (settings : Settings) : Link → Prop
  | .managed c => c.settings = settings
  | _ => True

variable {settings : Settings} {l : Link}

theorem search_under (under : l.Under settings) (index docType : Option String) (body : Object) :
    (l.search index docType body).Keeps (Under settings)
      (Request.ConnectsTo settings.hostList) := by
  cases l with
  | absent => exact .fail trivial
  | direct server closable => exact .of_single trivial rfl trivial
  | managed c =>
    have serves :=
      (Connection.search_creates under (.ofText? index) (.ofText? docType) (.obj body)).serves
    exact ⟨serves.state, serves.requests⟩

theorem close_under (under : l.Under settings) :
    l.close.Keeps (Under settings) (Request.ConnectsTo settings.hostList) := by
  cases l with
  | absent => exact .succeed trivial
  | direct server closable =>
    cases closable with
    | false => exact .succeed trivial
    | true => exact .of_single trivial rfl trivial
  | managed c => exact (Connection.close_creates under).serves.within fun _ after => after

end Link

namespace Session

structure Under (settings : Settings) (s : Session) : Prop where
  own : s.settings = settings
  link : s.world.link.Under settings

variable {settings : Settings} {s : Session}

abbrev Serves {α : Type} (settings : Settings) (o : Outcome Session α) : Prop :=
  o.Keeps (Under settings) (Request.ConnectsTo settings.hostList)

theorem under_start (settings : Settings) (creations : Creations) (pages : PageSource) :
    (start settings (ownLink settings creations) pages).Under settings := ⟨rfl, rfl⟩

theorem onBuilder_serves (under : s.Under settings) (call : Json) :
    Serves settings (s.onBuilder call) := by
  unfold onBuilder
  split
  · exact .fail under
  · rename_i search _
    have asks (l : Link) (index docType : Option String) (body : Object)
        (held : l.Under settings) := Link.search_under held index docType body
    exact ((steps_send asks).1 (SearchStep.ofJson call) s.world search under.link).within
      fun state after => ⟨under.own, after⟩
  · rename_i document _
    exact .of_silent ⟨under.own, under.link⟩ ((AggregationStep.ofJson call).requests_run document)

theorem closeLink_serves (under : s.Under settings) : Serves settings s.closeLink := by
  have closed : Serves settings
      (s.world.link.close.within fun link => { s with world := s.world.withLink link }) :=
    (Link.close_under under.link).within fun link after => ⟨under.own, after⟩
  exact closed.andThen fun _ _ after => .succeed after

theorem step_serves (under : s.Under settings) (t : SessionStep) : Serves settings (s.step t) := by
  have acted : Serves settings (s.act t) := by
    cases t with
    | openSearch => exact .succeed ⟨under.own, under.link⟩
    | openAggregations => exact .succeed ⟨under.own, under.link⟩
    | close => exact closeLink_serves under
    | abort message => exact .fail under
    | onBuilder call => exact onBuilder_serves under call
  exact ⟨acted.state, acted.requests⟩

theorem run_serves {steps : List SessionStep} (under : s.Under settings) {run : Run}
    (ran : s.run steps = .ok run) :
    (∀ o ∈ run.outcomes, Serves settings o) ∧ run.session.Under settings := by
  induction steps generalizing s run with
  | nil =>
    cases ran
    exact ⟨List.forall_mem_nil _, under⟩
  | cons t rest ih =>
    unfold Session.run at ran
    split at ran
    · rename_i same
      cases same
    · cases ran
      exact ⟨List.forall_mem_nil _, under⟩
    · rename_i step others _ same
      cases same
      split at ran
      · have first := step_serves under t
        obtain ⟨later, continued, same⟩ := bind_eq_ok.mp ran
        cases same
        obtain ⟨outcomes, last⟩ := ih first.state continued
        exact ⟨List.forall_mem_cons.mpr ⟨first, outcomes⟩, last⟩
      · cases ran

end Session

/-- Every host of settings is bare, and there is one unless the settings are those of a session that
was given hosts of which none is named. Each client that is created, in a session with the settings
or by a connection of its own, is given these hosts. -/
theorem Settings.BuiltFor.clients_reach {hosts : Json} {settings : Settings}
    (built : settings.BuiltFor hosts) :
    (∀ host ∈ settings.hostList, Text.IsBare host) ∧
      (settings.hostList ≠ [] ↔ Overrides.NamesHost hosts) ∧
      (∀ (creations : Creations) (pages : PageSource) (steps : List SessionStep)
        (run : Session.Run),
        (Session.start settings (Session.ownLink settings creations) pages).run steps = .ok run →
          ∀ o ∈ run.outcomes ++ [run.session.leave], ∀ request ∈ o.report.requests,
            request.ConnectsTo settings.hostList) ∧
      ∀ (client : Option Server) (creations : Creations) (steps : List ConnectionStep),
        ∀ o ∈ Outcome.each ConnectionStep.run steps ⟨settings, client, creations⟩,
          ∀ request ∈ o.report.requests, request.ConnectsTo settings.hostList := by
  have bare : ∀ host ∈ settings.hostList, Text.IsBare host :=
    fun _ => Settings.isBare_of_mem_hostsOf
  refine ⟨bare, ?_, ?_, ?_⟩
  · rw [← built.reaches_iff]
    exact ⟨fun filled => ⟨filled, bare⟩, Settings.Reaches.filled⟩
  · intro creations pages steps run ran o among
    obtain ⟨outcomes, last⟩ := Session.run_serves (Session.under_start settings creations pages) ran
    rcases List.mem_append.mp among with earlier | leaving
    · exact (outcomes o earlier).requests
    · rw [List.mem_singleton.mp leaving]
      exact (Session.step_serves last .close).requests
  · intro client creations steps o among
    have keeps (step : ConnectionStep) (c : Connection) (own : c.settings = settings) :=
      step.run_serves own
    exact (Outcome.each_keeps keeps steps rfl o among).requests

theorem SettingsStore.exists_builtFor {store : SettingsStore} {loaded : Loaded}
    (reached : store.Reached) (got : store.get.1 = .ok loaded) {hosts : Json} {text : String}
    (joined : Overrides.joined hosts = .ok (.str text)) :
    ∃ settings : Settings, settings.BuiltFor hosts ∧ settings.hosts = text := by
  have read : Overrides.ofArguments [("hosts", hosts)] =
      .ok ⟨.str text, .null, .null, .null, .null⟩ := by
    change (Overrides.joined hosts >>= _) = _
    rw [joined]
    rfl
  let settings : Settings := { loaded.settings with hosts := text }
  have opened : (Session.overriding store ⟨.str text, .null, .null, .null, .null⟩ ⟨[]⟩ ⟨[]⟩).1 =
      .ok (Session.start settings (Session.ownLink settings ⟨[]⟩) ⟨[]⟩) := by
    change (store.get.1 >>= _) = _
    rw [got]
    rfl
  exact ⟨settings, .overridden reached read opened, rfl⟩

def SettingsStore.bare : SettingsStore :=
  .initial (.installed ⟨"/root", [], 4300, 480⟩) [] fun _ => .ok .nothing

theorem SettingsStore.reached_bare : bare.Reached := .initial _ _ _

theorem SettingsStore.exists_loaded : ∃ loaded, bare.get.1 = .ok loaded := ⟨_, rfl⟩

theorem Settings.BuiltFor.clients_reach_spaced :
    ∃ settings : Settings, settings.BuiltFor (.str " http://es1:9200 ,, http://es2:9200") ∧
      settings.hostList = ["http://es1:9200", "http://es2:9200"] ∧
      ∀ host ∈ settings.hostList, Text.IsBare host := by
  obtain ⟨loaded, got⟩ := SettingsStore.exists_loaded
  have joined : Overrides.joined (.str " http://es1:9200 ,, http://es2:9200") =
      .ok (.str " http://es1:9200 ,, http://es2:9200") := rfl
  obtain ⟨settings, built, given⟩ :=
    SettingsStore.exists_builtFor SettingsStore.reached_bare got joined
  have listed : settings.hostList = ["http://es1:9200", "http://es2:9200"] := by
    rw [Settings.hostList, given]
    decide
  exact ⟨settings, built, listed, built.clients_reach.1⟩

/-- A session that is given blanks and commas alone for its hosts is opened, and its client is
created with no host at all. -/
theorem Settings.BuiltFor.not_reach_nothing :
    ∃ settings : Settings, settings.BuiltFor (.arr [.str " ", .str ","]) ∧ settings.hostList = [] ∧
      (Connection.connect ⟨settings, none, ⟨[]⟩⟩).report.requests =
        [.clientCreated (Connection.clientParameters settings)] := by
  obtain ⟨loaded, got⟩ := SettingsStore.exists_loaded
  have joined : Overrides.joined (.arr [.str " ", .str ","]) = .ok (.str " ,,") := rfl
  obtain ⟨settings, built, given⟩ :=
    SettingsStore.exists_builtFor SettingsStore.reached_bare got joined
  have nothing : settings.hostList = [] := by
    rw [Settings.hostList, given]
    decide
  exact ⟨settings, built, nothing, rfl⟩

end SearchRequest
