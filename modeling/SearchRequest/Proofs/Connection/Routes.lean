import SearchRequest.Proofs.Connection.Exchange
import SearchRequest.Proofs.Search.Query
import SearchRequest.Proofs.Search.Target

/-!
The two routes of a search: by parameters, and, once it has a document type, by path. The entries
of the body are the same on both; as parameters they go by names of their own, which tell them
apart and can be read back.
-/

namespace SearchRequest

namespace Document

def bodyKeys : List String :=
  ["query", "aggs", "sort", "highlight", "from", "size", "min_score", "_source"]

theorem keys_of_body {d : Document} {body : Object} (compiled : d.body = .ok body) :
    body.keys.Sublist bodyKeys := by
  obtain ⟨query, aggregations, queried, aggregated, rfl⟩ := body_eq_ok.mp compiled
  have first : query.keys.Sublist ["query"] := by
    unfold queryEntry at queried
    split at queried
    · cases queried
      exact List.nil_sublist _
    · obtain ⟨json, _, same⟩ := bind_eq_ok.mp queried
      cases same
      exact .refl _
  have second : aggregations.keys.Sublist ["aggs"] := by
    unfold aggregationsEntry at aggregated
    split at aggregated
    · cases aggregated
      exact List.nil_sublist _
    · obtain ⟨jsons, _, same⟩ := bind_eq_ok.mp aggregated
      cases same
      exact .refl _
  have third : d.sortEntry.keys.Sublist ["sort"] := by
    unfold sortEntry
    split
    · exact List.nil_sublist _
    · exact .refl _
  have fourth : d.highlightEntry.keys.Sublist ["highlight"] := by
    unfold highlightEntry
    split
    · exact List.nil_sublist _
    · exact .refl _
  have last : d.windowEntries.keys.Sublist ["from", "size", "min_score", "_source"] :=
    Object.keys_given_sublist _
  simp only [furtherEntries, Object.keys_append]
  exact first.append (((second.append third).append fourth).append last)

end Document

namespace Connection

def renamed (body : Object) : Object := body.map fun entry => (parameterName entry.1, entry.2)

def bodyName (parameter : String) : String :=
  if parameter = "from_" then "from" else if parameter = "source" then "_source" else parameter

def restored (parameters : Object) : Object :=
  parameters.map fun entry => (bodyName entry.1, entry.2)

theorem keys_renamed (body : Object) : (renamed body).keys = body.keys.map parameterName := by
  simp only [renamed, Object.keys, List.map_map, Function.comp_def]

theorem bodyName_parameterName :
    ∀ key ∈ Document.bodyKeys, bodyName (parameterName key) = key := by decide

theorem parameterName_inj {a b : String} (first : a ∈ Document.bodyKeys)
    (second : b ∈ Document.bodyKeys) (same : parameterName a = parameterName b) : a = b := by
  rw [← bodyName_parameterName a first, same, bodyName_parameterName b second]

theorem parameterName_not_reserved :
    ∀ key ∈ Document.bodyKeys, parameterName key ∉ reservedParameters := by decide

section Body

variable {body : Object} (keys : body.keys.Sublist Document.bodyKeys)

include keys

theorem restored_renamed : restored (renamed body) = body := by
  rw [restored, renamed, List.map_map]
  refine (List.map_congr_left fun entry listed => ?_).trans (List.map_id body)
  have known := keys.subset (List.mem_map_of_mem (f := Prod.fst) listed)
  exact Prod.ext (bodyName_parameterName entry.1 known) rfl

theorem nodup_keys_renamed : (renamed body).keys.Nodup := by
  have distinct : (Document.bodyKeys.map parameterName).Nodup := by decide
  rw [keys_renamed]
  exact distinct.sublist (keys.map _)

end Body

theorem foldl_set_eq_append {body done : Object} (distinct : (done ++ renamed body).keys.Nodup) :
    body.foldl (fun done entry => done.set (parameterName entry.1) entry.2) done =
      done ++ renamed body := by
  induction body generalizing done with
  | nil => simp [renamed]
  | cons entry rest ih =>
    have split : done ++ renamed (entry :: rest) =
        done ++ [(parameterName entry.1, entry.2)] ++ renamed rest := by
      simp [renamed]
    have fresh : parameterName entry.1 ∉ Object.keys done := by
      intro listed
      rw [Object.keys_append, List.nodup_append] at distinct
      exact distinct.2.2 _ listed _ List.mem_cons_self rfl
    rw [split] at distinct ⊢
    rw [List.foldl_cons, Object.set_of_absent fresh, ih distinct]

theorem parametersOf_eq_renamed {body : Object} (keys : body.keys.Sublist Document.bodyKeys) :
    parametersOf body = renamed body := by
  have distinct : Object.keys ([] ++ renamed body) |>.Nodup := nodup_keys_renamed keys
  exact foldl_set_eq_append distinct

theorem free_of_body {body : Object} (keys : body.keys.Sublist Document.bodyKeys) :
    reservedParameters.any (renamed body).has = false := by
  rw [List.any_eq_false]
  intro name reserved taken
  have absent : Object.has (renamed body) name = false := by
    rw [Object.has_eq_false, keys_renamed]
    intro listed
    obtain ⟨key, member, rfl⟩ := List.mem_map.mp listed
    exact parameterName_not_reserved key (keys.subset member) reserved
  rw [absent] at taken
  cases taken

theorem truthy_of_named {name : String} (named : Text.isBlank name = false) :
    (Json.str name).truthy = true := by
  have filled : name ≠ "" := fun empty => by
    rw [empty] at named
    cases named
  simpa [Json.truthy] using filled

theorem truthy_underTenant {tenant name : String} (named : (Json.str name).truthy = true) :
    (Json.str (underTenant tenant name)).truthy = true := by
  unfold underTenant
  split
  · exact named
  · simp [Json.truthy]

theorem succeeds_resolve_of_text {c : Connection} {tenant : String}
    (given : c.settings.indexPrefix = .str tenant) (name : String) :
    Succeeds (c.resolve (.str name)) := by
  unfold resolve
  dsimp only
  split
  · exact succeeds_ok _
  · rw [given]
    exact succeeds_ok _

theorem truthy_of_resolve {c : Connection} {name : String} {target : Json}
    (named : (Json.str name).truthy = true) (resolved : c.resolve (.str name) = .ok target) :
    target.truthy = true := by
  unfold resolve at resolved
  dsimp only at resolved
  split at resolved
  · cases resolved
    exact named
  · split at resolved
    · rename_i other _ same _
      cases same
      cases resolved
      exact truthy_underTenant named
    · cases resolved
    · cases resolved

theorem search_by_parameters {c : Connection} {index target : Json} {body : Object}
    (keys : body.keys.Sublist Document.bodyKeys) (resolved : c.resolve index = .ok target) :
    c.search index .null (.obj body) =
      c.exchanged target .null (.clientSearch target (renamed body)) := by
  have parameters := parametersOf_eq_renamed keys
  have untyped : ¬ Json.null.truthy = true := nofun
  rw [← parameters]
  simp only [search, resolved, if_neg untyped]
  exact query_eq_exchanged c target .null (by rw [parameters]; exact free_of_body keys)

theorem search_by_path {c : Connection} {index target : Json} {type : String} (body : Object)
    (resolved : c.resolve index = .ok target) (named : target.truthy = true)
    (typed : (Json.str type).truthy = true) :
    c.search index (.str type) (.obj body) =
      c.exchanged target (.str type) (.clientPost (searchPath target (.str type)) body) := by
  simp only [search, resolved, if_pos typed]
  exact post_eq_exchanged c named rfl

theorem exchanged_congr (c : Connection) (index docType docType' : Json) (sent sent' : Request) :
    (c.exchanged index docType sent).result = (c.exchanged index docType' sent').result ∧
      (c.exchanged index docType sent).state = (c.exchanged index docType' sent').state := by
  cases opened : c.connect.result with
  | error failure =>
    obtain ⟨result, state, _⟩ := exchanged_of_error opened index docType sent
    obtain ⟨result', state', _⟩ := exchanged_of_error opened index docType' sent'
    exact ⟨result.trans result'.symm, state.trans state'.symm⟩
  | ok server =>
    obtain ⟨result, state, _⟩ := exchanged_of_ok opened index docType sent
    obtain ⟨result', state', _⟩ := exchanged_of_ok opened index docType' sent'
    rw [result, result', state, state']
    simp only [Outcome.noting, receive]
    cases server.next.1 with
    | failure failure => exact ⟨rfl, rfl⟩
    | answer payload => cases hitCount payload.body <;> exact ⟨rfl, rfl⟩

end Connection

namespace Search

theorem send_managed {s : Search} {w : World} {c : Connection} {body : Object}
    (linked : w.link = .managed c) (compiled : s.document.body = .ok body) :
    s.send w =
      let o := c.search (.ofText? s.index) (.ofText? s.docType) (.obj body)
      ⟨o.result.map .plain, w.withLink (.managed o.state), o.report⟩ := by
  have present : ¬ w.link.isAbsent = true := by
    rw [linked]
    nofun
  rw [send, if_neg present, compiled, linked]
  rfl

theorem requests_execute (s : Search) (w : World) :
    (s.execute w).report.requests = (s.send w).report.requests := by
  unfold execute
  refine Outcome.requests_andThen fun payload state => ?_
  cases Result.ofPayload payload <;> rfl

theorem execute_congr {s t : Search} {w : World} (result : (s.send w).result = (t.send w).result)
    (state : (s.send w).state = (t.send w).state) :
    (s.execute w).result = (t.execute w).result ∧ (s.execute w).state = (t.execute w).state := by
  unfold execute
  cases sent : (t.send w).result with
  | error failure =>
    rw [sent] at result
    rw [Outcome.andThen_of_error result, Outcome.andThen_of_error sent]
    exact ⟨rfl, state⟩
  | ok payload =>
    rw [sent] at result
    rw [Outcome.andThen_of_ok result, Outcome.andThen_of_ok sent, state]
    cases Result.ofPayload payload <;> exact ⟨rfl, rfl⟩

/-- What a search with an index sends over a connection, its body being the given one. -/
structure Routed (s : Search) (w : World) (c : Connection) (body : Object) : Prop where
  resolves : ∀ tenant, c.settings.indexPrefix = .str tenant →
    Succeeds (c.resolve (.ofText? s.index))
  byParameters : s.docType = none → ∀ target, c.resolve (.ofText? s.index) = .ok target →
    (s.execute w).report.requests =
      c.asking (.clientSearch target (Connection.renamed body))
  byPath : ∀ type, s.docType = some type → ∀ target, c.resolve (.ofText? s.index) = .ok target →
    (s.execute w).report.requests =
      c.asking (.clientPost (Connection.searchPath target (.str type)) body)
  unresolved : ∀ failure, c.resolve (.ofText? s.index) = .error failure →
    (s.execute w).result = .error failure ∧ (s.execute w).report.requests = []

theorem routed_of_named {s : Search} {w : World} {c : Connection} {name : String} {body : Object}
    (valid : s.Named) (linked : w.link = .managed c) (indexed : s.index = some name)
    (compiled : s.document.body = .ok body) : s.Routed w c body := by
  have index : Json.ofText? s.index = .str name := congrArg Json.ofText? indexed
  have named := Connection.truthy_of_named (valid.index name indexed)
  have sent := send_managed linked compiled
  rw [index] at sent
  refine ⟨fun tenant given => ?_, fun untyped target resolved => ?_,
    fun type typed target resolved => ?_, fun failure unresolved => ?_⟩
  · rw [index]
    exact Connection.succeeds_resolve_of_text given name
  · rw [index] at resolved
    have route := Connection.search_by_parameters (Document.keys_of_body compiled) resolved
    rw [requests_execute, sent, untyped]
    exact (congrArg (·.report.requests) route).trans (Connection.requests_exchanged ..)
  · rw [index] at resolved
    have route := Connection.search_by_path body resolved
      (Connection.truthy_of_resolve named resolved)
      (Connection.truthy_of_named (valid.docType type typed))
    rw [requests_execute, sent, typed]
    exact (congrArg (·.report.requests) route).trans (Connection.requests_exchanged ..)
  · rw [index] at unresolved
    have route : c.search (.str name) (.ofText? s.docType) (.obj body) = .fail c failure := by
      simp only [Connection.search, unresolved]
    rw [route] at sent
    constructor
    · rw [execute, Outcome.andThen_of_error (congrArg Outcome.result sent)]
    · rw [requests_execute, sent]
      rfl

theorem execute_typed {s : Search} {w : World} {c : Connection} {name type : String}
    {body : Object} (linked : w.link = .managed c) (indexed : s.index = some name)
    (named : Text.isBlank name = false) (untyped : s.docType = none)
    (typed : Text.isBlank type = false) (compiled : s.document.body = .ok body) :
    ((s.apply (.docType type)).execute w).result = (s.execute w).result ∧
      ((s.apply (.docType type)).execute w).state = (s.execute w).state := by
  have index : Json.ofText? s.index = .str name := congrArg Json.ofText? indexed
  have byParameters := send_managed linked compiled
  have byPath : (s.apply (.docType type)).send w = _ := send_managed linked compiled
  rw [index, untyped] at byParameters
  rw [show (s.apply (.docType type)).index = s.index from rfl, index] at byPath
  have same : (c.search (.str name) (.str type) (.obj body)).result =
        (c.search (.str name) .null (.obj body)).result ∧
      (c.search (.str name) (.str type) (.obj body)).state =
        (c.search (.str name) .null (.obj body)).state := by
    cases resolved : c.resolve (.str name) with
    | error failure => simp only [Connection.search, resolved, and_self]
    | ok target =>
      have filled := Connection.truthy_of_resolve (Connection.truthy_of_named named) resolved
      rw [Connection.search_by_path body resolved filled (Connection.truthy_of_named typed),
        Connection.search_by_parameters (Document.keys_of_body compiled) resolved]
      exact Connection.exchanged_congr ..
  refine execute_congr ?_ ?_
  · rw [byPath, byParameters]
    exact congrArg (·.map Payload.plain) same.1
  · rw [byPath, byParameters]
    exact congrArg (fun after => w.withLink (.managed after)) same.2

end Search

namespace SearchStep

def typing (type : String) : SearchStep := .edit .docType [("type_", .str type)]

theorem run_typing {type : String} (named : Text.isBlank type = false) (w : World) (s : Search) :
    (typing type).run w s = .succeed (w, s.apply (.docType type)) .nothing := by
  have accepted : Edit.nameIn "type" (.str type) = .ok type := Edit.nameIn_eq_ok.mpr ⟨rfl, named⟩
  have change : Edit.docType.change [("type_", .str type)] = .ok (.docType type) := by
    change (do let name ← Edit.nameIn "type" (.str type); .ok (Change.docType name)) = _
    rw [accepted]
    rfl
  rw [typing, run, change]
  rfl

/-- Whatever steps have made a search, its parameters are the index and the entries of its body,
each under a name of its own from which the entry's key is read back. With a document type the same
search sends the body itself, to the same index, and comes to the same result. -/
theorem routes_carry_body (start w : World) (steps : List SearchStep) {c : Connection}
    {name : String} {body : Object} (linked : w.link = .managed c)
    (indexed : (final steps (start, .fresh)).2.index = some name)
    (compiled : View.body.of (final steps (start, .fresh)).2 = .ok (.obj body)) :
    let s := (final steps (start, .fresh)).2
    s.Routed w c body ∧
      (body.keys.Nodup ∧ ∀ key ∈ body.keys, key ∈ Document.bodyKeys) ∧
      (∀ a ∈ Document.bodyKeys, Connection.parameterName a ≠ "index" ∧
        ∀ b ∈ Document.bodyKeys, Connection.parameterName a = Connection.parameterName b → a = b) ∧
      Connection.restored (Connection.renamed body) = body ∧
      (s.docType = none → ∀ type, Text.isBlank type = false →
        let t := (final (steps ++ [typing type]) (start, .fresh)).2
        (t.docType = some type ∧ t.index = some name ∧ View.body.of t = .ok (.obj body)) ∧
          t.Routed w c body ∧ (t.execute w).result = (s.execute w).result ∧
          (t.execute w).state = (s.execute w).state) := by
  intro s
  have valid : s.Named := named_final steps start Search.named_fresh
  obtain ⟨entries, written, same⟩ := bind_eq_ok.mp compiled
  cases same
  have keys := Document.keys_of_body written
  have distinct : Document.bodyKeys.Nodup := by decide
  refine ⟨Search.routed_of_named valid linked indexed written, ⟨distinct.sublist keys, keys.subset⟩,
    fun a first => ⟨?_, fun b second => Connection.parameterName_inj first second⟩,
    Connection.restored_renamed keys, fun untyped type named => ?_⟩
  · rintro same
    exact Connection.parameterName_not_reserved a first (same ▸ List.mem_cons_self)
  · have typed : (final (steps ++ [typing type]) (start, .fresh)).2 = s.apply (.docType type) := by
      rw [final_append, final_cons, run_typing named]
      rfl
    rw [typed]
    exact ⟨⟨rfl, indexed, compiled⟩,
      Search.routed_of_named (Search.named_apply valid named) linked indexed written,
      Search.execute_typed linked indexed (valid.index name indexed) untyped named written⟩

def windowedRun : List SearchStep :=
  [.edit .index [("index", .str "orders")],
   .leaf .term [("field", .str "status"), ("value", .str "open")],
   .edit .offset [("offset", .int 20)],
   .edit .source [("includes", .arr [.str "total"])]]

def windowedBody : Object :=
  [("query", Object.only "term" (.obj [("status", .str "open")])), ("from", .int 20),
   ("_source", .arr [.str "total"])]

def tenantWorld : World := ⟨.managed (Link.tenantConnection "acme"), ⟨[]⟩, World.usualPageSize⟩

theorem routes_carry_windowedBody :
    let s := (final windowedRun (.isolated, .fresh)).2
    let t := (final (windowedRun ++ [typing "doc"]) (.isolated, .fresh)).2
    s.index = some "orders" ∧ View.body.of s = .ok (.obj windowedBody) ∧
      (s.execute tenantWorld).report.requests =
        [.clientSearch (.str "acme_orders")
          [("query", Object.only "term" (.obj [("status", .str "open")])), ("from_", .int 20),
           ("source", .arr [.str "total"])]] ∧
      (t.execute tenantWorld).report.requests =
        [.clientPost "/acme_orders/doc/_search" windowedBody] := by
  have linked : tenantWorld.link = .managed (Link.tenantConnection "acme") := rfl
  have indexed : (final windowedRun (.isolated, .fresh)).2.index = some "orders" := rfl
  have compiled : View.body.of (final windowedRun (.isolated, .fresh)).2 =
      .ok (.obj windowedBody) := rfl
  obtain ⟨routed, _, _, _, typed⟩ := routes_carry_body .isolated tenantWorld windowedRun linked
    indexed compiled
  obtain ⟨_, byPath, _, _⟩ := typed rfl "doc" rfl
  exact ⟨indexed, compiled, routed.byParameters rfl _ rfl, byPath.byPath "doc" rfl _ rfl⟩

end SearchStep

end SearchRequest
