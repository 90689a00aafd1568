import SearchRequest.Arguments
import SearchRequest.Connection.Server
import SearchRequest.Settings.Basic

/-!
A connection: settings, and a client that is created when it is first needed and again after it
was closed. Index names are put under the tenant of the settings. A search goes one of two ways,
by a path when a document type is given, and else with the entries of the body as parameters.
-/

namespace SearchRequest

structure Connection where
  settings : Settings
  client : Option Server
  creations : Creations
deriving DecidableEq, Repr

namespace Connection

/-- An API key goes before a name with a password; without either there are no credentials. -/
def credentials (s : Settings) : Object :=
  if s.apiKey.truthy then [("api_key", s.apiKey)]
  else if s.username.truthy && s.password.truthy then
    [("basic_auth", .arr [s.username, s.password])]
  else []

def clientParameters (s : Settings) : Object :=
  [("hosts", .strings s.hostList), ("verify_certs", .bool s.verifyCerts),
   ("request_timeout", .float s.requestTimeout), ("max_retries", .int s.maxRetries),
   ("retry_on_timeout", .bool s.retryOnTimeout)] ++ credentials s

def creation (s : Settings) : Report :=
  ⟨[.clientCreated s.hostList s.maxRetries], [.clientCreated (clientParameters s)], []⟩

def connect (c : Connection) : Outcome Connection Server :=
  match c.client with
  | some server => .succeed c server
  | none =>
      match c.creations.next with
      | (.client server, rest) =>
          ⟨.ok server, { c with client := some server, creations := rest }, creation c.settings⟩
      | (.refused failure, rest) =>
          ⟨.error failure, { c with creations := rest },
            .ofRequest (.clientRefused (clientParameters c.settings))⟩

def close (c : Connection) : Outcome Connection Unit :=
  match c.client with
  | none => .succeed c ()
  | some _ => ⟨.ok (), { c with client := none }, ⟨[.clientClosed], [.clientClose], []⟩⟩

def underTenant (tenant index : String) : String :=
  if tenant.toList.isPrefixOf index.toList then index else tenant ++ "_" ++ index

/-- The index that is asked, under the tenant when both are given. Only a text can be put under a
tenant, and only a text can be a tenant. -/
def resolve (c : Connection) (index : Json) : Except Failure Json :=
  let tenant := c.settings.indexPrefix
  if !index.truthy || !tenant.truthy then .ok index
  else match index, tenant with
    | .str name, .str tenant => .ok (.str (underTenant tenant name))
    | .str _, _ => .error .wrongKind
    | _, _ => .error .noOperation

def parameterName (key : String) : String :=
  if key = "from" then "from_" else if key = "_source" then "source" else key

/-- The entries of a body as parameters; of two with one name the later wins. -/
def parametersOf (body : Object) : Object :=
  body.foldl (fun done entry => done.set (parameterName entry.1) entry.2) []

def searchPath (index docType : Json) : String :=
  "/" ++ index.displayed ++ "/" ++ docType.displayed ++ "/_search"

def hitCount (answer : Json) : Except Failure (Option Nat) :=
  match answer with
  | .obj entries => match Object.field entries "hits" with
      | .obj hits =>
          let listed := Object.field hits "hits"
          if listed.truthy then listed.asElements.map fun items => some items.length
          else .ok (some 0)
      | _ => .ok none
  | _ => .ok none

def searchFailure (index docType : Json) (failure : Failure) : Report :=
  if failure.isTransport then .ofEvent (.searchFailed index docType failure.message) else .empty

def clientFor (c : Connection) (index docType : Json) : Outcome Connection Server :=
  let o := c.connect
  match o.result with
  | .ok _ => o
  | .error failure => { o with report := o.report ++ searchFailure index docType failure }

def receive (c : Connection) (server : Server) (index docType : Json) : Outcome Connection Json :=
  let (reply, rest) := server.next
  let after := { c with client := some rest }
  match reply with
  | .failure failure => ⟨.error failure, after, searchFailure index docType failure⟩
  | .answer payload =>
      -- The hits are counted for the log alone, but a count that fails is what comes of the search.
      match hitCount payload.body with
      | .error failure => .fail after failure
      | .ok hits => ⟨.ok payload.body, after, .ofEvent (.searchAnswered index hits)⟩

def post (c : Connection) (index docType body : Json) : Outcome Connection Json :=
  if !index.truthy then .fail c (.argument .typeWithoutIndex)
  else (c.clientFor index docType).andThen fun server c =>
    match body.asEntries with
    | .error failure => .fail c failure
    | .ok entries =>
        (c.receive server index docType).noting
          (.ofRequest (.clientPost (searchPath index docType) entries))

def reservedParameters : List String := ["index", Signature.receiver]

def query (c : Connection) (index docType body : Json) : Outcome Connection Json :=
  match body with
  | .obj entries =>
      let parameters := parametersOf entries
      -- Names of parameters are only found to collide when the client is called.
      (c.clientFor index docType).andThen fun server c =>
        if reservedParameters.any parameters.has then .fail c .wrongKind
        else
          (c.receive server index docType).noting (.ofRequest (.clientSearch index parameters))
  | _ => .fail c .noOperation

def search (c : Connection) (index docType body : Json) : Outcome Connection Json :=
  match c.resolve index with
  | .error failure => .fail c failure
  | .ok index =>
      if docType.truthy then c.post index docType body else c.query index docType body

def asked (c : Connection) : Outcome Connection Bool :=
  c.connect.andThen fun server c =>
    let (reply, rest) := server.next
    let result : Except Failure Bool := match reply with
      | .answer payload => .ok payload.truthy
      | .failure failure => .error failure
    ⟨result, { c with client := some rest }, .ofRequest .clientPing⟩

/-- Whether the server answers, which it also does not when there is no client to ask it with. -/
def ping (c : Connection) : Outcome Connection Bool :=
  let o := c.asked
  match o.result with
  | .ok _ => o
  | .error failure =>
      if failure.isTransport then
        ⟨.ok false, o.state, o.report ++ .ofEvent (.pingFailed failure.message)⟩
      else o

end Connection

end SearchRequest
