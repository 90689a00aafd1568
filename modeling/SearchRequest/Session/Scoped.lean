import SearchRequest.Session.Basic

/-!
Sessions with settings that differ from the shared ones in what is given for them. The shared
settings stay as they are, and the connection is closed when the session is left.
-/

namespace SearchRequest

/-- What is given in place of shared settings; null leaves the shared setting. -/
structure Overrides where
  hosts : Json
  username : Json
  password : Json
  apiKey : Json
  indexPrefix : Json
deriving DecidableEq, Repr

namespace Overrides

def signature : Signature :=
  .closed [.optional "hosts", .optional "username", .optional "password", .optional "api_key",
    .optional "index_prefix"]

def texts : List Json → Except Failure (List String)
  | [] => .ok []
  | .str text :: rest => do
      let others ← texts rest
      .ok (text :: others)
  | _ :: _ => .error .wrongKind

def joined : Json → Except Failure Json
  | .arr items => do
      let hosts ← texts items
      .ok (.str (",".intercalate hosts))
  | value => .ok value

def ofArguments (args : Object) : Except Failure Overrides := do
  let a ← signature.bind args
  let hosts ← joined (a.field "hosts")
  .ok ⟨hosts, a.field "username", a.field "password", a.field "api_key",
    a.field "index_prefix"⟩

def overridden (shared given : Json) : Json := if given.isNull then shared else given

def hostsOver (shared : String) : Json → Except Failure String
  | .null => .ok shared
  | .str hosts => .ok hosts
  | _ => .error .noOperation

/-- What is given is neither checked nor read as another type. -/
def applied (o : Overrides) (s : Settings) : Except Failure Settings := do
  let hosts ← hostsOver s.hosts o.hosts
  .ok { s with
    hosts := hosts
    username := overridden s.username o.username
    password := overridden s.password o.password
    apiKey := overridden s.apiKey o.apiKey
    indexPrefix := overridden s.indexPrefix o.indexPrefix }

end Overrides

namespace Session

def overriding (store : SettingsStore) (overrides : Overrides) (creations : Creations)
    (pages : PageSource) : Except Failure Session × SettingsStore :=
  let (loaded, store) := store.get
  let session := do
    let l ← loaded
    let settings ← overrides.applied l.settings
    .ok (start settings (ownLink settings creations) pages)
  (session, store)

end Session

end SearchRequest
