import SearchRequest.Connection.Basic

/-!
How a search reaches a cluster: not at all, through a connection of the caller's own that takes
searches as they are, or through a managed connection.
-/

namespace SearchRequest

inductive Link
  | absent
  | direct (server : Server) (closable : Bool)
  | managed (connection : Connection)
deriving DecidableEq, Repr

namespace Link

def isAbsent : Link → Bool
  | .absent => true
  | _ => false

def search (l : Link) (index docType : Option String) (body : Object) : Outcome Link Payload :=
  match l with
  | .absent => .fail l .disconnected
  | .direct server closable =>
      let (reply, rest) := server.next
      let result : Except Failure Payload := match reply with
        | .answer payload => .ok payload
        | .failure failure => .error failure
      ⟨result, .direct rest closable, .ofRequest (.search index docType body)⟩
  | .managed connection =>
      let o := connection.search (.ofText? index) (.ofText? docType) (.obj body)
      ⟨o.result.map .plain, .managed o.state, o.report⟩

def close : Link → Outcome Link Unit
  | .managed connection => connection.close.within .managed
  | .direct server true => ⟨.ok (), .direct server true, .ofRequest .close⟩
  | other => .succeed other ()

end Link

end SearchRequest
