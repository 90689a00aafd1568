import SearchRequest.Trace.Report

/-!
What answers requests, and what comes of creating clients. A server has a list of answers to give in
turn and repeats the last one. Clients differ from one creation to the next, each with a server of
its own, and a creation may fail.
-/

namespace SearchRequest

inductive Reply
  | answer (payload : Payload)
  | failure (failure : Failure)
deriving DecidableEq, Repr

structure Server where
  upcoming : List Reply
deriving DecidableEq, Repr

namespace Server

def emptyAnswer : Json := Object.only "hits" (.obj [("total", .int 0), ("hits", .arr [])])

def next (s : Server) : Reply × Server :=
  match s.upcoming with
  | [] => (.answer (.plain emptyAnswer), s)
  | [last] => (last, s)
  | first :: rest => (first, ⟨rest⟩)

end Server

inductive Creation
  | client (server : Server)
  | refused (failure : Failure)
deriving DecidableEq, Repr

/-- What each creation of a client comes to, the last one over and over. -/
structure Creations where
  upcoming : List Creation
deriving DecidableEq, Repr

namespace Creations

def next (c : Creations) : Creation × Creations :=
  match c.upcoming with
  | [] => (.client ⟨[]⟩, c)
  | [last] => (last, c)
  | first :: rest => (first, ⟨rest⟩)

def always (server : Server) : Creations := ⟨[.client server]⟩

end Creations

end SearchRequest
