import SearchRequest.Document.Basic
import SearchRequest.Trace.Report

/-!
A search under construction: its document, where it is to be sent, and the role under which the
next clauses are added. It changes by whole changes only: an operation first finds out, from its
arguments alone, what it changes, and one that is refused changes nothing.
-/

namespace SearchRequest

structure Search where
  role : Role
  index : Option String
  docType : Option String
  document : Document

inductive Change
  | role (role : Role)
  | index (name : String)
  | docType (name : String)
  | offset (count : Nat)
  | size (count : Nat)
  | minScore (score : Json)
  | minimumShouldMatch (value : Json)
  | boost (value : Json)
  | clauses (added : List Clause)
  | sorts (added : List FieldSort)
  | highlight (highlight : Highlight)
  | source (filter : SourceFilter)

namespace Search

def fresh : Search := ⟨.must, none, none, .empty⟩

instance : Inhabited Search := ⟨fresh⟩

def add (s : Search) (clause : Clause) : Search :=
  { s with document := { s.document with query := s.document.query.add s.role clause } }

def addAll (s : Search) (clauses : List Clause) : Search := clauses.foldl add s

def withDocument (s : Search) (document : Document) : Search := { s with document := document }

def apply (s : Search) : Change → Search
  | .role role => { s with role := role }
  | .index name => { s with index := some name }
  | .docType name => { s with docType := some name }
  | .offset count => s.withDocument { s.document with offset := some count }
  | .size count => s.withDocument { s.document with size := some count }
  | .minScore score => s.withDocument { s.document with minScore := score }
  | .minimumShouldMatch value =>
      s.withDocument
        { s.document with query := { s.document.query with minimumShouldMatch := value } }
  | .boost value =>
      s.withDocument { s.document with query := { s.document.query with boost := value } }
  | .clauses added => s.addAll added
  | .sorts added => s.withDocument { s.document with sorts := s.document.sorts ++ added }
  | .highlight highlight => s.withDocument { s.document with highlight := some highlight }
  | .source filter => s.withDocument { s.document with source := some filter }

def snapshot (s : Search) : Snapshot := .search s.role s.index s.docType s.document.body

end Search

end SearchRequest
