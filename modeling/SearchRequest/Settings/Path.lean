import SearchRequest.Settings.Variables
import SearchRequest.Text.Blank

/-!
Paths, and what is found at their ends. A path is the list of names that lead on from the root or
from the working directory; empty names and single points lead nowhere.
-/

namespace SearchRequest

structure Path where
  /-- The slashes in front of the first name; a path that has none starts where the program is. -/
  root : String
  names : List String
deriving DecidableEq, Repr

inductive Place
  | nothing
  | directory
  | device
  | file (content : String)
deriving DecidableEq, Repr

/-- What is found at each path, or that the system refuses to look there. -/
abbrev FileSystem := Path → Except Failure Place

namespace Path

/-- Two slashes in front stay two, and more of them are one. -/
def rootOf : Nat → String
  | 0 => ""
  | 2 => "//"
  | _ => "/"

def ofText (text : String) : Path :=
  let chars := text.toList
  let names := (Text.pieces '/' chars).map String.ofList
  ⟨rootOf (chars.takeWhile (· == '/')).length, names.filter fun name => name != "" && name != "."⟩

def text (p : Path) : String := p.root ++ "/".intercalate p.names

def isRooted (p : Path) : Bool := !p.root.isEmpty

end Path

end SearchRequest
