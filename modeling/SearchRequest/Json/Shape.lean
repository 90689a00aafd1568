import SearchRequest.Decimal.Nearest
import SearchRequest.Json.Basic

/-!
How loosely shaped arguments are read. Some operations take anything with elements as a list,
and anything that reads as a list of pairs as an object; some treat every empty value as absent.
-/

namespace SearchRequest.Json

def truthy : Json → Bool
  | .null => false
  | .bool value => value
  | .int value => value != 0
  | .float value => !value.isZero
  | .str value => !value.isEmpty
  | .arr items => !items.isEmpty
  | .obj entries => !entries.isEmpty

/-- The value, or the empty object in place of a value that is not `truthy`. -/
def orEmpty (value : Json) : Json := if value.truthy then value else .obj []

def kindName : Json → String
  | .null => "NoneType"
  | .bool _ => "bool"
  | .int _ => "int"
  | .float _ => "float"
  | .str _ => "str"
  | .arr _ => "list"
  | .obj _ => "dict"

/-- A text has its characters as elements and an object its keys. -/
def elements? : Json → Option (List Json)
  | .arr items => some items
  | .str text => some (text.toList.map fun c => .str (String.singleton c))
  | .obj entries => some (entries.map fun entry => .str entry.1)
  | _ => none

def isNumber : Json → Bool
  | .int _ | .float _ => true
  | _ => false

def isScalar : Json → Bool
  | .arr _ | .obj _ => false
  | _ => true

def keyText : Json → String
  | .null => "null"
  | .bool value => if value then "true" else "false"
  | .int value => toString value
  | .float value => numberText value
  | .str value => value
  | .arr _ | .obj _ => ""

/-- Numbers and booleans of the same value are the same key. -/
def sameKey (a b : Json) : Bool :=
  match number? a, number? b with
  | some m, some n => m == n
  | none, none => a == b
  | _, _ => false
where
  number? : Json → Option (Int ⊕ Decimal)
    | .bool value => some (.inl (if value then 1 else 0))
    | .int value => some (.inl value)
    | .float value => some (match value.whole? with
        | some whole => .inl whole
        | none => .inr value)
    | _ => none

/-- Values by key, where any scalar can be a key. -/
abbrev Table := List (Json × Json)

inductive EntryFault
  | notSequence
  | notPair
deriving DecidableEq, Repr

/-- Replaces the value of an equal key, which keeps its place and its own spelling. -/
def insertPair (pairs : Table) (key value : Json) : Table :=
  if pairs.any fun pair => sameKey pair.1 key then
    pairs.map fun pair => if sameKey pair.1 key then (pair.1, value) else pair
  else pairs ++ [(key, value)]

def readPairs (done : Table) : List Json → Except EntryFault Table
  | [] => .ok done
  | item :: rest =>
      match item.elements? with
      | none => .error .notSequence
      | some [key, value] =>
          if key.isScalar then readPairs (insertPair done key value) rest
          else .error .notSequence
      | some _ => .error .notPair

/-- The entries of an object, or those that a list of pairs spells out, later pairs winning. -/
def pairs : Json → Except EntryFault Table
  | .obj entries => .ok (entries.map fun entry => (.str entry.1, entry.2))
  | value =>
      match value.elements? with
      | none => .error .notSequence
      | some items => readPairs [] items

def ofTable (table : Table) : Object := table.map fun pair => (pair.1.keyText, pair.2)

def lookup? (table : Table) (key : Json) : Option Json :=
  (table.find? fun pair => sameKey pair.1 key).map (·.2)

def entries : Json → Except EntryFault Object
  | .obj entries => .ok entries
  | value => value.pairs.map ofTable

end SearchRequest.Json
