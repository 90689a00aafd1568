import SearchRequest.Decimal.Basic

/-!
JSON values. Objects keep the order in which their keys first appeared, and whole numbers are
kept apart from floating point numbers, so a value passes through unchanged.
-/

namespace SearchRequest

inductive Json
  | null
  | bool (value : Bool)
  | int (value : Int)
  | float (value : Decimal)
  | str (value : String)
  | arr (items : List Json)
  | obj (entries : List (String × Json))
deriving Repr, Inhabited

abbrev Object := List (String × Json)

namespace Json

mutual

def decEq : (a b : Json) → Decidable (a = b)
  | .null, .null => isTrue rfl
  | .bool a, .bool b =>
      if h : a = b then isTrue (h ▸ rfl) else isFalse fun same => h (Json.bool.inj same)
  | .int a, .int b =>
      if h : a = b then isTrue (h ▸ rfl) else isFalse fun same => h (Json.int.inj same)
  | .float a, .float b =>
      if h : a = b then isTrue (h ▸ rfl) else isFalse fun same => h (Json.float.inj same)
  | .str a, .str b =>
      if h : a = b then isTrue (h ▸ rfl) else isFalse fun same => h (Json.str.inj same)
  | .arr a, .arr b =>
      match decEqItems a b with
      | isTrue h => isTrue (h ▸ rfl)
      | isFalse h => isFalse fun same => h (Json.arr.inj same)
  | .obj a, .obj b =>
      match decEqEntries a b with
      | isTrue h => isTrue (h ▸ rfl)
      | isFalse h => isFalse fun same => h (Json.obj.inj same)
  | .null, .bool _ | .null, .int _ | .null, .float _ | .null, .str _ | .null, .arr _
  | .null, .obj _ | .bool _, .null | .bool _, .int _ | .bool _, .float _ | .bool _, .str _
  | .bool _, .arr _ | .bool _, .obj _ | .int _, .null | .int _, .bool _ | .int _, .float _
  | .int _, .str _ | .int _, .arr _ | .int _, .obj _ | .float _, .null | .float _, .bool _
  | .float _, .int _ | .float _, .str _ | .float _, .arr _ | .float _, .obj _ | .str _, .null
  | .str _, .bool _ | .str _, .int _ | .str _, .float _ | .str _, .arr _ | .str _, .obj _
  | .arr _, .null | .arr _, .bool _ | .arr _, .int _ | .arr _, .float _ | .arr _, .str _
  | .arr _, .obj _ | .obj _, .null | .obj _, .bool _ | .obj _, .int _ | .obj _, .float _
  | .obj _, .str _ | .obj _, .arr _ => isFalse nofun

def decEqItems : (a b : List Json) → Decidable (a = b)
  | [], [] => isTrue rfl
  | [], _ :: _ => isFalse nofun
  | _ :: _, [] => isFalse nofun
  | a :: as, b :: bs =>
      match decEq a b, decEqItems as bs with
      | isTrue h, isTrue k => isTrue (h ▸ k ▸ rfl)
      | isFalse h, _ => isFalse fun same => h (List.cons.inj same).1
      | _, isFalse k => isFalse fun same => k (List.cons.inj same).2

def decEqEntries : (a b : List (String × Json)) → Decidable (a = b)
  | [], [] => isTrue rfl
  | [], _ :: _ => isFalse nofun
  | _ :: _, [] => isFalse nofun
  | (k, a) :: as, (l, b) :: bs =>
      if h : k = l then
        match decEq a b, decEqEntries as bs with
        | isTrue u, isTrue v => isTrue (h ▸ u ▸ v ▸ rfl)
        | isFalse u, _ => isFalse fun same => u (Prod.mk.inj (List.cons.inj same).1).2
        | _, isFalse v => isFalse fun same => v (List.cons.inj same).2
      else isFalse fun same => h (Prod.mk.inj (List.cons.inj same).1).1

end

instance : DecidableEq Json := decEq

def isNull : Json → Bool
  | .null => true
  | _ => false

def isText : Json → Bool
  | .str _ => true
  | _ => false

def numberText : Decimal → String
  | .infinite negative => if negative then "-Infinity" else "Infinity"
  | .nan => "NaN"
  | finite => finite.text

def ofOption : Option Json → Json
  | some value => value
  | none => .null

def ofText? : Option String → Json
  | some value => .str value
  | none => .null

def ofCount? : Option Nat → Json
  | some count => .int count
  | none => .null

def strings (texts : List String) : Json := .arr (texts.map .str)

end Json

namespace Object

def get? (o : Object) (key : String) : Option Json := o.lookup key

/-- The value at a key, null when the key is absent. -/
def field (o : Object) (key : String) : Json := Json.ofOption (o.get? key)

def has (o : Object) (key : String) : Bool := (o.get? key).isSome

def keys (o : Object) : List String := o.map (·.1)

/-- The entries of `winning` stand; a key that both have keeps its place in `base`. -/
def merge (base winning : Object) : Object :=
  base.map (fun entry => (entry.1, (get? winning entry.1).getD entry.2)) ++
    winning.filter (fun entry => !has base entry.1)

def set (o : Object) (key : String) (value : Json) : Object := merge o [(key, value)]

def alter (key : String) (f : Json → Json) : Object → Object
  | [] => []
  | (other, value) :: rest =>
      if other = key then (other, f value) :: rest else (other, value) :: alter key f rest

/-- Typed parameters are left out of the output when they are null. -/
def given (o : Object) : Object := o.filter fun entry => !entry.2.isNull

def only (key : String) (value : Json) : Json := .obj [(key, value)]

end Object

end SearchRequest
