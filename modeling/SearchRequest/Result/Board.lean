import SearchRequest.Result.Page

/-!
One result under several names. Lists are cells of a board, and a name stands for the number of a
cell. The result shows the list in its slot, and a paginator takes over the slot that the result
has when it is made, so that a list that is put there by either of them is shown by all. A caller
may hand in a list of its own, which then is that list: a change under one name is seen under all.
The hits are listed anew when the result is made; the list in the answer is one that callers have.
-/

namespace SearchRequest

structure Pager where
  page : Page
  slot : Nat
deriving DecidableEq, Repr

inductive ListName
  /-- The list of hits in the answer. -/
  | answer
  | own (name : String)
deriving DecidableEq, Repr

structure Board where
  summary : Summary
  /-- Every list that was ever made, the number of a cell being its place. -/
  cells : List (List Item)
  slots : List Nat
  slot : Nat
  pagers : List (String × Pager)
  lists : List (ListName × Nat)
deriving DecidableEq, Repr

inductive Replacement
  /-- The list itself, and not a copy of it. -/
  | list (name : ListName)
  | value (value : Json)
deriving DecidableEq, Repr

inductive Handle
  | hits
  | items (paginator : String)
  | list (name : ListName)
deriving DecidableEq, Repr

inductive ListEdit
  | append (value : Json)
  | pop
  | put (place : Json) (value : Json)
  | clear
deriving DecidableEq, Repr

inductive BoardStep
  | paginate (size number : Json) (name : String)
  | make (name : String) (items : Json)
  | replaceHits (source : Replacement)
  | replaceItems (paginator : String) (source : Replacement)
  | edit (handle : Handle) (edit : ListEdit)
  | aggregation (name : Json)
deriving DecidableEq, Repr

namespace ListEdit

/-- The place that a number stands for; negative numbers count from the end. -/
def place? (length : Nat) : Json → Except Failure Nat
  | .int n => located n
  | .bool b => located (if b then 1 else 0)
  | _ => .error .wrongKind
where
  located (n : Int) : Except Failure Nat :=
    let place := if n < 0 then n + length else n
    if 0 ≤ place ∧ place < length then .ok place.toNat else .error .outOfRange

def run : ListEdit → List Item → Except Failure (List Item × Option Item)
  | .append value, items => .ok (items ++ [.value value], none)
  | .pop, items => match items.getLast? with
      | some last => .ok (items.dropLast, some last)
      | none => .error .outOfRange
  | .put wanted value, items => do
      let place ← place? items.length wanted
      .ok (items.set place (.value value), none)
  | .clear, _ => .ok ([], none)

end ListEdit

namespace Result

def listed (raw : Object) : List Json :=
  match raw.field "hits" with
  | .obj info => match Object.field info "hits" with
      | .arr items => items
      | _ => []
  | _ => []

def relisted (raw : Object) (items : List Json) : Object :=
  raw.alter "hits" fun
    | .obj info => .obj (Object.alter "hits" (fun
        | .arr _ => .arr items
        | other => other) info)
    | other => other

end Result

namespace Board

def ofResult (r : Result) : Board where
  summary := r.summary
  cells := [r.hits, (Result.listed r.summary.raw).map .value]
  slots := [0]
  slot := 0
  pagers := []
  lists := [(.answer, 1)]

def cell (b : Board) (number : Nat) : List Item := (b.cells[number]?).getD []

def held (b : Board) (slot : Nat) : Nat := (b.slots[slot]?).getD 0

def hits (b : Board) : List Item := b.cell (b.held b.slot)

def pages (b : Board) : List (String × Page) := b.pagers.map fun (name, p) => (name, p.page)

def pager (b : Board) (name : String) : Except Failure Pager :=
  match b.pagers.lookup name with
  | some pager => .ok pager
  | none => .error .unknownName

def listCell (b : Board) (name : ListName) : Except Failure Nat :=
  match b.lists.lookup name with
  | some number => .ok number
  | none => .error .unknownName

def fresh (b : Board) (items : List Item) : Nat × Board :=
  (b.cells.length, { b with cells := b.cells ++ [items] })

def hold (b : Board) (slot number : Nat) : Board := { b with slots := b.slots.set slot number }

/-- The answer, with the items that its list of hits has by now. -/
def raw (b : Board) : Object :=
  match b.lists.lookup .answer with
  | some number => Result.relisted b.summary.raw ((b.cell number).filterMap Item.value?)
  | none => b.summary.raw

/-- Puts a caller's own list into a slot, or a copy of whatever else has elements. A list that
nobody else holds is as good as its copy. -/
def replace (b : Board) (slot : Nat) : Replacement → Except Failure Board
  | .list name => do
      let number ← b.listCell name
      .ok (b.hold slot number)
  | .value value => do
      let items ← value.asElements
      let (number, after) := b.fresh (items.map .value)
      .ok (after.hold slot number)

def named {κ α : Type} [DecidableEq κ] (entries : List (κ × α)) (name : κ) (a : α) :
    List (κ × α) :=
  entries.filter (fun entry => entry.1 != name) ++ [(name, a)]

def cellOf (b : Board) : Handle → Except Failure Nat
  | .hits => .ok (b.held b.slot)
  | .items paginator => do
      let pager ← b.pager paginator
      .ok (b.held pager.slot)
  | .list name => b.listCell name

def change (b : Board) : BoardStep → Except Failure (Board × Option Item)
  | .paginate size number name => do
      let page ← Page.ofArguments size number
      .ok ({ b with pagers := named b.pagers name ⟨page, b.slot⟩ }, none)
  | .make name value => do
      let items ← value.asElements
      let (number, after) := b.fresh (items.map .value)
      .ok ({ after with lists := named b.lists (.own name) number }, none)
  | .replaceHits source => do
      let after ← b.replace b.slot source
      .ok (after, none)
  | .replaceItems paginator source => do
      let pager ← b.pager paginator
      let after ← b.replace pager.slot source
      .ok (after, none)
  | .edit handle edit => do
      let number ← b.cellOf handle
      let (items, taken) ← edit.run (b.cell number)
      .ok ({ b with cells := b.cells.set number items }, taken)
  | .aggregation name => do
      let value ← Result.aggregation b.summary name
      .ok (b, some (.value value))

def step (b : Board) (s : BoardStep) : Except Failure (Option Item) × Board :=
  match b.change s with
  | .error failure => (.error failure, b)
  | .ok (after, answer) => (.ok answer, after)

end Board

end SearchRequest
