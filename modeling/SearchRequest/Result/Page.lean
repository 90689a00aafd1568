import SearchRequest.Result.Basic

/-!
Pages of a result. A page has a size and a number, both counted from one; everything else about
it follows from the total and from the number of items on it.
-/

namespace SearchRequest

structure Page where
  size : Nat
  number : Nat
  size_pos : 0 < size
  number_pos : 0 < number
deriving DecidableEq, Repr

namespace Page

def counted? : Json → Option { n : Nat // 0 < n }
  | .int (.ofNat (n + 1)) => some ⟨n + 1, Nat.succ_pos n⟩
  | _ => none

def ofCounts (size number : { n : Nat // 0 < n }) : Page :=
  ⟨size.1, number.1, size.2, number.2⟩

def offset (p : Page) : Nat := p.size * (p.number - 1)

/-- The number of pages that the total fills, the last one perhaps in part. -/
def lastPage (p : Page) (total : Nat) : Nat := (total + p.size - 1) / p.size

def hasMore (p : Page) (total : Nat) : Bool := decide (p.number < p.lastPage total)

def isFirst (p : Page) : Bool := decide (p.number ≤ 1)

def previous? (p : Page) : Option Nat := if 1 < p.number then some (p.number - 1) else none

def next? (p : Page) (total : Nat) : Option Nat :=
  if p.hasMore total then some (p.number + 1) else none

def firstItem? (p : Page) (count : Nat) : Option Nat :=
  if count = 0 then none else some ((p.number - 1) * p.size + 1)

def lastItem? (p : Page) (count : Nat) : Option Nat :=
  (p.firstItem? count).map fun first => first + count - 1

def ofArguments (size number : Json) : Except Failure Page :=
  match counted? size, counted? number with
  | none, _ => .error (.argument .pageSize)
  | some _, none => .error (.argument .pageNumber)
  | some s, some n => .ok (ofCounts s n)

def metadata (p : Page) (total count : Nat) : Object :=
  [("current_page", .int p.number), ("per_page", .int p.size), ("total", .int total),
   ("last_page", .int (p.lastPage total)), ("from", .ofCount? (p.firstItem? count)),
   ("to", .ofCount? (p.lastItem? count)), ("has_more_pages", .bool (p.hasMore total))]

structure Account where
  metadata : Object
  data : List Item
deriving DecidableEq, Repr

def account (p : Page) (total : Nat) (items : List Item) : Account :=
  ⟨p.metadata total items.length, items⟩

def label (p : Page) (total : Nat) : String :=
  let last := p.lastPage total
  s!"Paginator(page={p.number}, page_size={p.size}, total={total}, last_page={last})"

end Page

structure Paginator where
  page : Page
  result : Result
deriving DecidableEq, Repr

end SearchRequest
