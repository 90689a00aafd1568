import SearchRequest.Failure

/-!
The buckets of a range aggregation. A bucket is given as an object, as a pair of its lower and
upper bound, or as the mask of a network, and needs at least one bound. `Bucket.list` is the only
way in which an aggregation comes by its buckets.
-/

namespace SearchRequest

/-- Bounds, name and network mask of a bucket; null stands for one that is not given. -/
structure Bucket where
  lower : Json
  upper : Json
  key : Json
  mask : Json
deriving DecidableEq, Repr

namespace Bucket

def toJson (b : Bucket) : Json :=
  .obj (Object.given [("from", b.lower), ("to", b.upper), ("key", b.key), ("mask", b.mask)])

def isBounded (b : Bucket) : Bool := !(b.lower.isNull && b.upper.isNull && b.mask.isNull)

def ofEntries (masked : Bool) (o : Object) : Bucket :=
  ⟨o.field "from", o.field "to", o.field "key", if masked then o.field "mask" else .null⟩

def ofItem? (masked : Bool) : Json → Option Bucket
  | .obj entries => some (ofEntries masked entries)
  | .arr [lower, upper] => some ⟨lower, upper, .null, .null⟩
  | .str network => if masked then some ⟨.null, .null, .null, .str network⟩ else none
  | _ => none

def ofItem (masked : Bool) (item : Json) : Except AggregationFault Bucket :=
  match ofItem? masked item with
  | none => .error (.badRange item)
  | some bucket => if bucket.isBounded then .ok bucket else .error (.unbounded item)

def ofItems (masked : Bool) : List Json → Except AggregationFault (List Bucket)
  | [] => .ok []
  | item :: rest => do
      let bucket ← ofItem masked item
      let buckets ← ofItems masked rest
      .ok (bucket :: buckets)

def list (masked : Bool) : Json → Except AggregationFault (List Bucket)
  | .arr (item :: rest) => ofItems masked (item :: rest)
  | _ => .error .noRanges

end Bucket

end SearchRequest
