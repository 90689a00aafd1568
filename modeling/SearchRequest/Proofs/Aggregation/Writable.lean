import SearchRequest.Aggregation.Signature
import SearchRequest.Proofs.Clause.Writable

/-!
Aggregations that can be written. The operations copy the lists and orders that they are given, so
these are written as they were copied; the order of a histogram is kept as it is given, and one
that is a list or an object is found out only when it is to stand as a key.
-/

namespace SearchRequest

/-- A histogram ordered by a list or an object that is not empty. -/
def Computation.ordersByContainer : Computation → Bool
  | .histogram _ _ _ orderMode _ _ _ => orderMode.truthy && !orderMode.isScalar
  | _ => false

namespace Computation

def Copied : Computation → Prop
  | .percentiles _ percents _ => Succeeds (listedUnlessNull percents)
  | .percentileRanks _ values _ => Succeeds (listed values)
  | .terms _ _ order _ => Succeeds (ordered order)
  | _ => True

theorem listed_again {value copy : Json} (copied : listed value = .ok copy) :
    listed copy = .ok copy := by
  obtain ⟨items, _, same⟩ := bind_eq_ok.mp copied
  cases same
  rfl

theorem listedUnlessNull_again {value copy : Json} (copied : listedUnlessNull value = .ok copy) :
    listedUnlessNull copy = .ok copy := by
  unfold listedUnlessNull at copied
  split at copied
  · cases copied
    rfl
  · obtain ⟨items, _, same⟩ := bind_eq_ok.mp copied
    cases same
    rfl

theorem succeeds_ordered_again {value copy : Json} (copied : ordered value = .ok copy) :
    Succeeds (ordered copy) := by
  unfold ordered at copied
  split at copied
  · obtain ⟨entries, _, same⟩ := bind_eq_ok.mp copied
    cases same
    cases entries with
    | nil => exact ⟨_, rfl⟩
    | cons entry rest => exact ⟨_, rfl⟩
  · cases copied
    exact ⟨_, rfl⟩

theorem succeeds_orderedBy (mode : Json) (direction : Direction) :
    Succeeds (orderedBy mode direction) ↔ (mode.truthy && !mode.isScalar) = false := by
  unfold orderedBy
  by_cases given : mode.truthy = true
  · by_cases scalar : mode.isScalar = true
    · simp [given, scalar]
    · simp [given, scalar]
  · simp [given]

theorem succeeds_body {computation : Computation} (copied : computation.Copied) (extra : Object) :
    Succeeds (computation.body (.obj extra)) ↔ computation.ordersByContainer = false := by
  have written {attempt : Except Failure Object} (ok : Succeeds attempt) :
      Succeeds attempt ↔ false = false := iff_of_true ok rfl
  cases computation with
  | percentiles source percents compression =>
    obtain ⟨items, listed⟩ := copied
    exact written ⟨_, by rw [body, listed]; rfl⟩
  | percentileRanks source values compression =>
    obtain ⟨items, listed⟩ := copied
    exact written ⟨_, by rw [body, listed]; rfl⟩
  | terms source size order minDocCount =>
    obtain ⟨entries, ordered⟩ := copied
    exact written ⟨_, by rw [body, ordered]; rfl⟩
  | histogram field interval minDocCount orderMode direction extended keyed =>
    rw [body, ordersByContainer, ← succeeds_orderedBy orderMode direction, succeeds_bind]
    constructor
    · rintro ⟨order, ordered, _⟩
      exact ⟨order, ordered⟩
    · rintro ⟨order, ordered⟩
      exact ⟨order, ordered, succeeds_ok _⟩
  | _ => exact written ⟨_, rfl⟩

end Computation

namespace Aggregation

theorem succeeds_toJson {a : Aggregation} {extra : Object} (copied : a.computation.Copied)
    (plain : a.options = .obj extra) :
    Succeeds a.toJson ↔ a.computation.ordersByContainer = false := by
  rw [← Computation.succeeds_body copied extra, ← plain, toJson, succeeds_bind]
  constructor
  · rintro ⟨body, written, _⟩
    exact ⟨body, written⟩
  · rintro ⟨body, written⟩
    exact ⟨body, written, succeeds_ok _⟩

theorem build_eq_ok {kind : AggregationKind} {a : Object} {aggregation : Aggregation}
    (built : build kind a = .ok aggregation) :
    Computation.build kind a = .ok aggregation.computation ∧
      aggregation.options = a.field "options" := by
  obtain ⟨name, _, built⟩ := bind_eq_ok.mp built
  obtain ⟨computation, made, same⟩ := bind_eq_ok.mp built
  cases same
  exact ⟨mapError_eq_ok.mp made, rfl⟩

end Aggregation

namespace AggregationKind

theorem field_options {kind : AggregationKind} {args a : Object}
    (bound : kind.operationSignature.bind args = .ok a) :
    ∃ extra, a.field "options" = .obj extra := by
  have takes : kind.operationSignature.takesOptions = true := rfl
  have apart : "options" ∉ kind.operationSignature.parameters.map (·.field) := by
    cases kind with
    | metric figure => cases figure <;> decide
    | _ => decide
  exact ⟨_, Signature.options_of_bind takes apart bound⟩

theorem field_options_of_copied {kind : AggregationKind} {a fields : Object}
    (copied : kind.copied a = .ok fields) : fields.field "options" = a.field "options" := by
  have set {key : String} (other : "options" ≠ key) (value : Json) :
      (a.set key value).field "options" = a.field "options" := Object.field_set_of_ne a other value
  cases kind
  case percentiles | percentileRanks | terms | range | dateRange | ipRange | geoDistance =>
    obtain ⟨copy, _, same⟩ := bind_eq_ok.mp copied
    cases same
    exact set (by decide) copy
  all_goals
    cases copied
    rfl

theorem copied_of_build {kind : AggregationKind} {a fields : Object} {computation : Computation}
    (copied : kind.copied a = .ok fields)
    (built : Computation.build kind fields = .ok computation) : computation.Copied := by
  cases kind
  case percentiles =>
    obtain ⟨copy, listed, same⟩ := bind_eq_ok.mp copied
    cases same
    obtain ⟨source, _, same⟩ := bind_eq_ok.mp built
    cases same
    simp only [Computation.Copied, Object.field_set]
    exact ⟨copy, Computation.listedUnlessNull_again listed⟩
  case percentileRanks =>
    obtain ⟨copy, listed, same⟩ := bind_eq_ok.mp copied
    cases same
    obtain ⟨source, _, built⟩ := bind_eq_ok.mp built
    obtain ⟨values, given, same⟩ := bind_eq_ok.mp built
    cases same
    unfold Computation.valuesOf at given
    rw [Object.field_set] at given
    split at given
    · cases given
      exact ⟨copy, Computation.listed_again listed⟩
    · cases given
  case terms =>
    obtain ⟨copy, ordered, same⟩ := bind_eq_ok.mp copied
    cases same
    obtain ⟨source, _, same⟩ := bind_eq_ok.mp built
    cases same
    simp only [Computation.Copied, Object.field_set]
    exact Computation.succeeds_ordered_again ordered
  case metric figure =>
    obtain ⟨source, _, same⟩ := bind_eq_ok.mp built
    cases same
    trivial
  -- The other kinds are given nothing that is copied.
  all_goals
    obtain ⟨_, _, built⟩ := bind_eq_ok.mp built
    repeat obtain ⟨_, _, built⟩ := bind_eq_ok.mp built
    cases built
    trivial

/-- An aggregation that an operation adds can be written unless it is a histogram that is ordered
by a list or an object. -/
theorem succeeds_of_request {kind : AggregationKind} {args : Object} {aggregation : Aggregation}
    (requested : kind.request args = .ok aggregation) :
    Succeeds aggregation.toJson ↔ aggregation.computation.ordersByContainer = false := by
  obtain ⟨a, bound, requested⟩ := bind_eq_ok.mp requested
  obtain ⟨fields, copied, built⟩ := bind_eq_ok.mp requested
  obtain ⟨made, options⟩ := Aggregation.build_eq_ok built
  obtain ⟨extra, plain⟩ := field_options bound
  rw [field_options_of_copied copied, plain] at options
  exact Aggregation.succeeds_toJson (copied_of_build copied made) options

end AggregationKind

end SearchRequest
