import SearchRequest.Proofs.Search.Writable

/-!
Compiling after a run of a search's own steps. It succeeds exactly when no histogram in the body is
ordered by a list or an object, and so it does when no step asks for such a histogram.
-/

namespace SearchRequest

namespace AggregationStep

def ordersByContainer : AggregationStep → Bool
  | .add .histogram args =>
      (Object.field args "order_mode").truthy && !(Object.field args "order_mode").isScalar
  | _ => false

theorem ordersByContainer_of_request {kind : AggregationKind} {args : Object} {a : Aggregation}
    (requested : kind.request args = .ok a) :
    a.computation.ordersByContainer = (add kind args).ordersByContainer := by
  obtain ⟨fields, bound, taken⟩ := bind_eq_ok.mp requested
  obtain ⟨copied, copying, built⟩ := bind_eq_ok.mp taken
  have made := (Aggregation.build_eq_ok built).1
  cases kind
  case histogram =>
    -- Nothing of a histogram is copied: its order is the argument itself.
    cases copying
    obtain ⟨field, _, ranged⟩ := bind_eq_ok.mp made
    obtain ⟨interval, _, directed⟩ := bind_eq_ok.mp ranged
    obtain ⟨direction, _, same⟩ := bind_eq_ok.mp directed
    have mode : fields.field "order_mode" = Object.field args "order_mode" := by
      rw [Signature.fields_of_bind bound]
      exact Parameter.value_optional "order_mode" args
    rw [← Except.ok.inj same, Computation.ordersByContainer, mode]
    rfl
  case metric figure =>
    obtain ⟨source, _, same⟩ := bind_eq_ok.mp made
    rw [← Except.ok.inj same]
    rfl
  all_goals
    obtain ⟨_, _, made⟩ := bind_eq_ok.mp made
    repeat obtain ⟨_, _, made⟩ := bind_eq_ok.mp made
    rw [← Except.ok.inj made]
    rfl

end AggregationStep

namespace SearchStep

def ordersByContainer : SearchStep → Bool
  | .aggregate _ (some steps) => steps.any AggregationStep.ordersByContainer
  | _ => false

theorem ordered_run {step : SearchStep} (own : step.isOwn = true)
    (ordered : step.ordersByContainer = false) (w : World) {s : Search}
    (before : ∀ a ∈ s.document.aggregations.entries, a.computation.ordersByContainer = false) :
    ∀ a ∈ (step.run w s).state.2.document.aggregations.entries,
      a.computation.ordersByContainer = false := by
  rw [search_run, Search.aggregations_applyAll]
  unfold withAggregations
  split
  · rename_i args steps
    split
    · exact before
    · rw [isOwn] at own
      refine AggregationStep.forall_runAll ?_ own before
      intro step listed kind args a same requested
      subst same
      rw [AggregationStep.ordersByContainer_of_request requested]
      exact Bool.eq_false_iff.mpr (List.any_eq_false.mp ordered _ listed)
  · exact before

theorem ordered_final {steps : List SearchStep} (own : ∀ step ∈ steps, step.isOwn = true)
    (ordered : ∀ step ∈ steps, step.ordersByContainer = false) (w : World) {s : Search}
    (before : ∀ a ∈ s.document.aggregations.entries, a.computation.ordersByContainer = false) :
    ∀ a ∈ (final steps (w, s)).2.document.aggregations.entries,
      a.computation.ordersByContainer = false :=
  final_invariant (P := fun state => ∀ a ∈ state.2.document.aggregations.entries,
      a.computation.ordersByContainer = false)
    (fun step listed state => ordered_run (own step listed) (ordered step listed) state.1) before

/-- After steps of its own, accepted or refused, a search compiles exactly when none of its
aggregations is a histogram that was accepted with a list or an object for its order, and it does
so whenever no step has asked for one. -/
theorem compiles_iff (w : World) (steps : List SearchStep)
    (own : ∀ step ∈ steps, step.isOwn = true) :
    let s := (final steps (w, .fresh)).2
    (Succeeds (View.body.of s) ↔
      ∀ a ∈ s.document.aggregations.entries, a.computation.ordersByContainer = false) ∧
    ((∀ step ∈ steps, step.ordersByContainer = false) → Succeeds (View.body.of s)) := by
  intro s
  have writable : s.Writable := writable_final own w Search.writable_fresh
  have compiled : Succeeds (View.body.of s) ↔
      ∀ a ∈ s.document.aggregations.entries, a.computation.ordersByContainer = false := by
    rw [← writable.succeeds_body]
    change Succeeds (s.document.toJson) ↔ _
    rw [Document.toJson, succeeds_bind]
    exact ⟨fun ⟨body, written, _⟩ => ⟨body, written⟩,
      fun ⟨body, written⟩ => ⟨body, written, succeeds_ok _⟩⟩
  exact ⟨compiled, fun ordered => compiled.mpr (ordered_final own ordered w nofun)⟩

def histogramOrderedBy (mode : Json) : List SearchStep :=
  [.aggregate [("callback", .null)]
    (some [.add .histogram
      [("alias", .str "prices"), ("field", .str "price"), ("interval", .int 10),
       ("order_mode", mode)]])]

theorem compiles_histogramOrderedBy_key :
    (∀ step ∈ histogramOrderedBy (.str "_key"), step.isOwn = true) ∧
      Succeeds (View.body.of (final (histogramOrderedBy (.str "_key")) (.isolated, .fresh)).2) := by
  have own : ∀ step ∈ histogramOrderedBy (.str "_key"), step.isOwn = true := by decide
  exact ⟨own, (compiles_iff .isolated _ own).2 (by decide)⟩

/-- Every step is accepted, and still the search does not compile. -/
theorem not_compiles_histogramOrderedBy_list :
    (∀ step ∈ histogramOrderedBy (.arr [.str "_key"]), step.isOwn = true) ∧
      (∀ step ∈ histogramOrderedBy (.arr [.str "_key"]),
        Succeeds (step.run .isolated .fresh).result) ∧
      View.body.of (final (histogramOrderedBy (.arr [.str "_key"])) (.isolated, .fresh)).2 =
        .error .wrongKind := by
  refine ⟨by decide, ?_, rfl⟩
  intro step listed
  rw [List.mem_singleton.mp listed]
  exact ⟨_, rfl⟩

end SearchStep

end SearchRequest
