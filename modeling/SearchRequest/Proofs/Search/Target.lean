import SearchRequest.Proofs.Search.History

/-!
What a search is sent to. Every step of a run leaves it the names it had, or gives it names that
are not blank.
-/

namespace SearchRequest

theorem Edit.nameIn_eq_ok {label name : String} {value : Json} :
    nameIn label value = .ok name ↔ value = .str name ∧ Text.isBlank name = false := by
  cases value with
  | str text => exact unless_blank_eq_ok
  | _ => exact iff_of_false (by rintro ⟨⟩) (by rintro ⟨⟨⟩, _⟩)

def Change.Named : Change → Prop
  | .index name | .docType name => Text.isBlank name = false
  | _ => True

structure Search.Named (s : Search) : Prop where
  index : ∀ name, s.index = some name → Text.isBlank name = false
  docType : ∀ name, s.docType = some name → Text.isBlank name = false

namespace Search

theorem named_fresh : fresh.Named := ⟨nofun, nofun⟩

theorem target_addAll (s : Search) (added : List Clause) :
    (s.addAll added).index = s.index ∧ (s.addAll added).docType = s.docType := by
  induction added generalizing s with
  | nil => exact ⟨rfl, rfl⟩
  | cons clause rest ih => exact ih (s.add clause)

theorem named_apply {s : Search} (named : s.Named) {change : Change} (changed : change.Named) :
    (s.apply change).Named := by
  cases change with
  | index name => exact ⟨fun _ same => Option.some.inj same ▸ changed, named.docType⟩
  | docType name => exact ⟨named.index, fun _ same => Option.some.inj same ▸ changed⟩
  | clauses added =>
    obtain ⟨index, docType⟩ := target_addAll s added
    exact ⟨fun name same => named.index name (index ▸ same),
      fun name same => named.docType name (docType ▸ same)⟩
  | _ => exact ⟨named.index, named.docType⟩

theorem named_applyAll {s : Search} (named : s.Named) {changes : List Change}
    (each : ∀ change ∈ changes, change.Named) : (s.applyAll changes).Named := by
  induction changes generalizing s with
  | nil => exact named
  | cons change rest ih =>
    obtain ⟨first, others⟩ := List.forall_mem_cons.mp each
    exact ih (named_apply named first) others

end Search

namespace SearchStep

theorem named_changes (step : SearchStep) (w : World) :
    ∀ change ∈ step.changes w, change.Named := by
  intro change listed
  cases makes_of_mem listed with
  | @edit e args change accepted =>
    obtain ⟨a, _, made⟩ := bind_eq_ok.mp accepted
    cases e with
    | index | docType =>
      obtain ⟨name, named, same⟩ := bind_eq_ok.mp made
      cases same
      exact (Edit.nameIn_eq_ok.mp named).2
    | role | minimumShouldMatch =>
      cases made
      trivial
    | _ =>
      obtain ⟨value, _, same⟩ := bind_eq_ok.mp made
      cases same
      trivial
  | _ => trivial

theorem named_run (step : SearchStep) (w : World) {s : Search} (named : s.Named) :
    (step.run w s).state.2.Named := by
  rw [search_run]
  refine Search.named_applyAll ?_ (named_changes step w)
  unfold withAggregations
  split
  · split
    · exact named
    · exact ⟨named.index, named.docType⟩
  · exact named

theorem named_final (steps : List SearchStep) (w : World) {s : Search} (named : s.Named) :
    (final steps (w, s)).2.Named :=
  final_invariant (P := fun state => state.2.Named)
    (fun step _ state before => named_run step state.1 before) named

theorem final_cons (step : SearchStep) (rest : List SearchStep) (state : World × Search) :
    final (step :: rest) state = final rest (step.run state.1 state.2).state := by
  rw [final, final, Outcome.last_each_cons]

theorem final_append (steps later : List SearchStep) (state : World × Search) :
    final (steps ++ later) state = final later (final steps state) := by
  induction steps generalizing state with
  | nil => rfl
  | cons step rest ih => rw [List.cons_append, final_cons, final_cons, ih]

end SearchStep

end SearchRequest
