import SearchRequest.Arguments
import SearchRequest.Proofs.Json.Merge

/-!
What binding arguments gives: every field of the signature, and the options of a signature that
takes any as an object of their own.
-/

namespace SearchRequest

theorem Object.field_append_of_absent {a b : Object} {key : String} (absent : key ∉ a.keys) :
    (a ++ b : Object).field key = b.field key := by
  rw [field, get?_append, get?_eq_none.mpr absent, Option.none_or]
  rfl

theorem Parameter.value_optional (name : String) (args : Object) :
    (optional name).value args = args.field name := by
  simp only [value, optional, Object.field]
  cases args.get? name <;> rfl

namespace Signature

theorem fields_of_bind {s : Signature} {args a : Object} (bound : s.bind args = .ok a) :
    a = s.parameters.map (fun p => (p.field, p.value args)) ++
      if s.takesOptions then [("options", .obj (s.extra args))] else [] := by
  unfold bind at bound
  split at bound
  · cases bound
  · split at bound
    · rename_i takes
      cases bound
      rw [if_pos takes]
    · rename_i takes
      split at bound
      · cases bound
        rw [if_neg takes, List.append_nil]
      · cases bound

theorem field_of_bind {s : Signature} {args a : Object} (bound : s.bind args = .ok a) (key : String)
    {p : Parameter} (sets : s.parameters.find? (fun q => key == q.field) = some p) :
    a.field key = p.value args := by
  have found : Object.get? (s.parameters.map fun q => (q.field, q.value args)) key =
      (s.parameters.find? fun q => key == q.field).map (·.value args) := by
    induction s.parameters with
    | nil => rfl
    | cons q rest ih =>
      rw [List.map_cons, Object.get?_cons, List.find?_cons, ih]
      by_cases same : key = q.field
      · simp only [same, if_true, beq_self_eq_true, Option.map_some]
      · simp only [same, if_false, beq_eq_false_iff_ne.mpr same]
  rw [fields_of_bind bound, Object.field, Object.get?_append, found, sets]
  rfl

/-- Under a name of its own, and with nothing but null to fall back on, a field is the argument. -/
theorem argument_of_bind {s : Signature} {args a : Object} (bound : s.bind args = .ok a)
    (key : String) {fallback : Option Json}
    (sets : s.parameters.find? (fun q => key == q.field) = some ⟨key, key, fallback⟩)
    (plain : fallback.getD .null = .null) : a.field key = args.field key := by
  rw [field_of_bind bound key sets, Parameter.value, plain, Object.field]
  cases args.get? key <;> rfl

theorem knows_iff {s : Signature} {name : String} :
    s.knows name = true ↔ name ∈ s.parameters.map (·.name) := by
  simp only [knows, List.any_eq_true, beq_iff_eq, List.mem_map]

theorem knows_of_bind {s : Signature} {args a : Object} (closed : s.takesOptions = false)
    (bound : s.bind args = .ok a) : ∀ key ∈ args.keys, s.knows key = true := by
  unfold bind at bound
  rw [closed] at bound
  split at bound
  · cases bound
  · split at bound
    · contradiction
    · split at bound
      · rename_i none
        intro key listed
        obtain ⟨entry, member, rfl⟩ := List.mem_map.mp listed
        have kept := List.filter_eq_nil_iff.mp (List.isEmpty_iff.mp none) entry member
        simpa using kept
      · cases bound

/-- Arguments that are all known and leave out none that is required are taken. -/
theorem bind_of_known {s : Signature} {args : Object} (closed : s.takesOptions = false)
    (satisfied : s.parameters.all (·.satisfied args) = true)
    (known : ∀ key ∈ args.keys, s.knows key = true) (free : s.knows receiver = false) :
    s.bind args = .ok (s.parameters.map fun p => (p.field, p.value args)) := by
  have absent : args.has receiver = false := Object.has_eq_false.mpr fun listed => by
    rw [known receiver listed] at free
    cases free
  have none : s.extra args = [] := by
    refine List.filter_eq_nil_iff.mpr fun entry member => ?_
    rw [known entry.1 (List.mem_map_of_mem member)]
    decide
  rw [bind, satisfied, absent, closed, none]
  rfl

theorem options_of_bind {s : Signature} {args a : Object} (takes : s.takesOptions = true)
    (apart : "options" ∉ s.parameters.map (·.field)) (bound : s.bind args = .ok a) :
    a.field "options" = .obj (s.extra args) := by
  have absent : "options" ∉ Object.keys (s.parameters.map fun p => (p.field, p.value args)) := by
    simpa [Object.keys, Function.comp_def] using apart
  rw [fields_of_bind bound, if_pos takes, Object.field_append_of_absent absent]
  rfl

end Signature

end SearchRequest
