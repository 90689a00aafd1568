import SearchRequest.Clause.Basic
import SearchRequest.Proofs.Json.Merge
import SearchRequest.Proofs.Outcome

/-!
What a boolean query is written with: a list for each role that has clauses, and the parameters that
are given. The keys of the two are apart.
-/

namespace SearchRequest

theorem Role.name_injective {a b : Role} (same : a.name = b.name) : a = b := by
  cases a <;> cases b <;> first | rfl | exact absurd same (by decide)

theorem eq_nil_of_clausesToJson {clauses : List Clause}
    (none : clausesToJson clauses = .ok []) : clauses = [] := by
  cases clauses with
  | nil => rfl
  | cons clause rest =>
    obtain ⟨json, _, others⟩ := bind_eq_ok.mp none
    obtain ⟨tail, _, same⟩ := bind_eq_ok.mp others
    cases same

theorem parameters_eq_given {q : BoolQuery} (plain : q.options = .obj []) :
    q.parameters = .ok (Object.given
      [("minimum_should_match", q.minimumShouldMatch), ("boost", q.boost)]) := by
  rw [BoolQuery.parameters, plain]
  change Except.ok (Object.merge _ []) = _
  rw [Object.merge_nil]

theorem given_parameters_eq_nil {minimumShouldMatch boost : Json} :
    Object.given [("minimum_should_match", minimumShouldMatch), ("boost", boost)] = [] ↔
      (minimumShouldMatch.isNull && boost.isNull) = true := by
  simp [Object.given]

namespace BoolQuery

theorem clauses_of_isEmpty {q : BoolQuery} (empty : q.isEmpty = true) (role : Role) :
    q.clauses role = [] := by
  simp only [isEmpty, Bool.and_eq_true, List.isEmpty_iff] at empty
  obtain ⟨⟨⟨must, should⟩, mustNot⟩, filter⟩ := empty
  cases role <;> assumption

def group (jsons : Role → List Json) (role : Role) : Option (String × Json) :=
  if (jsons role).isEmpty then none else some (role.name, .arr (jsons role))

theorem roleEntries_eq_groups (jsons : Role → List Json) :
    roleEntries (jsons .must) (jsons .should) (jsons .mustNot) (jsons .filter) =
      Role.all.filterMap (group jsons) := rfl

theorem name_of_group {jsons : Role → List Json} {role : Role} {entry : String × Json}
    (listed : group jsons role = some entry) : entry.1 = role.name := by
  unfold group at listed
  split at listed <;> cases listed
  rfl

theorem role_of_mem_keys {jsons : Role → List Json} {roles : List Role} {key : String}
    (listed : key ∈ Object.keys (roles.filterMap (group jsons))) :
    ∃ role : Role, key = role.name := by
  obtain ⟨entry, member, rfl⟩ := List.mem_map.mp listed
  obtain ⟨role, _, made⟩ := List.mem_filterMap.mp member
  exact ⟨role, name_of_group made⟩

theorem get?_groups (jsons : Role → List Json) (role : Role) (roles : List Role) :
    Object.get? (roles.filterMap (group jsons)) role.name =
      if role ∈ roles then (group jsons role).map Prod.snd else none := by
  induction roles with
  | nil => rfl
  | cons first rest ih =>
    rw [List.filterMap_cons]
    by_cases same : role = first
    · subst same
      rw [if_pos List.mem_cons_self]
      cases made : group jsons role with
      | none => simpa [made] using ih
      | some entry =>
        simp only [Object.get?_cons, name_of_group made, if_true, Option.map_some]
    · have passed : role ∈ first :: rest ↔ role ∈ rest := by simp [same]
      simp only [passed]
      cases made : group jsons first with
      | none => exact ih
      | some entry =>
        have other : role.name ≠ entry.1 := fun named =>
          same (Role.name_injective (named.trans (name_of_group made)))
        simp only [Object.get?_cons, if_neg other, ih]

theorem get?_parameters_of_role (minimum boost : Json) (role : Role) :
    Object.get? (Object.given [("minimum_should_match", minimum), ("boost", boost)]) role.name =
      none := by
  rw [Object.get?_eq_none]
  intro listed
  have named := Object.mem_keys_given listed
  cases role <;> simp [Object.keys, Role.name] at named

def entries (jsons : Role → List Json) (minimum boost : Json) : Object :=
  Object.merge (Role.all.filterMap (group jsons))
    (Object.given [("minimum_should_match", minimum), ("boost", boost)])

theorem get?_entries_of_role (jsons : Role → List Json) (minimum boost : Json) (role : Role) :
    Object.get? (entries jsons minimum boost) role.name = (group jsons role).map Prod.snd := by
  have listed : role ∈ Role.all := by cases role <;> decide
  rw [entries, Object.get?_merge, get?_parameters_of_role, get?_groups, if_pos listed,
    Option.none_or]

theorem field_minimum (jsons : Role → List Json) (minimum boost : Json) :
    Object.field (entries jsons minimum boost) "minimum_should_match" = minimum := by
  have absent : Object.get? (Role.all.filterMap (group jsons)) "minimum_should_match" = none := by
    rw [Object.get?_eq_none]
    intro listed
    obtain ⟨role, named⟩ := role_of_mem_keys listed
    cases role <;> exact absurd named (by decide)
  rw [Object.field, entries, Object.get?_merge, absent, Option.or_none]
  cases minimum <;> cases boost <;> rfl

end BoolQuery

end SearchRequest
