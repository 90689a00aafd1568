import Mathlib.Data.List.Basic
import SearchRequest.Document.Basic
import SearchRequest.Proofs.Json.Merge
import SearchRequest.Proofs.Outcome

/-!
Aggregations under one alias. What a document holds and what was logged are read off the list of the
aggregations that were added to it, in order: each alias stands where it first appeared, with the
aggregation that was added last under it, and an aggregation that takes the place of another was
noted with the kinds of both.
-/

namespace SearchRequest

def Event.isReplacement : Event → Bool
  | .aggregationOverridden .. => true
  | _ => false

namespace Aggregation

/-- The aliases of aggregations, each once, in the order in which they first appear. -/
def aliasesOf (added : List Aggregation) : List String := (added.map (·.name)).eraseDups

def latest? (added : List Aggregation) (name : String) : Option Aggregation :=
  (added.filter (·.name == name)).getLast?

def replacing (before : List Aggregation) (a : Aggregation) : Option Event :=
  (latest? before a.name).map fun previous =>
    .aggregationOverridden a.name previous.kind a.kind

/-- One event for each aggregation whose alias occurs earlier in the list. -/
def replacements (added : List Aggregation) : List Event :=
  added.zipIdx.filterMap fun entry => replacing (added.take entry.2) entry.1

theorem aliasesOf_concat (added : List Aggregation) (a : Aggregation) :
    aliasesOf (added ++ [a]) =
      if a.name ∈ aliasesOf added then aliasesOf added else aliasesOf added ++ [a.name] := by
  simp only [aliasesOf, List.map_append, List.map_cons, List.map_nil, List.eraseDups_append,
    List.mem_eraseDups, List.cons_removeAll, List.nil_removeAll]
  by_cases listed : a.name ∈ added.map (·.name)
  · simp [listed]
  · simp [listed, List.eraseDups_cons]

theorem latest?_concat (added : List Aggregation) (a : Aggregation) (name : String) :
    latest? (added ++ [a]) name = if name = a.name then some a else latest? added name := by
  unfold latest?
  rw [List.filter_append]
  by_cases same : name = a.name
  · simp [same]
  · have other : (a.name == name) = false := beq_eq_false_iff_ne.mpr (Ne.symm same)
    simp [same, other]

theorem exists_latest? {added : List Aggregation} {name : String}
    (listed : name ∈ aliasesOf added) : ∃ a, latest? added name = some a := by
  rw [aliasesOf, List.mem_eraseDups] at listed
  obtain ⟨a, member, rfl⟩ := List.mem_map.mp listed
  have filled : added.filter (·.name == a.name) ≠ [] :=
    List.ne_nil_of_mem (List.mem_filter.mpr ⟨member, beq_self_eq_true a.name⟩)
  exact ⟨_, List.getLast?_eq_some_getLast filled⟩

theorem aliasesOf_eq_nil {added : List Aggregation} : aliasesOf added = [] ↔ added = [] := by
  cases added with
  | nil => exact iff_of_true rfl rfl
  | cons a rest => simp [aliasesOf, List.eraseDups_cons]

theorem isReplacement_of_mem {added : List Aggregation} {e : Event}
    (listed : e ∈ replacements added) : e.isReplacement = true := by
  obtain ⟨entry, _, replaced⟩ := List.mem_filterMap.mp listed
  obtain ⟨previous, _, rfl⟩ := Option.map_eq_some_iff.mp replaced
  rfl

theorem replacements_concat (added : List Aggregation) (a : Aggregation) :
    replacements (added ++ [a]) = replacements added ++ (replacing added a).toList := by
  have earlier : ∀ entry ∈ added.zipIdx,
      replacing ((added ++ [a]).take entry.2) entry.1 = replacing (added.take entry.2) entry.1 := by
    intro entry listed
    have bound : entry.2 < added.length :=
      (List.getElem?_eq_some_iff.mp (List.mk_mem_zipIdx_iff_getElem?.mp listed)).1
    rw [List.take_append_of_le_length (Nat.le_of_lt bound)]
  rw [replacements, List.zipIdx_append, List.filterMap_append, List.filterMap_congr earlier,
    ← replacements]
  simp only [Nat.zero_add, List.zipIdx_cons, List.zipIdx_nil, List.filterMap_cons,
    List.filterMap_nil, List.take_left]
  cases replacing added a <;> rfl

end Aggregation

namespace AggregationTable

theorem get?_map_named (entries : List Aggregation) (a : Aggregation) (name : String) :
    (entries.map fun entry => if entry.name == a.name then a else entry).find? (·.name == name) =
      if name = a.name then (entries.find? (·.name == name)).map fun _ => a
      else entries.find? (·.name == name) := by
  induction entries with
  | nil => simp
  | cons entry rest ih =>
    rw [List.map_cons, List.find?_cons, List.find?_cons, ih]
    by_cases same : name = a.name
    · subst same
      by_cases here : entry.name = a.name
      · simp [here]
      · have apart : (entry.name == a.name) = false := beq_eq_false_iff_ne.mpr here
        simp [apart]
    · by_cases here : entry.name = a.name
      · have other : (a.name == name) = false := beq_eq_false_iff_ne.mpr (Ne.symm same)
        simp [here, same, other]
      · simp [here, same]

theorem get?_insert (t : AggregationTable) (a : Aggregation) (name : String) :
    (t.insert a).get? name = if name = a.name then some a else t.get? name := by
  unfold insert
  split
  · rename_i held
    change (List.map _ t.entries).find? _ = _
    rw [get?_map_named]
    split
    · rename_i same
      subst same
      obtain ⟨old, found⟩ := Option.isSome_iff_exists.mp held
      rw [get?] at found
      rw [found]
      rfl
    · rfl
  · rename_i absent
    change (t.entries ++ [a]).find? _ = _
    rw [List.find?_append]
    by_cases same : name = a.name
    · subst same
      have none : t.entries.find? (·.name == a.name) = none := by
        simpa [get?] using absent
      simp [none]
    · have other : (a.name == name) = false := beq_eq_false_iff_ne.mpr (Ne.symm same)
      simp [same, other, get?]

theorem isSome_get? (t : AggregationTable) (name : String) :
    (t.get? name).isSome = true ↔ name ∈ t.aliases := by
  simp [get?, aliases, List.find?_isSome]

theorem aliases_insert (t : AggregationTable) (a : Aggregation) :
    (t.insert a).aliases = if a.name ∈ t.aliases then t.aliases else t.aliases ++ [a.name] := by
  unfold insert
  split
  · rename_i held
    rw [if_pos ((isSome_get? t a.name).mp held)]
    simp only [aliases, List.map_map]
    refine List.map_congr_left fun entry _ => ?_
    by_cases same : entry.name = a.name <;> simp [same]
  · rename_i absent
    rw [if_neg fun listed => absent ((isSome_get? t a.name).mpr listed)]
    simp [aliases]

theorem keys_toJsonList {entries : List Aggregation} {jsons : Object}
    (listed : toJsonList entries = .ok jsons) : jsons.keys = entries.map (·.name) := by
  induction entries generalizing jsons with
  | nil =>
    cases listed
    rfl
  | cons a rest ih =>
    obtain ⟨body, _, others⟩ := bind_eq_ok.mp listed
    obtain ⟨tail, restListed, same⟩ := bind_eq_ok.mp others
    cases same
    exact congrArg (a.name :: ·) (ih restListed)

theorem get?_toJsonList {entries : List Aggregation} {jsons : Object}
    (listed : toJsonList entries = .ok jsons) {name : String} {a : Aggregation}
    (found : entries.find? (·.name == name) = some a) :
    ∃ json, a.toJson = .ok json ∧ jsons.get? name = some json := by
  induction entries generalizing jsons with
  | nil => cases found
  | cons first rest ih =>
    obtain ⟨body, written, others⟩ := bind_eq_ok.mp listed
    obtain ⟨tail, restListed, same⟩ := bind_eq_ok.mp others
    cases same
    rw [List.find?_cons] at found
    by_cases here : first.name = name
    · simp only [here, beq_self_eq_true] at found
      cases found
      exact ⟨body, written, by rw [Object.get?_cons, if_pos here.symm]⟩
    · have other : (first.name == name) = false := beq_eq_false_iff_ne.mpr here
      rw [other] at found
      obtain ⟨json, later, at_⟩ := ih restListed found
      exact ⟨json, later, by rw [Object.get?_cons, if_neg (Ne.symm here), at_]⟩

end AggregationTable

end SearchRequest
