import SearchRequest.Json.Basic

/-!
Laws of objects: looking up a key in objects that are put together, and merging objects that have
no key in common.
-/

namespace SearchRequest

theorem Json.isNull_iff {value : Json} : value.isNull = true ↔ value = .null := by
  cases value <;> simp [isNull]

namespace Object

theorem get?_cons (entry : String × Json) (rest : Object) (key : String) :
    get? (entry :: rest) key = if key = entry.1 then some entry.2 else get? rest key := by
  obtain ⟨name, value⟩ := entry
  rw [get?, List.lookup_cons]
  by_cases same : key = name
  · simp [same]
  · have other : (key == name) = false := beq_eq_false_iff_ne.mpr same
    simp only [other, same, if_false, get?]

theorem get?_append (a b : Object) (key : String) :
    get? (a ++ b) key = (get? a key).or (get? b key) := List.lookup_append

theorem get?_flatten (objects : List Object) (key : String) :
    get? objects.flatten key = objects.findSome? (get? · key) := by
  induction objects with
  | nil => rfl
  | cons first rest ih =>
    rw [List.flatten_cons, get?_append, ih, List.findSome?_cons]
    cases get? first key <;> rfl

theorem get?_filterMap (value? : String → Option Json) (keys : List String) (key : String) :
    get? (keys.filterMap fun key => (value? key).map (key, ·)) key =
      if key ∈ keys then value? key else none := by
  induction keys with
  | nil => rfl
  | cons first rest ih =>
    rw [List.filterMap_cons]
    by_cases same : key = first
    · subst same
      cases found : value? key with
      | none => simp [ih, found]
      | some value => simp [get?_cons]
    · cases value? first with
      | none => simp [ih, same]
      | some value => simp [get?_cons, ih, same]

theorem keys_append (a b : Object) : keys (a ++ b) = keys a ++ keys b := List.map_append

theorem get?_eq_none {o : Object} {key : String} : get? o key = none ↔ key ∉ o.keys := by
  rw [get?, List.lookup_eq_none_iff, keys]
  constructor
  · intro absent member
    obtain ⟨entry, listed, same⟩ := List.mem_map.mp member
    exact absurd same.symm (by simpa using absent entry listed)
  · intro absent entry listed
    have other : key ≠ entry.1 := fun same => absent (List.mem_map.mpr ⟨entry, listed, same.symm⟩)
    simpa using other

theorem get?_of_mem {o : Object} (distinct : o.keys.Nodup) {entry : String × Json}
    (listed : entry ∈ o) : o.get? entry.1 = some entry.2 := by
  induction o with
  | nil => cases listed
  | cons first rest ih =>
    obtain ⟨foreign, others⟩ := List.nodup_cons.mp distinct
    rw [get?_cons]
    rcases List.mem_cons.mp listed with rfl | later
    · rw [if_pos rfl]
    · have known : entry.1 ∈ keys rest := List.mem_map_of_mem later
      rw [if_neg fun same => foreign (by rwa [same] at known), ih others later]

theorem has_eq_false {o : Object} {key : String} : has o key = false ↔ key ∉ o.keys := by
  rw [has, Option.isSome_eq_false_iff, Option.isNone_iff_eq_none, get?_eq_none]

theorem field_of_absent {o : Object} {key : String} (absent : key ∉ o.keys) :
    o.field key = .null := by
  rw [field, get?_eq_none.mpr absent]
  rfl

theorem keys_given_sublist (o : Object) : (given o).keys.Sublist o.keys :=
  List.filter_sublist.map _

theorem mem_keys_given {o : Object} {key : String} (listed : key ∈ (given o).keys) :
    key ∈ o.keys := by
  obtain ⟨entry, member, rfl⟩ := List.mem_map.mp listed
  exact List.mem_map_of_mem (List.mem_filter.mp member).1

theorem given_cons (entry : String × Json) (rest : Object) :
    given (entry :: rest) = if entry.2.isNull then given rest else entry :: given rest := by
  cases null : entry.2.isNull <;> simp [given, null]

theorem get?_given {o : Object} (distinct : o.keys.Nodup) (key : String) :
    get? (given o) key = (get? o key).filter fun value => !value.isNull := by
  induction o with
  | nil => rfl
  | cons entry rest ih =>
    obtain ⟨foreign, others⟩ := List.nodup_cons.mp distinct
    rw [given_cons, get?_cons]
    by_cases same : key = entry.1
    · subst same
      have absent : get? (given rest) entry.1 = none :=
        get?_eq_none.mpr fun listed => foreign (mem_keys_given listed)
      cases null : entry.2.isNull with
      | true => simp [Option.filter_some, null, absent]
      | false => simp [Option.filter_some, null, get?_cons]
    · cases entry.2.isNull with
      | true => simpa [same] using ih others
      | false => simpa [same, get?_cons] using ih others

theorem field_given {o : Object} (distinct : o.keys.Nodup) (key : String) :
    o.given.field key = o.field key := by
  rw [field, field, get?_given distinct]
  cases o.get? key with
  | none => rfl
  | some value =>
    cases null : value.isNull with
    | true =>
      rw [Option.filter_some, null, Json.isNull_iff.mp null]
      rfl
    | false =>
      rw [Option.filter_some, null]
      rfl

@[simp] theorem merge_nil (o : Object) : merge o [] = o := by
  simp [merge, get?]

theorem merge_of_apart {base winning : Object} (apart : ∀ key ∈ base.keys, key ∉ winning.keys) :
    merge base winning = base ++ winning := by
  have kept : base.map (fun entry => (entry.1, (get? winning entry.1).getD entry.2)) = base := by
    apply List.map_congr_left (g := id) _ |>.trans (List.map_id base)
    intro entry listed
    have absent := get?_eq_none.mpr (apart entry.1 (List.mem_map_of_mem listed))
    simp [absent]
  have added : winning.filter (fun entry => !has base entry.1) = winning := by
    apply List.filter_eq_self.mpr
    intro entry listed
    have foreign : entry.1 ∉ base.keys := fun shared =>
      apart entry.1 shared (List.mem_map_of_mem listed)
    simp [has_eq_false.mpr foreign]
  rw [merge, kept, added]

@[simp] theorem nil_merge (o : Object) : merge [] o = o :=
  merge_of_apart fun _ listed => absurd listed List.not_mem_nil

theorem get?_map_value (o : Object) (change : String → Json → Json) (key : String) :
    get? (o.map fun entry => (entry.1, change entry.1 entry.2)) key =
      (get? o key).map (change key) := by
  induction o with
  | nil => rfl
  | cons entry rest ih =>
    rw [List.map_cons, get?_cons, get?_cons, ih]
    by_cases same : key = entry.1
    · simp only [same, if_true, Option.map_some]
    · simp only [same, if_false]

theorem get?_filter_key (o : Object) (keep : String → Bool) (key : String) :
    get? (o.filter fun entry => keep entry.1) key = if keep key then get? o key else none := by
  induction o with
  | nil => simp [get?]
  | cons entry rest ih =>
    rw [List.filter_cons, get?_cons]
    by_cases same : key = entry.1
    · subst same
      by_cases kept : keep entry.1 = true
      · simp only [kept, if_true, get?_cons]
      · simpa only [kept, if_false, Bool.false_eq_true] using ih
    · by_cases kept : keep entry.1 = true
      · simp only [kept, if_true, get?_cons, same, if_false, ih]
      · simp only [kept, if_false, same, ih, Bool.false_eq_true]

theorem get?_merge (base winning : Object) (key : String) :
    get? (merge base winning) key = (get? winning key).or (get? base key) := by
  rw [merge, get?_append, get?_filter_key winning fun name => !has base name,
    get?_map_value base fun name value => (get? winning name).getD value]
  cases found : get? base key <;> cases get? winning key <;> simp [has, found]

theorem get?_set (o : Object) (key : String) (value : Json) (other : String) :
    get? (o.set key value) other = if other = key then some value else get? o other := by
  rw [set, get?_merge, get?_cons]
  by_cases same : other = key
  · simp [same]
  · simp [same, get?]

theorem field_set (o : Object) (key : String) (value : Json) :
    (o.set key value).field key = value := by
  rw [field, get?_set, if_pos rfl]
  rfl

theorem field_set_of_ne (o : Object) {key other : String} (ne : other ≠ key) (value : Json) :
    (o.set key value).field other = o.field other := by
  rw [field, get?_set, if_neg ne]
  rfl

theorem set_of_absent {o : Object} {key : String} (absent : key ∉ o.keys) (value : Json) :
    o.set key value = o ++ [(key, value)] := by
  refine merge_of_apart fun other listed => ?_
  rintro same
  rw [List.mem_singleton.mp same] at listed
  exact absent listed

theorem alter_of_fixed {o : Object} {key : String} {f : Json → Json}
    (fixed : ∀ value, o.get? key = some value → f value = value) : o.alter key f = o := by
  induction o with
  | nil => rfl
  | cons entry rest ih =>
    obtain ⟨other, value⟩ := entry
    rw [alter]
    by_cases same : other = key
    · rw [if_pos same, fixed value (by rw [get?_cons, if_pos same.symm])]
    · rw [if_neg same, ih fun found => ?_]
      intro listed
      exact fixed found (by rwa [get?_cons, if_neg fun h => same h.symm])

end Object

end SearchRequest
