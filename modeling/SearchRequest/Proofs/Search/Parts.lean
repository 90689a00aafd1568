import SearchRequest.Call
import SearchRequest.Proofs.Arguments
import SearchRequest.Proofs.Search.Target

/-!
The parts of a request body beside the query and the aggregations, and what an operation sets of
them. `Edit.sets` reads it off the arguments as they are given; `Change.sets` reads it off the
change that the operation makes once it has accepted them. The two agree.
-/

namespace SearchRequest

namespace Object

/-- The values under a key that may be repeated, in order. -/
def valuesAt (o : Object) (key : String) : List Json :=
  o.filterMap fun entry => if entry.1 = key then some entry.2 else none

def last? (o : Object) (key : String) : Option Json := (o.valuesAt key).getLast?

@[simp] theorem valuesAt_nil (key : String) : valuesAt [] key = [] := rfl

@[simp] theorem valuesAt_cons (name : String) (value : Json) (rest : Object) (key : String) :
    valuesAt ((name, value) :: rest) key =
      (if name = key then [value] else []) ++ valuesAt rest key := by
  by_cases same : name = key <;> simp [valuesAt, same]

@[simp] theorem valuesAt_append (a b : Object) (key : String) :
    valuesAt (a ++ b) key = valuesAt a key ++ valuesAt b key := List.filterMap_append

theorem valuesAt_map {α : Type} (name : String) (value : α → Json) (elements : List α)
    (key : String) :
    valuesAt (elements.map fun element => (name, value element)) key =
      if name = key then elements.map value else [] := by
  induction elements with
  | nil => simp
  | cons element rest ih => rw [List.map_cons, valuesAt_cons, ih]; split <;> rfl

theorem mem_of_mem_valuesAt {o : Object} {key : String} {value : Json}
    (listed : value ∈ o.valuesAt key) : (key, value) ∈ o := by
  obtain ⟨entry, member, same⟩ := List.mem_filterMap.mp listed
  split at same <;> cases same
  rename_i named
  exact named ▸ member

theorem last?_append (a b : Object) (key : String) :
    last? (a ++ b) key = (last? b key).or (last? a key) := by
  rw [last?, valuesAt_append, List.getLast?_append]
  rfl

theorem last?_single (name : String) (value : Json) (key : String) :
    last? [(name, value)] key = if name = key then some value else none := by
  rw [last?, valuesAt_cons, valuesAt_nil, List.append_nil]
  split <;> rfl

end Object

def Json.selected (includes excludes : Json) : Json :=
  if !includes.isNull && !excludes.isNull then .obj [("includes", includes), ("excludes", excludes)]
  else if includes.truthy then includes
  else if excludes.truthy then Object.only "excludes" excludes
  else .bool false

/-- What a change sets, under the keys that it is written under. -/
def Change.sets : Change → Object
  | .offset count => [("from", .int count)]
  | .size count => [("size", .int count)]
  | .minScore score => [("min_score", score)]
  | .sorts added => added.map fun sort => ("sort", sort.toJson)
  | .highlight shown => [("highlight", shown.toJson)]
  | .source filter => [("_source", filter.toJson)]
  | _ => []

namespace Edit

def namesGiven : Json → List String
  | .arr items => items.map Json.displayed
  | value => [value.displayed]

/-- One sort for each field: the parameters, over which the order stands when one is given. -/
def sortsGiven (args : Object) : List Json :=
  let parameters := Call.entriesOf (args.field "parameters")
  let order := args.field "order"
  let sorting := if order.isNull then parameters else parameters.set "order" order
  (namesGiven (args.field "fields")).map fun name => Object.only name (.obj sorting)

/-- The fields to highlight, each with its options; all fields when none is named. -/
def fieldsGiven : Json → Object
  | .null => [("*", .obj [])]
  | .obj entries => entries.map fun entry => (entry.1, .obj (Call.entriesOf entry.2))
  | value => (namesGiven value).eraseDups.map fun name => (name, .obj [])

def highlightGiven (args : Object) : Object :=
  Object.merge
    [("pre_tags", .arr [(args.get? "pre_tag").getD (.str "<mark>")]),
     ("post_tags", .arr [(args.get? "post_tag").getD (.str "</mark>")]),
     ("fields", .obj (fieldsGiven (args.field "fields")))]
    (Call.entriesOf (args.field "parameters"))

/-- What the operation sets when it accepts its arguments, under the keys that it is written
under. -/
def sets (args : Object) : Edit → Object
  | .offset => [("from", args.field "offset")]
  | .size => [("size", args.field "limit")]
  | .minScore => [("min_score", args.field "score")]
  | .sortBy => (sortsGiven args).map fun sort => ("sort", sort)
  | .highlight => [("highlight", .obj (highlightGiven args))]
  | .source => [("_source", .selected (args.field "includes") (args.field "excludes"))]
  | _ => []

section Accepted

variable {label : String} {value : Json}

theorem countIn_eq_ok {count : Nat} : countIn label value = .ok count ↔ value = .int count := by
  constructor
  · intro accepted
    unfold countIn at accepted
    split at accepted <;> cases accepted
    rfl
  · rintro rfl
    rfl

theorem numberIn_eq_ok {score : Json} :
    numberIn label value = .ok score ↔ score = value ∧ value.isNumber = true := by
  unfold numberIn
  split
  · rename_i number
    rw [Except.ok.injEq, and_iff_left number, eq_comm]
  · rename_i other
    exact ⟨nofun, fun number => absurd number.2 other⟩

theorem orderIn_eq_ok {order : Json} :
    orderIn value = .ok order ↔
      order = value ∧ (value = .null ∨ value = .str "asc" ∨ value = .str "desc") := by
  constructor
  · intro accepted
    unfold orderIn at accepted
    split at accepted
    · cases accepted
      exact ⟨rfl, .inl rfl⟩
    · split at accepted
      · rename_i direction known
        cases accepted
        unfold Direction.ofJson? at known
        split at known <;> cases known
        · exact ⟨rfl, .inr (.inl rfl)⟩
        · exact ⟨rfl, .inr (.inr rfl)⟩
      · cases accepted
  · rintro ⟨rfl, rfl | rfl | rfl⟩ <;> rfl

theorem parametersIn_eq_ok {parameters : Object} :
    parametersIn value = .ok parameters ↔
      (value = .null ∨ ∃ entries, value = .obj entries) ∧ parameters = Call.entriesOf value := by
  constructor
  · intro accepted
    unfold parametersIn at accepted
    split at accepted <;> cases accepted
    · exact ⟨.inl rfl, rfl⟩
    · exact ⟨.inr ⟨_, rfl⟩, rfl⟩
  · rintro ⟨rfl | ⟨entries, rfl⟩, rfl⟩ <;> rfl

theorem namesIn_eq_ok {items : List Json} {names : List String} :
    namesIn label items = .ok names ↔
      items = names.map .str ∧ ∀ name ∈ names, Text.isBlank name = false := by
  induction items generalizing names with
  | nil =>
    rw [namesIn, Except.ok.injEq, eq_comm (a := []), eq_comm (a := []), List.map_eq_nil_iff]
    exact ⟨fun none => ⟨none, none ▸ List.forall_mem_nil _⟩, And.left⟩
  | cons item rest ih =>
    constructor
    · intro accepted
      obtain ⟨name, named, others⟩ := bind_eq_ok.mp accepted
      obtain ⟨more, listed, same⟩ := bind_eq_ok.mp others
      cases same
      obtain ⟨rfl, filled⟩ := nameIn_eq_ok.mp named
      obtain ⟨rfl, othersFilled⟩ := ih.mp listed
      exact ⟨rfl, List.forall_mem_cons.mpr ⟨filled, othersFilled⟩⟩
    · rintro ⟨same, filled⟩
      obtain ⟨name, more, rfl, rfl, rfl⟩ := List.map_eq_cons_iff.mp same.symm
      obtain ⟨first, others⟩ := List.forall_mem_cons.mp filled
      have named : nameIn label (.str name) = .ok name := nameIn_eq_ok.mpr ⟨rfl, first⟩
      rw [namesIn, named, ih.mpr ⟨rfl, others⟩]
      rfl

theorem eq_namesGiven {items : List Json} {names : List String}
    (listed : LeafKind.nameList value = .ok items) (accepted : namesIn label items = .ok names) :
    names = namesGiven value := by
  have texts : names = items.map Json.displayed := by
    rw [(namesIn_eq_ok.mp accepted).1, List.map_map]
    exact (List.map_id names).symm
  unfold LeafKind.nameList at listed
  split at listed <;> cases listed <;> exact texts

theorem fieldEntries_eq_ok {entries : Object} {fields : List (String × Object)}
    (accepted : fieldEntries entries = .ok fields) :
    (fields.map fun entry => (entry.1, Json.obj entry.2)) = fieldsGiven (.obj entries) := by
  induction entries generalizing fields with
  | nil =>
    cases accepted
    rfl
  | cons entry rest ih =>
    obtain ⟨name, named, others⟩ := bind_eq_ok.mp accepted
    obtain ⟨options, read, others⟩ := bind_eq_ok.mp others
    obtain ⟨more, listed, same⟩ := bind_eq_ok.mp others
    cases same
    have key : entry.1 = name := Json.str.inj (nameIn_eq_ok.mp named).1
    have given : options = Call.entriesOf entry.2 := by
      unfold fieldOptions at read
      split at read <;> cases read <;> simp_all [Call.entriesOf]
    rw [List.map_cons, ih listed, ← key, given]
    rfl

theorem highlightedFields_eq_ok {fields : List (String × Object)}
    (accepted : highlightedFields value = .ok fields) :
    (fields.map fun entry => (entry.1, Json.obj entry.2)) = fieldsGiven value := by
  unfold highlightedFields at accepted
  split at accepted
  · cases accepted
    rfl
  · exact fieldEntries_eq_ok accepted
  · rename_i named _
    obtain ⟨items, listed, others⟩ := bind_eq_ok.mp accepted
    obtain ⟨names, checked, same⟩ := bind_eq_ok.mp others
    cases same
    rw [eq_namesGiven listed checked, List.map_map]
    cases value <;> first | rfl | cases listed

theorem listIn_eq_ok {list : Option (List Json)} (accepted : listIn label value = .ok list) :
    value = Json.ofOption (list.map .arr) := by
  unfold listIn at accepted
  split at accepted <;> cases accepted <;> rfl

theorem toJson_filterOf (includes excludes : Option (List Json)) :
    (filterOf includes excludes).toJson =
      .selected (Json.ofOption (includes.map .arr)) (Json.ofOption (excludes.map .arr)) := by
  match includes, excludes with
  | some _, some _ => rfl
  | some [], none => rfl
  | some (_ :: _), none => rfl
  | none, some [] => rfl
  | none, some (_ :: _) => rfl
  | none, none => rfl

end Accepted

theorem toJson_sortsOf {a : Object} {sorts : List FieldSort} (accepted : sortsOf a = .ok sorts) :
    sorts.map FieldSort.toJson = sortsGiven a := by
  obtain ⟨order, ordered, others⟩ := bind_eq_ok.mp accepted
  obtain ⟨parameters, read, others⟩ := bind_eq_ok.mp others
  obtain ⟨items, listed, others⟩ := bind_eq_ok.mp others
  obtain ⟨names, checked, same⟩ := bind_eq_ok.mp others
  cases same
  obtain ⟨rfl, direction⟩ := orderIn_eq_ok.mp ordered
  have given : (a.field "order").truthy = !(a.field "order").isNull := by
    rcases direction with none | up | down
    · rw [none]
      rfl
    · rw [up]
      decide
    · rw [down]
      decide
  rw [eq_namesGiven listed checked, (parametersIn_eq_ok.mp read).2, List.map_map, sortsGiven]
  refine List.map_congr_left fun name _ => ?_
  simp only [Function.comp_apply, FieldSort.toJson, FieldSort.body, given]
  cases (a.field "order").isNull <;> rfl

theorem toJson_highlightOf {args a : Object} (bound : highlight.signature.bind args = .ok a)
    {shown : Highlight} (accepted : highlightOf a = .ok shown) :
    shown.toJson = .obj (highlightGiven args) := by
  obtain ⟨fields, listed, others⟩ := bind_eq_ok.mp accepted
  obtain ⟨parameters, read, same⟩ := bind_eq_ok.mp others
  cases same
  have preTag : a.field "pre_tag" = (args.get? "pre_tag").getD (.str "<mark>") :=
    Signature.field_of_bind bound "pre_tag" rfl
  have postTag : a.field "post_tag" = (args.get? "post_tag").getD (.str "</mark>") :=
    Signature.field_of_bind bound "post_tag" rfl
  rw [Signature.argument_of_bind bound "fields" rfl rfl] at listed
  rw [Signature.argument_of_bind bound "parameters" rfl rfl] at read
  rw [Highlight.toJson, Highlight.body, highlightedFields_eq_ok listed,
    (parametersIn_eq_ok.mp read).2, preTag, postTag]
  rfl

theorem toJson_sourceOf {a : Object} {filter : SourceFilter} (accepted : sourceOf a = .ok filter) :
    filter.toJson = .selected (a.field "includes") (a.field "excludes") := by
  obtain ⟨includes, included, others⟩ := bind_eq_ok.mp accepted
  obtain ⟨excludes, excluded, same⟩ := bind_eq_ok.mp others
  cases same
  rw [toJson_filterOf, listIn_eq_ok included, listIn_eq_ok excluded]

theorem sets_of_change {e : Edit} {args : Object} {change : Change}
    (accepted : e.change args = .ok change) : change.sets = e.sets args := by
  obtain ⟨a, bound, made⟩ := bind_eq_ok.mp accepted
  cases e with
  | offset =>
    obtain ⟨count, counted, same⟩ := bind_eq_ok.mp made
    cases same
    rw [Signature.argument_of_bind bound "offset" rfl rfl] at counted
    rw [sets, countIn_eq_ok.mp counted]
    rfl
  | size =>
    obtain ⟨count, counted, same⟩ := bind_eq_ok.mp made
    cases same
    rw [Signature.argument_of_bind bound "limit" rfl rfl] at counted
    rw [sets, countIn_eq_ok.mp counted]
    rfl
  | minScore =>
    obtain ⟨score, numbered, same⟩ := bind_eq_ok.mp made
    cases same
    rw [Signature.argument_of_bind bound "score" rfl rfl] at numbered
    rw [sets, ← (numberIn_eq_ok.mp numbered).1]
    rfl
  | sortBy =>
    obtain ⟨sorts, listed, same⟩ := bind_eq_ok.mp made
    cases same
    have given : sortsGiven a = sortsGiven args := by
      simp only [sortsGiven, Signature.argument_of_bind bound "fields" rfl rfl,
        Signature.argument_of_bind bound "order" rfl rfl,
        Signature.argument_of_bind bound "parameters" rfl rfl]
    rw [sets, ← given, ← toJson_sortsOf listed, List.map_map]
    rfl
  | highlight =>
    obtain ⟨shown, asked, same⟩ := bind_eq_ok.mp made
    cases same
    rw [sets, ← toJson_highlightOf bound asked]
    rfl
  | source =>
    obtain ⟨filter, selected, same⟩ := bind_eq_ok.mp made
    cases same
    rw [sets, ← Signature.argument_of_bind bound "includes" rfl rfl,
      ← Signature.argument_of_bind bound "excludes" rfl rfl, ← toJson_sourceOf selected]
    rfl
  | role role =>
    cases made
    rfl
  | minimumShouldMatch =>
    cases made
    rfl
  | _ =>
    obtain ⟨_, _, same⟩ := bind_eq_ok.mp made
    cases same
    rfl

end Edit

end SearchRequest
