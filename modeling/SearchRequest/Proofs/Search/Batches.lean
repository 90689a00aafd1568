import SearchRequest.Proofs.Clause.Writable
import SearchRequest.Proofs.Search.Parts

/-!
Operations on several fields at once. A list of fields is taken as a whole or not at all, and once
it is taken it does what its fields do one after the other, each of them given alone. A text is the
list of itself.
-/

namespace SearchRequest

/-- The names that a value stands for: a text for itself, a list of texts for all of them. -/
inductive Json.Names : Json → List String → Prop
  | single {name : String} (filled : Text.isBlank name = false) : Names (.str name) [name]
  | listed {names : List String} (filled : ∀ name ∈ names, Text.isBlank name = false) :
      Names (.arr (names.map .str)) names

theorem Json.names_iff {value : Json} {names : List String} :
    value.Names names ↔ ∃ items, LeafKind.nameList value = .ok items ∧ items = names.map .str ∧
      ∀ name ∈ names, Text.isBlank name = false := by
  constructor
  · intro named
    cases named with
    | single filled => exact ⟨_, rfl, rfl, List.forall_mem_singleton.mpr filled⟩
    | listed filled => exact ⟨_, rfl, rfl, filled⟩
  · rintro ⟨items, read, same, filled⟩
    cases value with
    | str text =>
      cases read
      obtain ⟨name, rfl, single⟩ := List.map_eq_singleton_iff.mp same.symm
      cases single
      exact .single (filled text List.mem_cons_self)
    | arr listed =>
      cases read
      subst same
      exact .listed filled
    | _ => cases read

theorem Json.exists_names_arr {items : List Json} :
    (∃ names, (Json.arr items).Names names) ↔
      ∀ item ∈ items, ∃ name, item = .str name ∧ Text.isBlank name = false := by
  constructor
  · rintro ⟨names, named⟩
    cases named with
    | listed filled =>
      exact List.forall_mem_map.mpr fun name listed => ⟨name, rfl, filled name listed⟩
  · intro texts
    induction items with
    | nil => exact ⟨[], .listed (List.forall_mem_nil _)⟩
    | cons item rest ih =>
      obtain ⟨⟨name, rfl, first⟩, others⟩ := List.forall_mem_cons.mp texts
      obtain ⟨names, named⟩ := ih others
      cases named with
      | listed filled => exact ⟨name :: names, .listed (List.forall_mem_cons.mpr ⟨first, filled⟩)⟩

theorem Signature.bind_first (name : String) (others : List Parameter)
    (spare : ∀ p ∈ others, p.fallback.isSome = true)
    (free : (closed (.required name :: others)).knows receiver = false) (value : Json)
    (rest : Object) :
    (closed (.required name :: others)).bind ((name, value) :: rest) =
      if rest.keys.all (closed (.required name :: others)).knows then
        .ok ((name, value) :: others.map fun p => (p.field, p.value ((name, value) :: rest)))
      else .error .wrongKind := by
  have known : (closed (.required name :: others)).knows name = true := by
    simp [knows, closed, Parameter.required]
  have first : Object.get? ((name, value) :: rest) name = some value := by
    rw [Object.get?_cons, if_pos rfl]
  have satisfied : (Parameter.required name :: others).all
      (·.satisfied ((name, value) :: rest)) = true := by
    refine List.all_eq_true.mpr (List.forall_mem_cons.mpr ⟨?_, fun p listed => ?_⟩)
    · simp only [Parameter.satisfied, Parameter.required, Object.has, first, Option.isSome_some,
        Bool.or_true]
    · simp only [Parameter.satisfied, spare p listed, Bool.true_or]
  have own : (Parameter.required name).value ((name, value) :: rest) = value := by
    simp only [Parameter.value, Parameter.required, first, Option.getD_some]
  -- The given value settles the first parameter, so only an unknown argument can be refused.
  by_cases all : rest.keys.all (closed (.required name :: others)).knows = true
  · have each : ∀ key ∈ Object.keys ((name, value) :: rest),
        (closed (.required name :: others)).knows key = true := by
      intro key listed
      rcases List.mem_cons.mp listed with same | among
      · rw [same, known]
      · exact List.all_eq_true.mp all key among
    rw [if_pos all, bind_of_known rfl satisfied each free]
    simp only [closed, List.map_cons, own]
    rfl
  · obtain ⟨key, among, unknown⟩ := List.all_eq_false.mp (Bool.not_eq_true _ ▸ all)
    obtain ⟨entry, member, rfl⟩ := List.mem_map.mp among
    have further : entry ∈ (closed (.required name :: others)).extra ((name, value) :: rest) :=
      List.mem_filter.mpr ⟨List.mem_cons_of_mem _ member, by simpa using unknown⟩
    have filled := List.isEmpty_eq_false_iff.mpr (List.ne_nil_of_mem further)
    rw [if_neg all, bind, filled]
    simp only [closed, Bool.false_eq_true, if_false, ite_self]

/-- An operation that is given a field, or a list of fields. -/
structure FieldOperation where
  step : Json → SearchStep
  /-- Whether its further arguments can be taken. -/
  accepted : Prop
  takesNone : Bool
  after : Search → String → Search

namespace FieldOperation

def presence (further : Object) : FieldOperation where
  step fields := .leaf .present (("fields", fields) :: further)
  accepted := ∀ key ∈ further.keys, key = "fields"
  takesNone := false
  after s name := s.add (.leaf (.present name))

def sorting (further : Object) : FieldOperation where
  step fields := .edit .sortBy (("fields", fields) :: further)
  accepted := (∀ key ∈ further.keys, key ∈ ["fields", "order", "parameters"]) ∧
    further.field "order" ∈ [.null, .str "asc", .str "desc"] ∧
    (further.field "parameters" = .null ∨ ∃ entries, further.field "parameters" = .obj entries)
  takesNone := true
  after s name :=
    let sort : FieldSort :=
      ⟨name, further.field "order", Call.entriesOf (further.field "parameters")⟩
    s.withDocument { s.document with sorts := s.document.sorts ++ [sort] }

/-- Given a list, the operation does what it does for the elements one after the other, or it is
refused and does nothing. -/
structure Expands (op : FieldOperation) (items : List Json) (w : World) (s : Search) : Prop where
  succeeds : Succeeds ((op.step (.arr items)).run w s).result ↔
    (items = [] → op.takesNone = true ∧ op.accepted) ∧
      ∀ item ∈ items, Succeeds ((op.step item).run w s).result
  sequence : Succeeds ((op.step (.arr items)).run w s).result →
    SearchStep.runAll (items.map op.step) w s =
      .succeed ((op.step (.arr items)).run w s).state ()
  refused : ∀ item ∈ items, ¬ Succeeds ((op.step item).run w s).result →
    ¬ Succeeds ((op.step (.arr items)).run w s).result ∧
      ((op.step (.arr items)).run w s).state = (w, s)
  each : ∀ item ∈ items, Succeeds ((op.step item).run w s).result ↔
    op.accepted ∧ ∃ name, item = .str name ∧ Text.isBlank name = false
  single : ∀ name, Succeeds ((op.step (.str name)).run w s).result →
    (op.step (.str name)).run w s = .succeed (w, op.after s name) .nothing
  alone : ∀ text, (op.step (.str text)).run w s = (op.step (.arr [.str text])).run w s

structure Reads (op : FieldOperation) (attempt : Json → Except Failure Change)
    (make : List String → Change) : Prop where
  run (fields : Json) (w : World) (s : Search) :
    (op.step fields).run w s = SearchStep.changed w s (attempt fields)
  taken (fields : Json) (change : Change) : attempt fields = .ok change ↔
    op.accepted ∧ ∃ names, fields.Names names ∧ (names = [] → op.takesNone = true) ∧
      change = make names
  alone (text : String) : attempt (.str text) = attempt (.arr [.str text])
  none (s : Search) : s.apply (make []) = s
  first (s : Search) (name : String) (others : List String) :
    s.apply (make (name :: others)) = (op.after s name).apply (make others)

variable {op : FieldOperation} {attempt : Json → Except Failure Change}
  {make : List String → Change}

namespace Reads

theorem succeeds_iff (reads : op.Reads attempt make) (fields : Json) (w : World) (s : Search) :
    Succeeds ((op.step fields).run w s).result ↔
      op.accepted ∧ ∃ names, fields.Names names ∧ (names = [] → op.takesNone = true) := by
  rw [reads.run, SearchStep.changed_result, succeeds_map]
  constructor
  · rintro ⟨change, made⟩
    obtain ⟨accepted, names, named, filled, _⟩ := (reads.taken fields change).mp made
    exact ⟨accepted, names, named, filled⟩
  · rintro ⟨accepted, names, named, filled⟩
    exact ⟨make names, (reads.taken fields _).mpr ⟨accepted, names, named, filled, rfl⟩⟩

theorem run_of_names (reads : op.Reads attempt make) (accepted : op.accepted) {fields : Json}
    {names : List String} (named : fields.Names names) (filled : names = [] → op.takesNone = true)
    (w : World) (s : Search) :
    (op.step fields).run w s = .succeed (w, s.apply (make names)) .nothing := by
  have made : attempt fields = .ok (make names) :=
    (reads.taken fields _).mpr ⟨accepted, names, named, filled, rfl⟩
  rw [reads.run, made]
  rfl

theorem run_of_name (reads : op.Reads attempt make) (accepted : op.accepted) {name : String}
    (filled : Text.isBlank name = false) (w : World) (s : Search) :
    (op.step (.str name)).run w s = .succeed (w, op.after s name) .nothing := by
  rw [reads.run_of_names accepted (.single filled) (absurd · (List.cons_ne_nil _ _)), reads.first,
    reads.none]

theorem runAll_of_names (reads : op.Reads attempt make) (accepted : op.accepted)
    {names : List String} (filled : ∀ name ∈ names, Text.isBlank name = false) (w : World)
    (s : Search) :
    SearchStep.runAll ((names.map .str).map op.step) w s =
      .succeed (w, s.apply (make names)) () := by
  induction names generalizing s with
  | nil => rw [reads.none]; rfl
  | cons name rest ih =>
    obtain ⟨first, others⟩ := List.forall_mem_cons.mp filled
    rw [List.map_cons, List.map_cons, SearchStep.runAll, reads.run_of_name accepted first,
      Outcome.succeed_andThen, ih others, reads.first]

theorem expands (reads : op.Reads attempt make) {items : List Json}
    (flat : ∀ item ∈ items, ∀ inner, item ≠ .arr inner) (w : World) (s : Search) :
    op.Expands items w s := by
  have each (item : Json) (listed : item ∈ items) :
      Succeeds ((op.step item).run w s).result ↔
        op.accepted ∧ ∃ name, item = .str name ∧ Text.isBlank name = false := by
    rw [reads.succeeds_iff]
    refine and_congr_right fun _ => ⟨?_, ?_⟩
    · rintro ⟨names, named, _⟩
      cases named with
      | single filled => exact ⟨_, rfl, filled⟩
      | listed => exact absurd rfl (flat _ listed _)
    · rintro ⟨name, rfl, filled⟩
      exact ⟨[name], .single filled, nofun⟩
  have whole : Succeeds ((op.step (.arr items)).run w s).result ↔
      (items = [] → op.takesNone = true ∧ op.accepted) ∧
        ∀ item ∈ items, Succeeds ((op.step item).run w s).result := by
    rw [reads.succeeds_iff]
    constructor
    · rintro ⟨accepted, names, named, filled⟩
      have texts := Json.exists_names_arr.mp ⟨names, named⟩
      refine ⟨fun none => ⟨filled ?_, accepted⟩,
        fun item listed => (each item listed).mpr ⟨accepted, texts item listed⟩⟩
      cases named
      exact List.map_eq_nil_iff.mp none
    · rintro ⟨emptily, all⟩
      have texts (item : Json) (listed : item ∈ items) :=
        ((each item listed).mp (all item listed)).2
      obtain ⟨names, named⟩ := Json.exists_names_arr.mpr texts
      -- Whether the further arguments are accepted is told by the first element, if there is one.
      cases items with
      | nil =>
        obtain ⟨takes, accepted⟩ := emptily rfl
        exact ⟨accepted, names, named, fun _ => takes⟩
      | cons first rest =>
        have here : first ∈ first :: rest := List.mem_cons_self
        refine ⟨((each first here).mp (all first here)).1, names, named, ?_⟩
        rintro rfl
        obtain ⟨_, read, same, _⟩ := Json.names_iff.mp named
        cases read
        cases same
  exact {
    succeeds := whole
    sequence := fun taken => by
      obtain ⟨accepted, names, named, filled⟩ := (reads.succeeds_iff _ w s).mp taken
      rw [reads.run_of_names accepted named filled]
      cases named with
      | listed all => exact reads.runAll_of_names accepted all w s
    refused := fun item listed failed => by
      have none : ¬ Succeeds ((op.step (.arr items)).run w s).result :=
        fun taken => failed ((whole.mp taken).2 item listed)
      refine ⟨none, ?_⟩
      rw [reads.run] at none ⊢
      cases made : attempt (.arr items) with
      | error failure => rfl
      | ok change =>
        rw [made] at none
        exact absurd (succeeds_ok _) none
    each := each
    single := fun name taken => by
      obtain ⟨accepted, names, named, _⟩ := (reads.succeeds_iff _ w s).mp taken
      cases named with
      | single filled => exact reads.run_of_name accepted filled w s
    alone := fun text => by rw [reads.run, reads.run, reads.alone] }

end Reads

theorem field_further (fields : Json) (further : Object) {key : String} (other : key ≠ "fields") :
    Object.field (("fields", fields) :: further) key = further.field key := by
  rw [Object.field, Object.get?_cons, if_neg other]
  rfl

theorem presence_change (fields : Json) (further : Object) :
    LeafKind.present.change (("fields", fields) :: further) =
      if further.keys.all (LeafKind.operationSignature .present).knows then do
        let items ← LeafKind.nameList fields
        if items.isEmpty then .error (LeafKind.present.refuse .noFields)
        else do
          let leaves ← LeafKind.presenceOf items
          .ok (.clauses (leaves.map .leaf))
      else .error .wrongKind := by
  have bound := Signature.bind_first "fields" [] nofun rfl fields further
  rw [LeafKind.change, LeafKind.request, LeafKind.operationSignature, LeafKind.arguments, bound]
  split
  · rw [bind_ok]
    change (LeafKind.nameList fields >>= fun items => _) >>= _ = _
    cases LeafKind.nameList fields with
    | error failure => rfl
    | ok items =>
      simp only [bind_ok]
      split <;> rfl
  · rfl

theorem presence_reads (further : Object) :
    (presence further).Reads (fun fields => LeafKind.present.change (("fields", fields) :: further))
      fun names => .clauses (names.map fun name => .leaf (.present name)) where
  run fields w s := rfl
  taken fields change := by
    have known : further.keys.all (LeafKind.operationSignature .present).knows = true ↔
        (presence further).accepted := by
      rw [List.all_eq_true]
      exact forall₂_congr fun key _ => Signature.knows_iff.trans List.mem_singleton
    rw [presence_change]
    by_cases accepted : (presence further).accepted
    · rw [if_pos (known.mpr accepted), and_iff_right accepted, bind_eq_ok]
      constructor
      · rintro ⟨items, read, made⟩
        split at made
        · cases made
        · rename_i filled
          obtain ⟨leaves, asked, same⟩ := bind_eq_ok.mp made
          obtain ⟨names, rfl, all, rfl⟩ := LeafKind.presenceOf_eq_ok.mp asked
          cases same
          refine ⟨names, Json.names_iff.mpr ⟨_, read, rfl, all⟩, ?_, ?_⟩
          · rintro rfl
            exact absurd rfl filled
          · rw [List.map_map]
            rfl
      · rintro ⟨names, named, filled, rfl⟩
        obtain ⟨items, read, rfl, all⟩ := Json.names_iff.mp named
        have asked := LeafKind.presenceOf_eq_ok.mpr ⟨names, rfl, all, rfl⟩
        refine ⟨_, read, ?_⟩
        cases names with
        | nil => cases filled rfl
        | cons name rest =>
          rw [asked, bind_ok, List.map_map]
          rfl
    · rw [if_neg fun all => accepted (known.mp all)]
      exact iff_of_false nofun fun taken => accepted taken.1
  alone text := by rw [presence_change, presence_change]; rfl
  none s := rfl
  first s name others := rfl

theorem sorting_change (fields : Json) (further : Object) :
    Edit.sortBy.change (("fields", fields) :: further) =
      if further.keys.all Edit.sortBy.signature.knows then do
        let order ← Edit.orderIn (further.field "order")
        let parameters ← Edit.parametersIn (further.field "parameters")
        let items ← LeafKind.nameList fields
        let names ← Edit.namesIn "sort field" items
        .ok (.sorts (names.map fun name => ⟨name, order, parameters⟩))
      else .error .wrongKind := by
  have bound := Signature.bind_first "fields" [.optional "order", .optional "parameters"]
    (List.forall_mem_cons.mpr ⟨rfl, List.forall_mem_singleton.mpr rfl⟩) rfl fields further
  rw [List.map_cons, List.map_singleton, Parameter.value_optional, Parameter.value_optional,
    field_further fields further (by decide), field_further fields further (by decide)] at bound
  rw [Edit.change, Edit.signature, bound]
  split
  · rw [bind_ok]
    simp only [Edit.changeOf, Edit.sortsOf, bind_assoc, bind_ok]
    rfl
  · rfl

theorem sorting_reads (further : Object) :
    (sorting further).Reads (fun fields => Edit.sortBy.change (("fields", fields) :: further))
      fun names => .sorts (names.map fun name =>
        ⟨name, further.field "order", Call.entriesOf (further.field "parameters")⟩) where
  run fields w s := rfl
  taken fields change := by
    have known : further.keys.all Edit.sortBy.signature.knows = true ↔
        ∀ key ∈ further.keys, key ∈ ["fields", "order", "parameters"] := by
      rw [List.all_eq_true]
      exact forall₂_congr fun key _ => Signature.knows_iff
    rw [sorting_change]
    -- Arguments that the operation does not know are refused before the fields are looked at.
    by_cases all : further.keys.all Edit.sortBy.signature.knows = true
    · rw [if_pos all, bind_eq_ok]
      constructor
      · rintro ⟨order, ordered, furtherMade⟩
        obtain ⟨parameters, parametrized, namesMade⟩ := bind_eq_ok.mp furtherMade
        obtain ⟨items, read, made⟩ := bind_eq_ok.mp namesMade
        obtain ⟨names, named, same⟩ := bind_eq_ok.mp made
        obtain ⟨rfl, direction⟩ := Edit.orderIn_eq_ok.mp ordered
        obtain ⟨object, rfl⟩ := Edit.parametersIn_eq_ok.mp parametrized
        cases same
        refine ⟨⟨known.mp all, ?_, object⟩, names,
          Json.names_iff.mpr ⟨items, read, Edit.namesIn_eq_ok.mp named⟩, fun _ => rfl, rfl⟩
        simpa using direction
      · rintro ⟨⟨_, direction, object⟩, names, named, _, rfl⟩
        obtain ⟨items, read, listed⟩ := Json.names_iff.mp named
        have ordered := Edit.orderIn_eq_ok.mpr
          ⟨rfl, by simpa only [List.mem_cons, List.not_mem_nil, or_false] using direction⟩
        refine ⟨_, ordered, ?_⟩
        rw [Edit.parametersIn_eq_ok.mpr ⟨object, rfl⟩, bind_ok, read, bind_ok,
          Edit.namesIn_eq_ok.mpr listed, bind_ok]
    · rw [if_neg all]
      exact iff_of_false nofun fun taken => all (known.mpr taken.1.1)
  alone text := by rw [sorting_change, sorting_change]; rfl
  none s := by
    simp only [Search.apply, List.map_nil, List.append_nil]
    rfl
  first s name others := by
    simp only [Search.apply, sorting, Search.withDocument, List.map_cons, List.append_assoc,
      List.singleton_append]

/-- Fields that are asked for, or sorted by, in one list are asked for, or sorted by, one after the
other. -/
theorem fields_expand {items : List Json} (flat : ∀ item ∈ items, ∀ inner, item ≠ .arr inner)
    (further : Object) (w : World) (s : Search) :
    (presence further).Expands items w s ∧ (sorting further).Expands items w s :=
  ⟨(presence_reads further).expands flat w s, (sorting_reads further).expands flat w s⟩

theorem fields_expand_repeated :
    (∀ item ∈ [Json.str "b", .str "a", .str "b"], ∀ inner, item ≠ .arr inner) ∧
    (∀ item ∈ [Json.str "b", .str " ", .int 1], ∀ inner, item ≠ .arr inner) ∧
    (SearchStep.runAll
        [.edit .sortBy [("fields", .str "b"), ("order", .str "desc")],
         .edit .sortBy [("fields", .str "a"), ("order", .str "desc")],
         .edit .sortBy [("fields", .str "b"), ("order", .str "desc")]] .isolated .fresh).state =
      ((SearchStep.edit .sortBy
        [("fields", .arr [.str "b", .str "a", .str "b"]), ("order", .str "desc")]).run
          .isolated .fresh).state ∧
    ((SearchStep.leaf .present [("fields", .arr [.str "b", .str " ", .int 1])]).run
        .isolated .fresh).state = (.isolated, .fresh) := by
  have texts : ∀ item ∈ [Json.str "b", .str "a", .str "b"], ∀ inner, item ≠ .arr inner := by
    simp
  have mixed : ∀ item ∈ [Json.str "b", .str " ", .int 1], ∀ inner, item ≠ .arr inner := by
    simp
  refine ⟨texts, mixed, ?_, ?_⟩
  · have sequence := (fields_expand texts [("order", .str "desc")] .isolated .fresh).2.sequence
      ⟨_, rfl⟩
    exact congrArg Outcome.state sequence
  · exact ((fields_expand mixed [] .isolated .fresh).1.refused (.str " ") (by simp) (by
      rintro ⟨_, taken⟩
      cases taken)).2

end FieldOperation

end SearchRequest
