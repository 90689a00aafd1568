import SearchRequest.Proofs.Aggregation.Options

/-!
The buckets of an aggregation by ranges, from the ranges that are given to the ranges that are
written. A range is an object, a pair or, for networks, a mask; it is written as an object that
says the same and nothing else. What is written is a range again, and says the same of itself.
-/

namespace SearchRequest

namespace Bucket

def keys (masked : Bool) : List String := ["from", "to", "key"] ++ if masked then ["mask"] else []

/-- Those of them of which it needs one. -/
def bounds (masked : Bool) : List String := ["from", "to"] ++ if masked then ["mask"] else []

inductive Form (masked : Bool) : Json → Prop
  | entries (o : Object) : Form masked (.obj o)
  | pair (lower upper : Json) : Form masked (.arr [lower, upper])
  | mask (network : String) (taken : masked = true) : Form masked (.str network)

def said : Json → String → Json
  | .obj entries, key => Object.field entries key
  | .arr [lower, _], "from" => lower
  | .arr [_, upper], "to" => upper
  | .str network, "mask" => .str network
  | _, _ => .null

structure IsRange (masked : Bool) (item : Json) : Prop where
  form : Form masked item
  bounded : ∃ key ∈ bounds masked, said item key ≠ .null

/-- An entry that says what the range says. -/
structure Renders (masked : Bool) (item : Json) (entry : Object) : Prop where
  known : ∀ key ∈ entry.keys, key ∈ keys masked
  distinct : entry.keys.Nodup
  filled : ∀ key, entry.get? key ≠ some .null
  bounded : ∃ key ∈ bounds masked, key ∈ entry.keys
  values : ∀ key ∈ keys masked, entry.field key = said item key

def reading (masked : Bool) (item : Json) : Bucket :=
  ⟨said item "from", said item "to", said item "key", if masked then said item "mask" else .null⟩

def table (b : Bucket) : Object :=
  [("from", b.lower), ("to", b.upper), ("key", b.key), ("mask", b.mask)]

def entries (b : Bucket) : Object := b.table.given

variable {masked : Bool} {item : Json} {b : Bucket}

theorem nodup_table (b : Bucket) : b.table.keys.Nodup := by
  change ["from", "to", "key", "mask"].Nodup
  decide

theorem field_entries (b : Bucket) (key : String) : b.entries.field key = b.table.field key :=
  Object.field_given b.nodup_table key

theorem ofItem?_eq_some :
    ofItem? masked item = some b ↔ Form masked item ∧ b = reading masked item := by
  constructor
  · intro read
    unfold ofItem? at read
    split at read
    · cases read
      exact ⟨.entries _, rfl⟩
    · cases read
      refine ⟨.pair _ _, ?_⟩
      cases masked <;> rfl
    · split at read
      · rename_i network taken
        cases read
        subst taken
        exact ⟨.mask network rfl, rfl⟩
      · cases read
    · cases read
  · rintro ⟨form, rfl⟩
    cases form with
    | entries o => rfl
    | pair lower upper => cases masked <;> rfl
    | mask network taken =>
      subst taken
      rfl

theorem isBounded_reading :
    (reading masked item).isBounded = true ↔ ∃ key ∈ bounds masked, said item key ≠ .null := by
  have given (value : Json) : value.isNull = false ↔ value ≠ .null := by
    rw [← Bool.not_eq_true, Json.isNull_iff]
  have absent : Json.null.isNull = true := rfl
  cases masked <;> simp [reading, isBounded, bounds, given, absent, or_assoc]

theorem ofItem_eq_ok :
    ofItem masked item = .ok b ↔ IsRange masked item ∧ b = reading masked item := by
  rw [ofItem]
  constructor
  · intro taken
    split at taken
    · cases taken
    · rename_i read
      obtain ⟨form, rfl⟩ := ofItem?_eq_some.mp read
      split at taken
      · rename_i bounded
        cases taken
        exact ⟨⟨form, isBounded_reading.mp bounded⟩, rfl⟩
      · cases taken
  · rintro ⟨⟨form, bounded⟩, rfl⟩
    simp only [ofItem?_eq_some.mpr ⟨form, rfl⟩, isBounded_reading.mpr bounded, if_true]

theorem ofItems_eq_ok {items : List Json} {buckets : List Bucket} :
    ofItems masked items = .ok buckets ↔
      (∀ item ∈ items, IsRange masked item) ∧ buckets = items.map (reading masked) := by
  induction items generalizing buckets with
  | nil => simp [ofItems, eq_comm]
  | cons item rest ih =>
    rw [List.forall_mem_cons, List.map_cons]
    constructor
    · intro taken
      obtain ⟨bucket, first, further⟩ := bind_eq_ok.mp taken
      obtain ⟨others, later, same⟩ := bind_eq_ok.mp further
      cases same
      obtain ⟨range, rfl⟩ := ofItem_eq_ok.mp first
      obtain ⟨ranges, rfl⟩ := ih.mp later
      exact ⟨⟨range, ranges⟩, rfl⟩
    · rintro ⟨⟨range, ranges⟩, rfl⟩
      rw [ofItems, ofItem_eq_ok.mpr ⟨range, rfl⟩, ih.mpr ⟨ranges, rfl⟩]
      rfl

theorem list_eq_ok {value : Json} {buckets : List Bucket} :
    list masked value = .ok buckets ↔ ∃ items, value = .arr items ∧ items ≠ [] ∧
      (∀ item ∈ items, IsRange masked item) ∧ buckets = items.map (reading masked) := by
  constructor
  · intro taken
    cases value with
    | arr items =>
      cases items with
      | nil => cases taken
      | cons item rest => exact ⟨_, rfl, List.cons_ne_nil _ _, ofItems_eq_ok.mp taken⟩
    | _ => cases taken
  · rintro ⟨items, rfl, filled, ranges⟩
    cases items with
    | nil => exact absurd rfl filled
    | cons item rest => exact ofItems_eq_ok.mpr ranges

theorem reading_entries (item : Json) :
    reading masked (.obj (reading masked item).entries) = reading masked item := by
  have under (key : String) : said (.obj (reading masked item).entries) key =
      (reading masked item).table.field key := field_entries _ key
  rw [reading, under, under, under, under]
  cases masked <;> rfl

theorem isRange_entries (range : IsRange masked item) :
    IsRange masked (.obj (reading masked item).entries) :=
  ⟨.entries _, isBounded_reading.mp
    (by rw [reading_entries]; exact isBounded_reading.mpr range.bounded)⟩

theorem renders_entries (range : IsRange masked item) :
    Renders masked item (reading masked item).entries := by
  have found (key : String) : (reading masked item).entries.get? key =
      ((reading masked item).table.get? key).filter fun value => !value.isNull :=
    Object.get?_given (nodup_table _) key
  have values : ∀ key ∈ keys masked, (reading masked item).entries.field key = said item key := by
    intro key known
    rw [field_entries]
    cases masked <;>
      simp only [keys, List.cons_append, List.nil_append, List.mem_cons, List.not_mem_nil, or_false,
        if_true, if_false, Bool.false_eq_true] at known <;>
      rcases known with rfl | rfl | rfl | rfl <;> rfl
  exact {
    known := fun key listed => by
      have tabled : key ∈ ["from", "to", "key"] ++ ["mask"] := Object.mem_keys_given listed
      -- Where masks are not taken none is read, so the key of the mask is not written.
      cases masked with
      | true => exact tabled
      | false =>
        rcases List.mem_append.mp tabled with among | mask
        · exact among
        · rw [List.mem_singleton.mp mask] at listed
          exact absurd listed (Object.get?_eq_none.mp (found "mask"))
    distinct := Object.nodup_keys_given (nodup_table _)
    filled := fun key => by
      rw [found]
      intro null
      exact absurd (Option.filter_eq_some_iff.mp null).2 (by decide)
    bounded := by
      obtain ⟨key, bound, given⟩ := range.bounded
      have known : key ∈ keys masked := by
        simp only [bounds, keys, List.mem_append, List.mem_cons] at bound ⊢
        tauto
      refine ⟨key, bound, Decidable.not_not.mp fun absent => given ?_⟩
      rw [← values key known, Object.field_of_absent absent]
    values := values }

theorem list_again {value : Json} {buckets : List Bucket}
    (taken : list masked value = .ok buckets) :
    list masked (Computation.bucketsJson buckets) = .ok buckets := by
  obtain ⟨items, _, filled, ranges, rfl⟩ := list_eq_ok.mp taken
  refine list_eq_ok.mpr ⟨_, rfl, ?_, ?_, ?_⟩
  · rwa [Ne, List.map_eq_nil_iff, List.map_eq_nil_iff]
  · refine List.forall_mem_map.mpr (List.forall_mem_map.mpr fun item listed => ?_)
    exact isRange_entries (ranges item listed)
  · rw [List.map_map, List.map_map]
    exact List.map_congr_left fun item _ => (reading_entries item).symm

end Bucket

namespace AggregationKind

variable {kind : AggregationKind} {a : Object}

/-- Fields of which an aggregation by ranges can be made, and the ranges among them. -/
structure Accepts (kind : AggregationKind) (a : Object) (items : List Json) : Prop where
  named : ∃ text, a.field "alias" = .str text ∧ Text.isBlank text = false
  field : ∃ text, a.field "field" = .str text ∧ Text.isBlank text = false
  format : kind = .dateRange → ∃ text, a.field "format" = .str text ∧ text ≠ ""
  origin : kind = .geoDistance → a.field "origin" ≠ .null ∧ a.field "origin" ≠ .str ""
  given : a.field "ranges" = .arr items
  filled : items ≠ []
  ranges : ∀ item ∈ items, Bucket.IsRange kind.takesMasks item

theorem aliasOf_eq_ok {value : Json} {name : String} :
    Aggregation.aliasOf value = .ok name ↔ value = .str name ∧ Text.isBlank name = false := by
  cases value with
  | str text => exact unless_blank_eq_ok
  | _ => exact iff_of_false (by rintro ⟨⟩) (by rintro ⟨⟨⟩, _⟩)

theorem succeeds_originOf {value : Json} :
    Succeeds (Computation.originOf value) ↔ value ≠ .null ∧ value ≠ .str "" :=
  ⟨fun ⟨_, accepted⟩ => (Computation.originOf_eq_ok.mp accepted).2,
    fun given => ⟨value, Computation.originOf_eq_ok.mpr ⟨rfl, given⟩⟩⟩

theorem succeeds_build_iff_accepts (ranged : kind.Ranged) (a : Object) :
    Succeeds (Aggregation.build kind a) ↔ ∃ items, kind.Accepts a items := by
  rw [succeeds_build_iff ranged]
  constructor
  · rintro ⟨⟨named, field, format, origin⟩, buckets, listed⟩
    obtain ⟨items, given, filled, ranges, _⟩ := Bucket.list_eq_ok.mp listed
    exact ⟨items, named.imp fun _ => aliasOf_eq_ok.mp,
      field.imp fun _ => Computation.fieldName_eq_ok.mp,
      fun dated => (format dated).imp fun _ => Computation.formatOf_eq_ok.mp,
      fun placed => succeeds_originOf.mp (origin placed), given, filled, ranges⟩
  · rintro ⟨items, accepts⟩
    refine ⟨⟨accepts.named.imp fun _ => aliasOf_eq_ok.mpr,
      accepts.field.imp fun _ => Computation.fieldName_eq_ok.mpr,
      fun dated => (accepts.format dated).imp fun _ => Computation.formatOf_eq_ok.mpr,
      fun placed => succeeds_originOf.mpr (accepts.origin placed)⟩,
      items.map (.reading kind.takesMasks), ?_⟩
    exact Bucket.list_eq_ok.mpr ⟨items, accepts.given, accepts.filled, accepts.ranges, rfl⟩

theorem argument_of_build {failure : Failure}
    (refused : Aggregation.build kind a = .error failure) : ∃ fault, failure = .argument fault := by
  rw [Aggregation.build] at refused
  cases named : Aggregation.aliasOf (a.field "alias") with
  | error other =>
    rw [named] at refused
    cases refused
    unfold Aggregation.aliasOf at named
    split at named
    · split at named <;> cases named
      exact ⟨_, rfl⟩
    · cases named
      exact ⟨_, rfl⟩
  | ok name =>
    rw [named, bind_ok] at refused
    cases built : Computation.build kind a with
    | error fault =>
      rw [built] at refused
      cases refused
      exact ⟨_, rfl⟩
    | ok computation =>
      rw [built] at refused
      cases refused

theorem build_set_ranges (ranged : kind.Ranged) {ranges : Json}
    (same : Bucket.list kind.takesMasks ranges =
      Bucket.list kind.takesMasks (a.field "ranges")) :
    Aggregation.build kind (a.set "ranges" ranges) = Aggregation.build kind a := by
  have computed : Computation.build kind (a.set "ranges" ranges) = Computation.build kind a := by
    cases ranged with
    | range | dateRange | geoDistance =>
      change Bucket.list false ranges = Bucket.list false (a.field "ranges") at same
      simp (disch := decide) only [Computation.build, Object.field_set, Object.field_set_of_ne,
        same]
    | ipRange =>
      change Bucket.list true ranges = Bucket.list true (a.field "ranges") at same
      simp (disch := decide) only [Computation.build, Object.field_set, Object.field_set_of_ne,
        same]
  simp (disch := decide) only [Aggregation.build, Object.field_set_of_ne, computed]

theorem list_of_build (ranged : kind.Ranged) {aggregation : Aggregation}
    (built : Aggregation.build kind a = .ok aggregation) :
    ∃ buckets, Bucket.list kind.takesMasks (a.field "ranges") = .ok buckets :=
  ((succeeds_build_iff ranged a).mp ⟨aggregation, built⟩).2

theorem get?_kept_ranges (ranged : kind.Ranged) {buckets : List Bucket}
    (listed : Bucket.list kind.takesMasks (a.field "ranges") = .ok buckets) :
    (kind.kept a).get? "ranges" = some (Computation.bucketsJson buckets) := by
  have tabled : (kind.table a).get? "ranges" = some (kind.rangesIn a) := by
    cases ranged <;> rfl
  rw [rangesIn_of_list kind listed] at tabled
  rw [kept]
  split
  · exact tabled
  · rw [Object.get?_given (kind.nodup_table a), tabled]
    rfl

theorem succeeds_toJson_of_build (ranged : kind.Ranged) {aggregation : Aggregation} {extra : Object}
    (built : Aggregation.build kind a = .ok aggregation) (plain : a.field "options" = .obj extra) :
    Succeeds aggregation.toJson := by
  obtain ⟨made, options⟩ := Aggregation.build_eq_ok built
  have same := kind_of_build made
  rw [plain] at options
  have simple : aggregation.computation.Copied ∧
      aggregation.computation.ordersByContainer = false := by
    cases computed : aggregation.computation <;> rw [computed] at same <;> subst same <;>
      first | exact ⟨trivial, rfl⟩ | cases ranged
  exact (Aggregation.succeeds_toJson simple.1 options).mpr simple.2

/-- An aggregation by ranges is made of fields that are accepted and of no others. As many ranges
are written as are given, in their order, and each says what the one that is given says. From those
that are written the same aggregation is made again. -/
theorem ranges_rendered (ranged : kind.Ranged) (a : Object) :
    (Succeeds (Aggregation.build kind a) ↔ ∃ items, kind.Accepts a items) ∧
    (∀ failure, Aggregation.build kind a = .error failure → ∃ fault, failure = .argument fault) ∧
    ∀ (aggregation : Aggregation) (extra : Object), Aggregation.build kind a = .ok aggregation →
      a.field "options" = .obj extra → "ranges" ∉ extra.keys →
      ∃ (items : List Json) (entries : List Object) (body : Object),
        a.field "ranges" = .arr items ∧
        aggregation.toJson = .ok (Object.only kind.name (.obj body)) ∧
        body.get? "ranges" = some (.arr (entries.map .obj)) ∧
        List.Forall₂ (Bucket.Renders kind.takesMasks) items entries ∧
        Aggregation.build kind (a.set "ranges" (.arr (entries.map .obj))) = .ok aggregation := by
  refine ⟨succeeds_build_iff_accepts ranged a, fun failure => argument_of_build,
    fun aggregation extra built plain free => ?_⟩
  obtain ⟨buckets, listed⟩ := list_of_build ranged built
  obtain ⟨json, written⟩ := succeeds_toJson_of_build ranged built plain
  obtain ⟨body, same, joins⟩ := joined_of_build built plain written
  obtain ⟨items, given, _, ranges, rfl⟩ := Bucket.list_eq_ok.mp listed
  let entries := items.map fun item => (Bucket.reading kind.takesMasks item).entries
  have rendered : Json.arr (entries.map .obj) =
      Computation.bucketsJson (items.map (.reading kind.takesMasks)) := by
    rw [Computation.bucketsJson, List.map_map, List.map_map]
    rfl
  refine ⟨items, entries, body, given, written.trans (congrArg _ same), ?_, ?_, ?_⟩
  · rw [joins.entries, Object.get?_eq_none.mpr free, Option.none_or, get?_kept_ranges ranged listed,
      rendered]
  · exact List.forall₂_map_right_iff.mpr (List.forall₂_same.mpr fun item member =>
      Bucket.renders_entries (ranges item member))
  · rw [rendered, build_set_ranges ranged ((Bucket.list_again listed).trans listed.symm), built]

def addresses : List Json :=
  [.str "10.0.0.0/25", .arr [.null, .str "10.0.0.9"],
   .obj [("to", .null), ("key", .str "rest"), ("mask", .str "11.0.0.0/8"), ("size", .int 1)]]

theorem ranges_rendered_addresses :
    ipRange.Ranged ∧
    Aggregation.build .ipRange (networkFields (.arr addresses)) =
      .ok ⟨"nets", .ipRange "ip" (addresses.map (.reading true)), .obj []⟩ ∧
    (∃ entries, List.Forall₂ (Bucket.Renders true) addresses entries ∧
      Aggregation.build .ipRange
          ((networkFields (.arr addresses)).set "ranges" (.arr (entries.map .obj))) =
        .ok ⟨"nets", .ipRange "ip" (addresses.map (.reading true)), .obj []⟩) ∧
    ¬ ∃ items, ipRange.Accepts (networkFields (.arr [.arr [.null, .null]])) items := by
  have built : Aggregation.build .ipRange (networkFields (.arr addresses)) =
      .ok ⟨"nets", .ipRange "ip" (addresses.map (.reading true)), .obj []⟩ := rfl
  refine ⟨.ipRange, built, ?_, ?_⟩
  · obtain ⟨items, entries, _, given, _, _, rendered, again⟩ :=
      (ranges_rendered .ipRange (networkFields (.arr addresses))).2.2 _ [] built rfl
        List.not_mem_nil
    cases given
    exact ⟨entries, rendered, again⟩
  · rw [← (ranges_rendered .ipRange _).1]
    exact not_succeeds_error _

end AggregationKind

end SearchRequest
