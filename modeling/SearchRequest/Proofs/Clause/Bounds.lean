import SearchRequest.Proofs.Clause.Carried

/-!
Bounding boxes. Points are read in two forms, by corners or by edges, and in each of them as a list
or by name; both notations of a form make the same clause, which can be made again from what is
written for it, and clauses of different forms are written differently.
-/

namespace SearchRequest

/-- Every one of the keys, no other, and none of them twice. -/
structure Object.HasExactly (o : Object) (keys : List String) : Prop where
  distinct : o.keys.Nodup
  same : ∀ key, key ∈ o.keys ↔ key ∈ keys

namespace Bounds

theorem sameKeys_iff {o : Object} {keys : List String} (distinct : keys.Nodup) :
    sameKeys o keys = true ↔ o.HasExactly keys := by
  constructor
  · intro same
    have perm : o.keys.Perm keys := by
      have entries := (LeafKind.perm_of_sameKeys distinct same).map (·.1)
      rw [List.map_map] at entries
      exact entries.trans (.of_eq (List.map_id keys))
    exact ⟨perm.nodup_iff.mpr distinct, fun key => perm.mem_iff⟩
  · rintro ⟨once, same⟩
    have perm := (List.perm_ext_iff_of_nodup once distinct).mpr same
    have length : o.length = keys.length := (List.length_map _).symm.trans perm.length_eq
    rw [sameKeys, Bool.and_eq_true, beq_iff_eq, List.all_eq_true]
    refine ⟨length, fun key listed => ?_⟩
    rw [← Bool.not_eq_false, Object.has_eq_false, not_not]
    exact (same key).mpr listed

inductive Form
  | corners
  | edges
deriving DecidableEq, Repr

namespace Form

def keys : Form → List String
  | .corners => cornerKeys
  | .edges => edgeKeys

theorem nodup_keys (form : Form) : form.keys.Nodup := by
  cases form <;> decide

/-- The points are of the form: a list with as many items as there are keys, or an object with these
keys. -/
inductive Accepts (form : Form) : Json → Prop
  | listed {items : List Json} (length : items.length = form.keys.length) :
      Accepts form (.arr items)
  | named {o : Object} (exactly : o.HasExactly form.keys) : Accepts form (.obj o)

end Form

def form : Bounds → Form
  | .corners .. => .corners
  | .edges .. => .edges

theorem ofPoints?_obj {form : Form} {o : Object} (exactly : o.HasExactly form.keys) :
    ofPoints? (.obj o) = ofPoints? (.arr (form.keys.map o.field)) := by
  have same := (sameKeys_iff form.nodup_keys).mpr exactly
  cases form with
  | corners =>
    change sameKeys o cornerKeys = true at same
    rw [ofPoints?, if_pos same]
    rfl
  | edges =>
    change sameKeys o edgeKeys = true at same
    have other : ¬ sameKeys o cornerKeys = true := fun two => by
      have first := (Bool.and_eq_true_iff.mp two).1
      have second := (Bool.and_eq_true_iff.mp same).1
      rw [beq_iff_eq] at first second
      exact absurd (first.symm.trans second) (by decide)
    rw [ofPoints?, if_neg other, if_pos same]
    rfl

theorem ofPoints?_arr {form : Form} {items : List Json} (length : items.length = form.keys.length) :
    ∃ bounds, ofPoints? (.arr items) = some bounds ∧ bounds.form = form := by
  cases form with
  | corners =>
    obtain ⟨a, b, rfl⟩ := List.length_eq_two.mp length
    exact ⟨_, rfl, rfl⟩
  | edges =>
    obtain ⟨top, left, bottom, right, rfl⟩ : ∃ top left bottom right,
        items = [top, left, bottom, right] := by
      match items, length with
      | [top, left, bottom, right], _ => exact ⟨top, left, bottom, right, rfl⟩
    exact ⟨_, rfl, rfl⟩

theorem Form.Accepts.read {form : Form} {points : Json} (accepted : form.Accepts points) :
    ∃ bounds, ofPoints? points = some bounds ∧ bounds.form = form := by
  cases accepted with
  | listed length => exact ofPoints?_arr length
  | named exactly =>
    rw [ofPoints?_obj exactly]
    exact ofPoints?_arr (List.length_map _)

theorem accepts_of_read {points : Json} {bounds : Bounds} (read : ofPoints? points = some bounds) :
    bounds.form.Accepts points := by
  unfold ofPoints? at read
  split at read
  case h_1 => cases read; exact .listed rfl
  case h_2 => cases read; exact .listed rfl
  case h_3 =>
    split at read
    case isTrue same => cases read; exact .named ((sameKeys_iff Form.corners.nodup_keys).mp same)
    case isFalse =>
      split at read
      case isTrue same => cases read; exact .named ((sameKeys_iff Form.edges.nodup_keys).mp same)
      case isFalse => cases read
  case h_4 => cases read

theorem Form.Accepts.form_of_read {form : Form} {points : Json} {bounds : Bounds}
    (accepted : form.Accepts points) (read : ofPoints? points = some bounds) :
    bounds.form = form := by
  obtain ⟨other, found, same⟩ := accepted.read
  rwa [← Option.some.inj (found.symm.trans read)]

theorem ofPoints?_toJson (bounds : Bounds) : ofPoints? bounds.toJson = some bounds := by
  cases bounds <;> rfl

theorem at?_toJson (bounds : Bounds) :
    (bounds.toJson.at? ["top_left"]).isSome = true ↔ bounds.form = .corners := by
  cases bounds with
  | corners a b => exact iff_of_true rfl rfl
  | edges top left bottom right => exact iff_of_false nofun nofun

end Bounds

namespace Leaf

def box (field points options : Json) : Except Failure Leaf :=
  build .geoBoundingBox [("field", field), ("points", points), ("options", options)]

theorem box_eq_ok {field points options : Json} {leaf : Leaf} :
    box field points options = .ok leaf ↔
      ∃ name bounds, field = .str name ∧ Text.isBlank name = false ∧
        Bounds.ofPoints? points = some bounds ∧ leaf = .geoBoundingBox name bounds options := by
  constructor
  · intro built
    obtain ⟨name, named, built⟩ := bind_eq_ok.mp built
    obtain ⟨bounds, read, same⟩ := bind_eq_ok.mp built
    cases same
    obtain ⟨given, filled⟩ := LeafKind.nameIn_eq_ok.mp named
    exact ⟨name, bounds, given, filled, LeafKind.boundsIn_eq_ok read, rfl⟩
  · rintro ⟨name, bounds, rfl, filled, read, rfl⟩
    have named : LeafKind.nameIn .geoBoundingBox (.str name) = .ok name :=
      LeafKind.nameIn_eq_ok.mpr ⟨rfl, filled⟩
    have taken : LeafKind.boundsIn .geoBoundingBox points = .ok bounds := by
      rw [LeafKind.boundsIn, read]
    change (LeafKind.nameIn .geoBoundingBox (.str name) >>= _) = _
    rw [named, bind_ok]
    change (LeafKind.boundsIn .geoBoundingBox points >>= _) = _
    rw [taken]
    rfl

theorem clause_of_box {field points options : Json} {failure : Failure}
    (refused : box field points options = .error failure) :
    ∃ fault, failure = .clause (.leaf .geoBoundingBox) fault := by
  change (LeafKind.nameIn .geoBoundingBox field >>= _) = _ at refused
  cases named : LeafKind.nameIn .geoBoundingBox field with
  | error blank =>
    rw [named] at refused
    cases refused
    unfold LeafKind.nameIn at named
    split at named
    · split at named <;> cases named
      exact ⟨_, rfl⟩
    · cases named
      exact ⟨_, rfl⟩
  | ok name =>
    rw [named, bind_ok] at refused
    change (LeafKind.boundsIn .geoBoundingBox points >>= _) = _ at refused
    unfold LeafKind.boundsIn at refused
    split at refused <;> cases refused
    exact ⟨_, rfl⟩

theorem box_congr {points others : Json} (same : Bounds.ofPoints? points = Bounds.ofPoints? others)
    (field options : Json) : box field points options = box field others options := by
  have bounds :
      LeafKind.boundsIn .geoBoundingBox points = LeafKind.boundsIn .geoBoundingBox others := by
    rw [LeafKind.boundsIn, same, LeafKind.boundsIn]
  change (LeafKind.nameIn .geoBoundingBox field >>= fun name =>
    LeafKind.boundsIn .geoBoundingBox points >>= _) = _
  rw [bounds]
  rfl

/-- The operation that adds a bounding box takes further arguments for options. -/
theorem request_eq_box {args a : Object}
    (bound : (LeafKind.operationSignature .geoBoundingBox).bind args = .ok a) :
    LeafKind.request .geoBoundingBox args =
      (box (a.field "field") (a.field "points") (a.field "options")).map fun leaf => [leaf] := by
  have made : LeafKind.request .geoBoundingBox args =
      (build .geoBoundingBox a).map fun leaf => [leaf] := by
    rw [LeafKind.request, bound]
    change (build .geoBoundingBox a >>= fun leaf => .ok [leaf]) = _
    cases build .geoBoundingBox a <;> rfl
  rw [made, Signature.fields_of_bind bound]
  rfl

theorem toJson_box (name : String) (bounds : Bounds) :
    (geoBoundingBox name bounds (.obj [])).toJson =
      .ok (Object.only "geo_bounding_box" (Object.only name bounds.toJson)) := by
  rw [toJson, body, LeafKind.spreadOptions_none]
  rfl

theorem at?_box_corners (name : String) {bounds : Bounds} (cornered : bounds.form = .corners) :
    ((Object.only "geo_bounding_box" (Object.only name bounds.toJson)).at?
      ["geo_bounding_box", name, "top_left"]).isSome = true := by
  rw [Json.at?_only, Json.at?_only]
  exact bounds.at?_toJson.mpr cornered

theorem at?_box_edges (name other : String) {bounds : Bounds} (edged : bounds.form = .edges) :
    (Object.only "geo_bounding_box" (Object.only name bounds.toJson)).at?
      ["geo_bounding_box", other, "top_left"] = none := by
  rw [Json.at?_only]
  by_cases same : other = name
  · subst same
    rw [Json.at?_only, ← Option.isNone_iff_eq_none, ← Option.isSome_eq_false_iff,
      ← Bool.not_eq_true, bounds.at?_toJson, edged]
    decide
  · rw [Object.only, Json.at?_obj, Object.get?_cons, if_neg same]
    rfl

/-- A bounding box is made of a name and points of one of the two forms, and of nothing else. An
object of a form makes the same box as the list of its values. What is written for the bounds of a
box is read as these bounds and makes the same box again. Boxes of different forms are written with
different keys. -/
theorem boxes_of_points :
    (∀ field points options, Succeeds (box field points options) ↔
      (∃ name, field = .str name ∧ Text.isBlank name = false) ∧
        ∃ form : Bounds.Form, form.Accepts points) ∧
    (∀ field points options failure, box field points options = .error failure →
      ∃ fault, failure = .clause (.leaf .geoBoundingBox) fault) ∧
    (∀ args a, (LeafKind.operationSignature .geoBoundingBox).bind args = .ok a →
      LeafKind.request .geoBoundingBox args =
        (box (a.field "field") (a.field "points") (a.field "options")).map fun leaf => [leaf]) ∧
    (∀ (form : Bounds.Form) (o : Object) (field options : Json), o.HasExactly form.keys →
      box field (.obj o) options = box field (.arr (form.keys.map o.field)) options) ∧
    (∀ field points options leaf, box field points options = .ok leaf →
      ∃ name bounds, leaf = .geoBoundingBox name bounds options ∧
        Bounds.ofPoints? bounds.toJson = some bounds ∧
        box field bounds.toJson options = .ok leaf) ∧
    ∀ field points leaf other others another,
      box field points (.obj []) = .ok leaf → Bounds.Form.corners.Accepts points →
      box other others (.obj []) = .ok another → Bounds.Form.edges.Accepts others →
      ∃ json differing path, leaf.toJson = .ok json ∧ another.toJson = .ok differing ∧
        (json.at? path).isSome = true ∧ differing.at? path = none := by
  refine ⟨fun field points options => ⟨?_, ?_⟩, fun _ _ _ _ => clause_of_box,
    fun _ _ => request_eq_box, fun form o field options exactly =>
      box_congr (Bounds.ofPoints?_obj exactly) field options,
    fun field points options leaf built => ?_, ?_⟩
  · rintro ⟨leaf, built⟩
    obtain ⟨name, bounds, given, filled, read, _⟩ := box_eq_ok.mp built
    exact ⟨⟨name, given, filled⟩, bounds.form, Bounds.accepts_of_read read⟩
  · rintro ⟨⟨name, given, filled⟩, form, accepted⟩
    obtain ⟨bounds, read, _⟩ := accepted.read
    exact ⟨_, box_eq_ok.mpr ⟨name, bounds, given, filled, read, rfl⟩⟩
  · obtain ⟨name, bounds, given, filled, _, same⟩ := box_eq_ok.mp built
    exact ⟨name, bounds, same, bounds.ofPoints?_toJson,
      box_eq_ok.mpr ⟨name, bounds, given, filled, bounds.ofPoints?_toJson, same⟩⟩
  · intro field points leaf other others another built cornered builtOther edged
    obtain ⟨name, bounds, _, _, read, rfl⟩ := box_eq_ok.mp built
    obtain ⟨otherName, otherBounds, _, _, readOther, rfl⟩ := box_eq_ok.mp builtOther
    have corners : bounds.form = .corners := cornered.form_of_read read
    have edges : otherBounds.form = .edges := edged.form_of_read readOther
    exact ⟨_, _, ["geo_bounding_box", name, "top_left"], toJson_box name bounds,
      toJson_box otherName otherBounds, at?_box_corners name corners,
      at?_box_edges otherName name edges⟩

theorem boxes_of_points_turned :
    box (.str "place") (.obj [("bottom_right", .str "b"), ("top_left", .str "a")])
        (.obj [("boost", .int 2)]) =
      box (.str "place") (.arr [.str "a", .str "b"]) (.obj [("boost", .int 2)]) ∧
    Succeeds (box (.str "place") (.arr [.str "a", .str "b"]) (.obj [("boost", .int 2)])) ∧
    ¬ Succeeds (box (.str "place") (.obj [("top_left", .str "a"), ("bottom", .str "b")])
      (.obj [])) := by
  obtain ⟨accepted, _, _, notations, _⟩ := boxes_of_points
  refine ⟨notations .corners _ _ _ ⟨by decide, fun key => ?_⟩,
    (accepted _ _ _).mpr ⟨⟨"place", rfl, by decide⟩, .corners, .listed rfl⟩, ?_⟩
  · exact (List.Perm.swap "top_left" "bottom_right" []).mem_iff
  · rw [accepted]
    rintro ⟨_, form, given⟩
    cases given with
    | named exactly =>
      cases form with
      | corners => exact absurd ((exactly.same "bottom").mp (by decide)) (by decide)
      | edges => exact absurd ((exactly.same "top_left").mp (by decide)) (by decide)

end Leaf

end SearchRequest
